import CephMount.Cli.Run

/-!
The program's entry point. It loads the files a command needs into a tree, runs the command on
it as the effective user with the environment, and writes back what changed. This build starts no
host programs.
-/
namespace CephMount.Main

/-- The environment variables the agent reads: its own, and those that name the user's
directories. -/
def envNames : List String :=
  ["CEPHFS_CLIENT_UNIT", "CEPHFS_CLIENT_PEER_DIR", "CEPHFS_CLIENT_SECRET_DIR", "HOME",
    "XDG_RUNTIME_DIR", "XDG_STATE_HOME", "XDG_DATA_HOME"]

/-- Whether the agent's effective user is root, as the `Uid` line of `/proc/self/status` says
(real, effective, saved and file system user, in that order). -/
def isRoot : IO Bool := do
  try
    let status ← IO.FS.readFile "/proc/self/status"
    match (status.splitOn "\n").find? (·.startsWith "Uid:") with
    | some line => return ((line.splitOn "\t").filter (· ≠ "")).getD 2 "" == "0"
    | none => return false
  catch _ => return false

def keyPath : List String → String
  | "/" :: rest => "/" ++ "/".intercalate rest
  | k => "/".intercalate k

def shell : Host.Shell FileTree where
  files t := t
  withFiles t _ := t
  exec _ _ t := (.error .notFound, t)

/-- Loads a path into the tree: a file with its text, or a directory with the files directly in
it; its ancestors are taken to be directories. -/
def load (t : FileTree) (path : String) : IO FileTree := do
  let k := FileTree.key path
  try
    let c ← IO.FS.readFile path
    return t.graft k (.file c FileTree.fileMode)
  catch _ =>
    try
      let entries ← (System.mkFilePath [path]).readDir
      let mut t := t.graft k (.dir FileTree.dirMode)
      for e in entries do
        try
          let c ← IO.FS.readFile (Path.join path e.fileName)
          t := t.put (k ++ [e.fileName]) (.file c FileTree.fileMode)
        catch _ =>
          t := t.put (k ++ [e.fileName]) (.dir FileTree.dirMode)
      return t
    catch _ =>
      return t

def rights (mode : Nat) : IO.FileRight :=
  let bits (shift : Nat) : IO.AccessRight :=
    { read := mode.testBit (shift + 2), write := mode.testBit (shift + 1),
      execution := mode.testBit shift }
  { user := bits 6, group := bits 3, other := bits 0 }

/-- Writes to the host what changed between two trees. A file is given its rights before its
text. -/
def store (before after : FileTree) : IO Unit := do
  for (k, n) in before.nodes do
    if after.find? k == none then
      try
        match n with
        | .file _ _ => IO.FS.removeFile (keyPath k)
        | .dir _ => IO.FS.removeDir (keyPath k)
      catch _ => pure ()
  for (k, n) in after.nodes do
    if before.find? k != some n then
      try
        match n with
        | .file c m =>
          IO.FS.writeFile (keyPath k) ""
          IO.setAccessRights (keyPath k) (rights m)
          IO.FS.writeFile (keyPath k) c
        | .dir m =>
          IO.FS.createDirAll (keyPath k)
          IO.setAccessRights (keyPath k) (rights m)
      catch _ => pure ()

end CephMount.Main

open CephMount in
/-- Runs the agent's command line. -/
def main (args : List String) : IO UInt32 := do
  let mut env : List (String × String) := []
  for name in Main.envNames do
    if let some v ← IO.getEnv name then env := env ++ [(name, v)]
  let root ← Main.isRoot
  let account := Cli.Account.ofEnv root env
  let mut t := FileTree.empty
  if let .run r := Cli.parse args env then
    for path in r.relation.toList ++ r.config.toList ++ [r.mountTable,
        r.peerDir.getD (Cli.Defaults.peerDir account), r.secretDir.getD (Cli.Defaults.secretDir account)] do
      t ← Main.load t path
    if let .ok (some p) := r.policy t then t ← Main.load t p.mountpoint
  let (out, after) := Cli.runProgram Main.shell root args env t
  Main.store t after
  IO.print out.stdout
  IO.eprint out.stderr
  (← IO.getStdout).flush
  return out.code.toUInt32
