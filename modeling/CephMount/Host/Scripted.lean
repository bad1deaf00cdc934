import CephMount.Host.Shell
import CephMount.MountTable

/-!
A host whose programs answer from queued replies and note every start. A successful
`mount -t <type> <source> <target> -o <data>` appends the line the kernel would write to the table
file, and `umount` removes the last line with its mountpoint, exiting with 32 when there is none; a
mount whose data names a `secretfile=` notes what is at that path.
-/
namespace CephMount.Host

/-- One scripted answer of a program. -/
structure Reply where
  code : Int := 0
  stdout : String := ""
  stderr : String := ""
  effect : Bool := true
  abort : Bool := false
  deriving DecidableEq, Repr

namespace Reply

/-- The program's exit word: the code as a 32-bit two's complement integer. -/
def word (r : Reply) : Int := Int.bmod r.code (Nat.pow 2 32)

/-- The exit status the caller sees: the low eight bits of the exit word. -/
def status (r : Reply) : Int := r.code % 256

/-- Whether the program itself finished well, so that its effects take place. -/
def finished (r : Reply) : Bool := r.word == 0 && r.effect

end Reply

/-- What a mount program sees at the secret file its data names: the text (none for a
directory) and the permission bits. -/
structure SecretSeen where
  text : String
  mode : Nat
  deriving DecidableEq, Repr

/-- A start of a program on the scripted host. -/
structure Invocation where
  argv : List String
  /-- For a mount whose data names a secret file: what was there, if anything. -/
  secret : Option (Option SecretSeen) := none
  deriving DecidableEq, Repr

/-- The state of a scripted host. -/
structure ScriptedHost where
  files : FileTree
  replies : List (String × List Reply) := []
  missing : List String := []
  unexecutable : List String := []
  invocations : List Invocation := []
  deriving DecidableEq, Repr

namespace ScriptedHost

def programs : List String :=
  ["mount", "umount", "mkdir", "rmdir", "apt-get", "systemd-detect-virt", "sudo", "pkexec"]

/-- The programs that run another program as root. -/
def wrappers : List String := ["sudo", "pkexec"]

def tablePath : String := "mounts"

def defaultReply (name : String) : Reply :=
  if name = "systemd-detect-virt" then { code := 1, stdout := "none" } else {}

def takeReply (name : String) (h : ScriptedHost) : Option Reply × ScriptedHost :=
  match h.replies.lookup name with
  | some (r :: rest) =>
    (some r, { h with replies := h.replies.map fun (n, q) => if n = name then (n, rest) else (n, q) })
  | _ => (none, h)

def tableLines (h : ScriptedHost) : Option (List String) :=
  (h.files.readFile tablePath).toOption.map MountTable.lines

/-- The host with its table file holding the given lines; the file keeps its mode. -/
def withLines (lines : List String) (h : ScriptedHost) : ScriptedHost :=
  let k := FileTree.key tablePath
  let mode := ((h.files.find? k).map Node.mode).getD FileTree.fileMode
  let text := String.join (lines.map (· ++ "\n"))
  { h with files := h.files.put k (.file text mode) }

def valueAfter (flag : String) : List String → Option String
  | [] => none
  | w :: rest => if w = flag then rest.head? else valueAfter flag rest

/-- A mount command line as the mount program reads it: the type as the second argument when the
first is `-t`, the data after the first `-o`, and the source and the target as the third and
fourth arguments. -/
structure MountCall where
  fstype : Option String
  data : Option String
  source : Option String
  target : Option String

def MountCall.ofArgs (args : List String) : MountCall :=
  { fstype := if args.head? = some "-t" then args[1]? else none, data := valueAfter "-o" args,
    source := args[2]?, target := args[3]? }

/-- The options of a mount's data. -/
def MountCall.options (c : MountCall) : List String := (c.data.getD "").splitOn ","

/-- The table line that a mount command line adds: none without a type, a source and a
target. -/
def MountCall.line? (c : MountCall) : Option String :=
  match c.fstype, c.source, c.target with
  | some fstype, some source, some target =>
    let opts := c.options
    let flags := ["noexec", "nosuid", "nodev"].filter opts.contains
    let name := (opts.find? (·.startsWith "name=")).toList
    let words := [if opts.contains "ro" then "ro" else "rw"] ++ flags ++ ["relatime"] ++ name
    some (" ".intercalate [MountTable.escape source, MountTable.escape target, fstype,
      ",".intercalate words, "0", "0"])
  | _, _, _ => none

def MountCall.secretFile? (c : MountCall) : Option String :=
  (c.options.find? (·.startsWith "secretfile=")).map fun opt =>
    String.ofList (opt.toList.drop "secretfile=".length)

/-- What a start of `mount` notes about its secret: nothing when its data names no secret
file, else what is at that path, if anything: a file with its text, a directory with none. -/
def secretNote (args : List String) (h : ScriptedHost) : Option (Option SecretSeen) :=
  (MountCall.ofArgs args).secretFile?.map fun path => (h.files.stat? path).map fun
    | .file c m => ⟨c, m⟩
    | .dir m => ⟨"", m⟩

/-- The effects of a program's reply on the host, and the reply as it finally stands. -/
def effects (name : String) (args : List String) (r : Reply) (h : ScriptedHost) :
    Reply × ScriptedHost :=
  if !r.finished then (r, h)
  else if name = "mount" then
    match (MountCall.ofArgs args).line? with
    | some line => (r, h.withLines ((h.tableLines.getD []) ++ [line]))
    | none => (r, h)
  else if name = "umount" then
    let target := args.headD ""
    let lines := h.tableLines.getD []
    let hit (l : String) : Bool := match MountEntry.ofLine? l with
      | some e => Path.same e.mountpoint target
      | none => false
    match lines.reverse.findIdx? hit with
    | some i => (r, h.withLines (lines.reverse.eraseIdx i).reverse)
    | none => ({ r with code := 32, stderr := "umount: " ++ target ++ ": not mounted." }, h)
  else (r, h)

/-- The output a reply gives: an aborted program prints nothing and has no status. -/
def output (r : Reply) : CommandOutput :=
  if r.abort then { code := none, stdout := "", stderr := "" }
  else { code := some r.status, stdout := r.stdout, stderr := r.stderr }

/-- Starts a program. A zero byte in its name or an argument stops it before it starts, as a
missing program does. -/
def exec (program : String) (args : List String) (h : ScriptedHost) :
    Except OsError CommandOutput × ScriptedHost :=
  if (program :: args).any (·.contains (Char.ofNat 0)) then (.error .nulInArgument, h)
  else if !programs.contains program || h.missing.contains program then (.error .notFound, h)
  else if h.unexecutable.contains program then (.error .permissionDenied, h)
  else
    let wrapped := wrappers.contains program
    let (name, rest) := match wrapped, args with
      | true, p :: r => (p, r)
      | true, [] => ("", [])
      | false, _ => (program, args)
    let note (secret : Option (Option SecretSeen)) (h : ScriptedHost) : ScriptedHost :=
      { h with invocations := h.invocations ++ [{ argv := program :: args, secret }] }
    let (own, h) := if wrapped then h.takeReply program else (none, h)
    match own with
    | some r => (.ok (output r), note none h)
    | none =>
      let h := note (if name = "mount" then secretNote rest h else none) h
      let (r, h) := h.takeReply name
      let (r, h) := effects name rest (r.getD (defaultReply name)) h
      (.ok (output r), h)

def shell : Shell ScriptedHost where
  files h := h.files
  withFiles files h := { h with files }
  exec := exec

end ScriptedHost

end CephMount.Host
