import CephMount.Path
import CephMount.Error

/-!
A directory tree of text files, keyed by the names from the working directory or the root, with
paths read as the system reads them: every step goes through a directory, a trailing slash names
a directory, and paths and names are checked against `pathMax` and `nameMax` first. An operation
that creates or removes an entry acts in the directory that holds the path's last name;
`createDirAll` makes missing ancestors as well. New files get the mode `0o644` and new
directories `0o755`.
-/
namespace CephMount

/-- One entry of a tree, with its permission bits. -/
inductive Node where
  | file (content : String) (mode : Nat)
  | dir (mode : Nat)
  deriving DecidableEq, Repr

namespace Node

def isDir : Node → Bool
  | .dir _ => true
  | .file _ _ => false

/-- The permission bits of an entry. -/
def mode : Node → Nat
  | .file _ m => m
  | .dir m => m

end Node

/-- A tree of files and directories, keyed by path components. -/
structure FileTree where
  nodes : List (List String × Node)
  deriving DecidableEq, Repr

namespace FileTree

def fileMode : Nat := 0o644

def dirMode : Nat := 0o755

/-- The key of a path whose names are all plain: its components without `.`. -/
def key (path : String) : List String :=
  (Path.components path).filterMap fun
    | .current => none
    | c => some c.text

/-- The empty tree. -/
def empty : FileTree := ⟨[]⟩

/-- Whether a key names a directory that always exists: the working directory, one above it,
or the root. -/
def isFixed (k : List String) : Bool := k.all (· == "..") || k == ["/"]

/-- The entry at a key; the working directory, those above it and the root are directories. -/
def find? (t : FileTree) (k : List String) : Option Node :=
  if isFixed k then some (.dir dirMode) else t.nodes.lookup k

def erase (t : FileTree) (k : List String) : FileTree := ⟨t.nodes.filter (·.1 != k)⟩

def put (t : FileTree) (k : List String) (n : Node) : FileTree :=
  ⟨(t.erase k).nodes ++ [(k, n)]⟩

def eraseTree (t : FileTree) (k : List String) : FileTree :=
  ⟨t.nodes.filter fun (p, _) => !k.isPrefixOf p⟩

/-- The tree with an entry at a key, its missing ancestors made directories; unchanged when an
ancestor is a file. -/
def graft (t : FileTree) (k : List String) (n : Node) : FileTree :=
  let ancestors := (List.range k.length).map (k.take ·)
  if ancestors.any (fun a => (t.find? a).any (!·.isDir)) then t
  else
    let t := ancestors.foldl (fun t a => if (t.find? a).isSome then t else t.put a (.dir dirMode)) t
    t.put k n

/-- The names of the entries directly inside a key, in sorted order. -/
def childNames (t : FileTree) (k : List String) : List String :=
  (t.nodes.filterMap fun (p, _) =>
    if p.length = k.length + 1 ∧ k.isPrefixOf p then p.getLast? else none).mergeSort
    (fun a b => decide (a ≤ b))

def enter (t : FileTree) (k : List String) : Except OsError Unit :=
  match t.find? k with
  | some (.dir _) => pure ()
  | some (.file _ _) => throw .notADirectory
  | none => throw .notFound

/-- The parent of a key. The root is its own parent; the parent of the working directory lies
outside the tree and keeps its `..`. -/
def parentKey (k : List String) : List String :=
  if k = ["/"] then k
  else match k.getLast? with
    | none | some ".." => k ++ [".."]
    | some _ => k.dropLast

/-- The longest name a directory holds, in bytes. -/
def nameMax : Nat := 255

/-- The longest path the system takes, in bytes: its path buffer holds 4096 with the
terminating zero. -/
def pathMax : Nat := 4095

/-- Checks a path before it is used: it must have no zero byte and fit the path buffer. -/
def checkPath (path : String) : Except OsError Unit :=
  if path.contains (Char.ofNat 0) then throw .nulInPath
  else if path.utf8ByteSize > pathMax then throw .nameTooLong
  else pure ()

def checkName (name : String) : Except OsError Unit :=
  if name.utf8ByteSize > nameMax then throw .nameTooLong else pure ()

/-- Walks names from a directory's key: `.` stays, `..` steps out, a name steps in; each step
starts from a directory. -/
def walk (t : FileTree) (acc : List String) : List String → Except OsError (List String)
  | [] => pure acc
  | c :: rest => do
    t.enter acc
    if c = "." then walk t acc rest
    else if c = ".." then walk t (parentKey acc) rest
    else
      checkName c
      walk t (acc ++ [c]) rest

/-- The names of a path: the pieces between its slashes. -/
def names (path : String) : List String :=
  ((path.toList.splitOn '/').map String.ofList).filter (· ≠ "")

/-- The key a path starts from: the root for an absolute path, else the working directory. -/
def start (path : String) : List String := if path.startsWith "/" then ["/"] else []

/-- Whether a path ends in a slash after a name, so that it names a directory. -/
def trailing (path : String) : Bool := path.endsWith "/" && !(names path).isEmpty

/-- The key of what a path names; an entry behind a final slash must be a directory. -/
def locate (t : FileTree) (path : String) : Except OsError (List String) := do
  checkPath path
  if path.isEmpty then throw .notFound
  let k ← t.walk (start path) (names path)
  if trailing path then
    match t.find? k with
    | some (.file _ _) => throw .notADirectory
    | _ => pure ()
  pure k

/-- The last name of a path. -/
inductive Last where
  | name (n : String)
  | current
  | parent
  /-- The root, which has no last name. -/
  | root
  deriving DecidableEq, Repr

/-- Walks a path up to its last name: the key of the directory that holds it, and the name. -/
def lastStep (t : FileTree) (path : String) : Except OsError (List String × Last) := do
  checkPath path
  match (names path).getLast? with
  | none => if path.startsWith "/" then pure (["/"], .root) else throw .notFound
  | some n =>
    let dir ← t.walk (start path) (names path).dropLast
    t.enter dir
    if n = "." then pure (dir, .current)
    else if n = ".." then pure (dir, .parent)
    else
      checkName n
      pure (dir, .name n)

def stat? (t : FileTree) (path : String) : Option Node :=
  match t.locate path with
  | .ok k => t.find? k
  | .error _ => none

def isDir (t : FileTree) (path : String) : Bool := (t.stat? path).any (·.isDir)

def isFile (t : FileTree) (path : String) : Bool := (t.stat? path).any (!·.isDir)

def readFile (t : FileTree) (path : String) : Except OsError String := do
  let k ← t.locate path
  match t.find? k with
  | some (.file c _) => pure c
  | some (.dir _) => throw .isADirectory
  | none => throw .notFound

/-- Creates or truncates a file and writes its text; a new file gets the mode given, a file that
was there keeps its own. -/
def writeFileWith (t : FileTree) (path content : String) (mode : Nat) :
    Except OsError FileTree := do
  let (dir, last) ← t.lastStep path
  match last with
  | .name n =>
    let k := dir ++ [n]
    match t.find? k with
    | some (.dir _) => throw .isADirectory
    | some (.file _ m) =>
      if trailing path then throw .notADirectory else pure (t.put k (.file content m))
    | none => if trailing path then throw .isADirectory else pure (t.put k (.file content mode))
  | _ => throw .isADirectory

def writeFile (t : FileTree) (path content : String) : Except OsError FileTree :=
  t.writeFileWith path content fileMode

def setMode (t : FileTree) (path : String) (mode : Nat) : Except OsError FileTree := do
  let k ← t.locate path
  match t.find? k with
  | some (.file c _) => pure (t.put k (.file c mode))
  | some (.dir _) => pure (if isFixed k then t else t.put k (.dir mode))
  | none => throw .notFound

def createDirWith (t : FileTree) (path : String) (mode : Nat) : Except OsError FileTree := do
  let (dir, last) ← t.lastStep path
  match last with
  | .name n =>
    match t.find? (dir ++ [n]) with
    | some _ => throw .alreadyExists
    | none => pure (t.put (dir ++ [n]) (.dir mode))
  | _ => throw .alreadyExists

/-- Creates the directory a path names, given with its components, and its missing ancestors:
the path is tried first, then its parent the same way, then the path again; a directory already
there is accepted. The directories made before a failure stay made. -/
def createDirChain (t : FileTree) (mode : Nat) (path : String) :
    List Component → Except OsError Unit × FileTree
  | [] => (.ok (), t)
  | c :: cs =>
    match t.createDirWith path mode with
    | .ok t => (.ok (), t)
    | .error .notFound =>
      let parent := (c :: cs).dropLast
      match t.createDirChain mode (Path.ofComponents parent) parent with
      | (.error e, t) => (.error e, t)
      | (.ok (), t) =>
        match t.createDirWith path mode with
        | .ok t => (.ok (), t)
        | .error e => (if t.isDir path then .ok () else .error e, t)
    | .error e => (if t.isDir path then .ok () else .error e, t)
termination_by cs => cs.length
decreasing_by simp

/-- Creates a directory and its missing ancestors, each with the mode given; the ancestors made
before a failure stay made. -/
def createDirAllWith (t : FileTree) (path : String) (mode : Nat) : Except OsError Unit × FileTree :=
  t.createDirChain mode path (Path.components path)

/-- Creates a directory and its missing ancestors. -/
def createDirAll (t : FileTree) (path : String) : Except OsError Unit × FileTree :=
  t.createDirAllWith path dirMode

/-- The tree with the entry at one key, and everything below it, moved to another key, replacing
what was there. -/
def move (t : FileTree) (src dst : List String) : FileTree :=
  if src = dst then t
  else
    let moved := t.nodes.filterMap fun (p, n) =>
      if src.isPrefixOf p then some (dst ++ p.drop src.length, n) else none
    ⟨(t.nodes.filter fun (p, _) => !src.isPrefixOf p && !dst.isPrefixOf p) ++ moved⟩

/-- Moves an entry to another path, replacing a file, or an empty directory with a directory. -/
def rename (t : FileTree) (src dst : String) : Except OsError FileTree := do
  let (sdir, slast) ← t.lastStep src
  let (ddir, dlast) ← t.lastStep dst
  match slast, dlast with
  | .name a, .name b =>
    let ks := sdir ++ [a]
    let kd := ddir ++ [b]
    let n ← match t.find? ks with
      | some n => pure n
      | none => throw .notFound
    if !n.isDir && (trailing src || trailing dst) then throw .notADirectory
    match n, t.find? kd with
    | .file _ _, some (.dir _) => throw .isADirectory
    | .dir _, some (.file _ _) => throw .notADirectory
    | .dir _, some (.dir _) =>
      if ks != kd && !(t.childNames kd).isEmpty then throw .directoryNotEmpty
      else pure (t.move ks kd)
    | .dir _, none =>
      if ks.isPrefixOf kd then throw .invalidInput else pure (t.move ks kd)
    | _, _ => pure (t.move ks kd)
  | _, _ => throw .resourceBusy

def removeFile (t : FileTree) (path : String) : Except OsError FileTree := do
  let (dir, last) ← t.lastStep path
  match last with
  | .name n =>
    let k := dir ++ [n]
    match t.find? k with
    | some (.file _ _) => if trailing path then throw .notADirectory else pure (t.erase k)
    | some (.dir _) => throw .isADirectory
    | none => throw .notFound
  | _ => throw .isADirectory

def removeDir (t : FileTree) (path : String) : Except OsError FileTree := do
  let (dir, last) ← t.lastStep path
  match last with
  | .name n =>
    let k := dir ++ [n]
    match t.find? k with
    | some (.dir _) =>
      if (t.childNames k).isEmpty then pure (t.erase k) else throw .directoryNotEmpty
    | some (.file _ _) => throw .notADirectory
    | none => throw .notFound
  | .current => throw .invalidInput
  | .parent => throw .directoryNotEmpty
  | .root => throw .resourceBusy

def readDir (t : FileTree) (path : String) : Except OsError (List String) := do
  let k ← t.locate path
  match t.find? k with
  | some (.dir _) => pure (t.childNames k)
  | some (.file _ _) => throw .notADirectory
  | none => throw .notFound

/-- The entries directly inside a directory, by name in sorted order. -/
def entriesIn (t : FileTree) (path : String) : List (String × Node) :=
  match t.locate path with
  | .ok k => (t.childNames k).filterMap fun name => (t.find? (k ++ [name])).map (name, ·)
  | .error _ => []

def keyLE : List String → List String → Bool
  | [], _ => true
  | _ :: _, [] => false
  | a :: as, b :: bs => if a = b then keyLE as bs else decide (a < b)

/-- Every path below a key, relative to it; directories end in `/`. The paths are sorted by
their names in turn, so a directory comes right before what it holds. -/
def listing (t : FileTree) (k : List String) : List String :=
  let below := t.nodes.filterMap fun (p, n) =>
    if k.isPrefixOf p ∧ k.length < p.length then some (p.drop k.length, n) else none
  (below.mergeSort fun a b => keyLE a.1 b.1).map fun (rel, n) =>
    "/".intercalate rel ++ if n.isDir then "/" else ""

end FileTree

end CephMount
