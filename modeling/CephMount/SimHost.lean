import CephMount.Reconcile
import CephMount.Error

/-!
A simulated host: its mount table as lines, unit records under `peers`, failures queued for mount
and unmount calls, and a probe that can be broken.
-/
namespace CephMount

/-- A call made to the simulated host. -/
inductive SimCall where
  | mount (spec : MountSpec)
  | unmount (mountpoint : String)
  deriving DecidableEq, Repr

/-- The state of a simulated host. -/
structure SimHost where
  lines : List String
  broken : Bool := false
  mountFailures : List String := []
  unmountFailures : List String := []
  breakAfterCall : Bool := false
  calls : List SimCall := []
  files : FileTree := FileTree.empty
  deriving DecidableEq, Repr

namespace SimHost

def tablePath : String := "mounts"

def store : PeerStore := ⟨"peers"⟩

def secretFile : String := "/run/cephfs-client/secret"

/-- A host with the given table lines and an empty record directory. -/
def ofLines (lines : List String) : SimHost :=
  { lines, files := FileTree.empty.put (FileTree.key store.dir) (.dir FileTree.dirMode) }

def tableText (lines : List String) : String := String.join (lines.map (· ++ "\n"))

def table (h : SimHost) : Except Error (List MountEntry) :=
  MountTable.load tablePath (if h.broken then .error .notFound else .ok (tableText h.lines))

def mountLine (spec : MountSpec) : String :=
  let o := spec.options
  let flags := [(o.noexec, "noexec"), (o.nosuid, "nosuid"), (o.nodev, "nodev")].filterMap
    fun (set, word) => if set then some word else none
  let c := spec.connection
  let opts := [if o.readOnly then "ro" else "rw"] ++ flags ++
    ["relatime", "name=" ++ c.name, "fsid=" ++ c.fsid] ++
    (c.mdsNamespace.map ("mds_namespace=" ++ ·)).toList
  " ".intercalate [MountTable.escape spec.source, MountTable.escape spec.target, spec.fstype,
    ",".intercalate opts, "0", "0"]

/-- The lines without the last one whose mountpoint is the same path; none if there is none. -/
def removeLast (path : String) (lines : List String) : Option (List String) :=
  let hit (l : String) : Bool := match MountEntry.ofLine? l with
    | some e => Path.same e.mountpoint path
    | none => false
  match (lines.reverse.findIdx? hit) with
  | some i => some (lines.reverse.eraseIdx i).reverse
  | none => none

def afterCall (h : SimHost) : SimHost :=
  if h.breakAfterCall then { h with broken := true, breakAfterCall := false } else h

/-- A mount call. -/
def mount (spec : MountSpec) (h : SimHost) : Except Error Unit × SimHost :=
  let h := { h with calls := h.calls ++ [SimCall.mount spec] }
  match h.mountFailures with
  | m :: rest =>
    (.error (.mount spec.target (FailureKind.classify m) m), afterCall { h with mountFailures := rest })
  | [] => (.ok (), afterCall { h with lines := h.lines ++ [mountLine spec] })

/-- An unmount call. -/
def unmount (path : String) (h : SimHost) : Except Error Unit × SimHost :=
  let h := { h with calls := h.calls ++ [SimCall.unmount path] }
  match h.unmountFailures with
  | m :: rest =>
    (.error (.unmount path (FailureKind.classify m) m), afterCall { h with unmountFailures := rest })
  | [] =>
    match removeLast path h.lines with
    | some lines => (.ok (), afterCall { h with lines })
    | none =>
      let m := "umount: " ++ path ++ ": not mounted."
      (.error (.unmount path (FailureKind.classify m) m), afterCall h)

def machine : Machine SimHost where
  observe path h := h.table.map (MountTable.observe · path)
  cephMounts h := h.table.map MountTable.cephMounts
  mount := mount
  unmount := unmount
  readRecord unitId h := store.read unitId h.files
  readAll h := store.readAll h.files
  publish r h :=
    let (result, files) := store.publish r h.files
    (result, { h with files })

/-- Whether a name names a file directly inside a directory: not empty, neither `.` nor `..`,
and without a slash or a NUL character. -/
def isPlainName (name : String) : Bool :=
  !name.isEmpty && name != "." && name != ".." && !name.contains '/' &&
    !name.contains (Char.ofNat 0)

def peerPath (name : String) : String := Path.join store.dir name

def writePeer (name content : String) (h : SimHost) : SimHost :=
  { h with files := h.files.put (FileTree.key (peerPath name)) (.file content FileTree.fileMode) }

/-- Removes a file from the record directory; tells whether it was there. -/
def removePeer (name : String) (h : SimHost) : Bool × SimHost :=
  match h.files.removeFile (peerPath name) with
  | .ok files => (true, { h with files })
  | .error _ => (false, h)

def peerDirEntry (name : String) (h : SimHost) : SimHost :=
  let k := FileTree.key (peerPath name)
  { h with files := (h.files.eraseTree k).put k (.dir FileTree.dirMode) }

def peersAsFile (h : SimHost) : SimHost :=
  let k := FileTree.key store.dir
  { h with files := (h.files.eraseTree k).put k (.file "" FileTree.fileMode) }

/-- Brings back an empty record directory where the record directory is not one; a record
directory that is there stays as it is. -/
def peersRestore (h : SimHost) : SimHost :=
  if h.files.isDir store.dir then h
  else
    let k := FileTree.key store.dir
    { h with files := (h.files.eraseTree k).put k (.dir FileTree.dirMode) }

/-- Removes the last table line with the given mountpoint; tells whether there was one. -/
def removeLine (path : String) (h : SimHost) : Bool × SimHost :=
  match removeLast path h.lines with
  | some lines => (true, { h with lines })
  | none => (false, h)

end SimHost

end CephMount
