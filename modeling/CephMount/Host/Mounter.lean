import CephMount.Host.Shell
import CephMount.Reconcile
import CephMount.Error

/-!
Mounting and unmounting through host commands. A mount makes its mountpoint, writes the secret
to an owner-only file named after the target's digest, runs `mount -t ceph` and removes the file
whatever happens; an unmount runs `umount` and removes the empty mountpoint. Local failures become
mount failures of the target.
-/
namespace CephMount.Host

/-- How mounts are made: the escalation for commands and where secret files go. -/
structure Mounter where
  escalation : Escalation
  secretDir : String
  deriving DecidableEq, Repr

namespace Mounter

/-- The permission bits of the secret directory: its owner's alone. -/
def secretDirMode : Nat := 0o700

/-- The permission bits of a secret file: read and write for its owner only. -/
def secretMode : Nat := 0o600

def containerMessage : String := "Mounting CephFS shares not supported inside containers"

def secretPath (mt : Mounter) (target : String) : String :=
  Path.join mt.secretDir
    (String.ofList ((Digest.hexDigest (Text.utf8Bytes target)).toList.take 16) ++ ".secret")

/-- The kind and message of a failure around a mount or unmount call. -/
def classifyError (e : Error) : FailureKind × String :=
  match e with
  | .commandExecution _ cause =>
    let message := e.message ++ ": " ++ cause.message
    if cause = .notFound then (.unsupported, message) else (FailureKind.classify message, message)
  | .secretFileWrite _ cause =>
    let message := e.message ++ ": " ++ cause.message
    (FailureKind.classify message, message)
  | .mountPointCreation path cause =>
    let message := "cannot create mountpoint " ++ path ++ ": " ++ cause.message
    (FailureKind.classify message, message)
  | .authenticationCancelled => (.permissionDenied, e.message)
  | other => (FailureKind.classify other.cause, other.cause)

/-- A failure around a mount call as a mount failure of the target. -/
def asMountError (target : String) (e : Error) : Error :=
  match e with
  | .mount .. => e
  | _ => let (kind, message) := classifyError e; .mount target kind message

variable {σ : Type} (sh : Shell σ) (mt : Mounter)

def createMountPoint (path : String) (s : σ) : Except Error Unit × σ :=
  if (sh.files s).isDir path then (.ok (), s)
  else if mt.escalation.isDirect then
    match sh.onFilesPartly (·.createDirAll path) s with
    | (.ok (), s) => (.ok (), s)
    | (.error e, s) => (.error (.mountPointCreation path e), s)
  else sh.createDir mt.escalation path s

/-- Writes the secret of a mount to its file and gives the file's path. The directory is made
with its ancestors, each private to the owner; the file is made private, also when it was there
before. -/
def writeSecretFile (spec : MountSpec) (s : σ) : Except Error String × σ :=
  match sh.onFilesPartly (·.createDirAllWith mt.secretDir secretDirMode) s with
  | (.error e, s) => (.error (.secretFileWrite mt.secretDir e), s)
  | (.ok (), s) =>
    let path := mt.secretPath spec.target
    let write (t : FileTree) : Except OsError FileTree := do
      let t ← t.writeFileWith path spec.connection.secret secretMode
      t.setMode path secretMode
    match sh.onFiles write s with
    | (.error e, s) => (.error (.secretFileWrite path e), s)
    | (.ok (), s) => (.ok path, s)

/-- Removes a secret file; a file already gone, or one that cannot be removed, is left as it is. -/
def removeSecretFile (path : String) (s : σ) : σ := (sh.onFiles (·.removeFile path) s).2

def runMount (spec : MountSpec) (secretFile : String) (s : σ) : Except Error Unit × σ :=
  match sh.run mt.escalation "mount"
      ["-t", spec.fstype, spec.source, spec.target, "-o", spec.mountData secretFile] s with
  | (.error e, s) => (.error e, s)
  | (.ok out, s) =>
    if out.success then (.ok (), s)
    else
      let kind := FailureKind.classify out.stderr
      let message := out.failureMessage "mount"
      if kind = .permissionDenied then
        match sh.insideContainer s with
        | (true, s) => (.error (.mount spec.target .unsupported containerMessage), s)
        | (false, s) => (.error (.mount spec.target kind message), s)
      else (.error (.mount spec.target kind message), s)

/-- Mounts a desired mount at its target. -/
def mount (spec : MountSpec) (s : σ) : Except Error Unit × σ :=
  match createMountPoint sh mt spec.target s with
  | (.error e, s) => (.error (asMountError spec.target e), s)
  | (.ok (), s) =>
    match writeSecretFile sh mt spec s with
    | (.error e, s) => (.error (asMountError spec.target e), s)
    | (.ok file, s) =>
      let (result, s) := runMount sh mt spec file s
      (result.mapError (asMountError spec.target), removeSecretFile sh file s)

/-- Removes an unmounted mountpoint; a directory that cannot be removed stays. -/
def removeMountPoint (path : String) (s : σ) : σ :=
  if mt.escalation.isDirect then (sh.onFiles (·.removeDir path) s).2
  else (sh.removeDir mt.escalation path s).2

/-- Unmounts whatever is mounted at a path. -/
def unmount (path : String) (s : σ) : Except Error Unit × σ :=
  match sh.run mt.escalation "umount" [path] s with
  | (.error e, s) =>
    let (kind, message) := classifyError e
    (.error (.unmount path kind message), s)
  | (.ok out, s) =>
    if out.success then (.ok (), removeMountPoint sh mt path s)
    else (.error (.unmount path (FailureKind.classify out.stderr) (out.failureMessage "umount")), s)

end Mounter

/-- A host driven through its shell: its table file probed, its mounts made by a mounter, its
unit records kept in a directory of its files. -/
def Shell.machine {σ : Type} (sh : Shell σ) (mt : Mounter) (tablePath : String)
    (store : PeerStore) : Machine σ where
  observe path s :=
    (MountTable.load tablePath ((sh.files s).readFile tablePath)).map (MountTable.observe · path)
  cephMounts s := (MountTable.load tablePath ((sh.files s).readFile tablePath)).map
    MountTable.cephMounts
  mount := mt.mount sh
  unmount := mt.unmount sh
  readRecord unitId s := store.read unitId (sh.files s)
  readAll s := store.readAll (sh.files s)
  publish r s :=
    let (result, t) := store.publish r (sh.files s)
    (result, sh.withFiles t s)

end CephMount.Host
