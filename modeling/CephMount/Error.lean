import CephMount.Text.Basic

/-!
Errors of the mount agent. `Error.message` is the line users read; mount and unmount failures
carry the helper's message and a `FailureKind` classified from it (`FailureKind.classify`).
-/
namespace CephMount

/-- The operating-system errors that file and process operations report here. -/
inductive OsError where
  | notFound
  | permissionDenied
  | alreadyExists
  | notADirectory
  | isADirectory
  | directoryNotEmpty
  | invalidInput
  | resourceBusy
  | nameTooLong
  /-- A path holds a zero byte, which the system cannot be given. -/
  | nulInPath
  /-- A program's name or argument holds a zero byte, so it is never started. -/
  | nulInArgument
  deriving DecidableEq, Repr

namespace OsError

/-- The system's text for an error, with its number. -/
def message : OsError → String
  | notFound => "No such file or directory (os error 2)"
  | permissionDenied => "Permission denied (os error 13)"
  | alreadyExists => "File exists (os error 17)"
  | notADirectory => "Not a directory (os error 20)"
  | isADirectory => "Is a directory (os error 21)"
  | directoryNotEmpty => "Directory not empty (os error 39)"
  | invalidInput => "Invalid argument (os error 22)"
  | resourceBusy => "Device or resource busy (os error 16)"
  | nameTooLong => "File name too long (os error 36)"
  | nulInPath => "file name contained an unexpected NUL byte"
  | nulInArgument => "nul byte found in provided data"

end OsError

/-- Why a mount or unmount failed, as far as the helper's message tells. -/
inductive FailureKind where
  | permissionDenied
  | unreachable
  | busy
  | alreadyMounted
  | notMounted
  | unsupported
  | other
  deriving DecidableEq, Repr

namespace FailureKind

def label : FailureKind → String
  | permissionDenied => "permission denied"
  | unreachable => "target unreachable"
  | busy => "device busy"
  | alreadyMounted => "already mounted"
  | notMounted => "not mounted"
  | unsupported => "unsupported host"
  | other => "other"

def key : FailureKind → String
  | permissionDenied => "permission_denied"
  | unreachable => "unreachable"
  | busy => "busy"
  | alreadyMounted => "already_mounted"
  | notMounted => "not_mounted"
  | unsupported => "unsupported"
  | other => "other"

def all : List FailureKind :=
  [permissionDenied, unreachable, busy, alreadyMounted, notMounted, unsupported, other]

def ofKey? (s : String) : Option FailureKind := all.find? (·.key == s)

/-- The classes of words that identify a failure in a helper's message, in the order they are
tried. -/
def signs : List (FailureKind × List String) :=
  [(permissionDenied,
      ["permission denied", "operation not permitted", "must be superuser", "only root"]),
    (busy, ["target is busy", "device or resource busy", "device busy"]),
    (alreadyMounted, ["already mounted"]),
    (notMounted, ["not mounted", "no mount point specified"]),
    (unreachable,
      ["connection timed out", "connection refused", "no route to host", "host is down",
        "network is unreachable", "unable to get monitor info", "no such file or directory",
        "no mds server is up"])]

/-- The kind of the first class whose words occur in a message, in any case; `other` when none
does. -/
def classify (message : String) : FailureKind :=
  match signs.find? (fun s => Text.mentionsAny message s.2) with
  | some s => s.1
  | none => other

end FailureKind

/-- The errors of the agent. Paths are kept as the text they were given in. -/
inductive Error where
  /-- A host command could not be started. -/
  | commandExecution (command : String) (cause : OsError)
  /-- A host command ran and failed; the code is -1 when a signal ended it. -/
  | commandExit (command : String) (code : Int) (stderr : String)
  /-- The user dismissed the authentication prompt of the escalation wrapper. -/
  | authenticationCancelled
  | mountTableRead (path : String) (cause : OsError)
  | mountPointCreation (path : String) (cause : OsError)
  | secretFileWrite (path : String) (cause : OsError)
  | mount (target : String) (kind : FailureKind) (message : String)
  | unmount (path : String) (kind : FailureKind) (message : String)
  | incompleteFacts (key : String)
  | invalidFacts (message : String)
  | invalidPolicy (message : String)
  | inputRead (path : String) (cause : OsError)
  | peerStoreRead (path : String) (cause : OsError)
  | peerStoreWrite (path : String) (cause : OsError)
  | peerRecordParse (path : String)
  | peerRecordEncode (unit : String)
  deriving DecidableEq, Repr

namespace Error

/-- The line that describes an error. -/
def message : Error → String
  | commandExecution command _ => "failed to run '" ++ command ++ "'"
  | commandExit command code stderr =>
    "'" ++ command ++ "' exited with code " ++ toString code ++ ": " ++ stderr
  | authenticationCancelled => "authentication was cancelled"
  | mountTableRead path _ => "failed to read mount table at " ++ path
  | mountPointCreation path _ => "failed to create mountpoint " ++ path
  | secretFileWrite path _ => "failed to write secret file " ++ path
  | mount target kind message =>
    "failed to mount " ++ target ++ " (" ++ kind.label ++ "): " ++ message
  | unmount path kind message =>
    "failed to unmount " ++ path ++ " (" ++ kind.label ++ "): " ++ message
  | incompleteFacts key => "share relation is missing '" ++ key ++ "'"
  | invalidFacts message => "invalid share relation data: " ++ message
  | invalidPolicy message => "invalid mount policy: " ++ message
  | inputRead path _ => "failed to read input at " ++ path
  | peerStoreRead path _ => "failed to read peer record at " ++ path
  | peerStoreWrite path _ => "failed to write peer record at " ++ path
  | peerRecordParse path => "failed to parse peer record at " ++ path
  | peerRecordEncode unit => "failed to encode peer record for " ++ unit

/-- The kind of a mount or unmount failure; no other error has one. -/
def failureKind? : Error → Option FailureKind
  | mount _ kind _ => some kind
  | unmount _ kind _ => some kind
  | _ => none

/-- What went wrong, in short: a helper's message for mount and unmount failures, and the
whole line for every other error. -/
def cause : Error → String
  | mount _ _ message => message
  | unmount _ _ message => message
  | e => e.message

theorem cause_of_failureKind_none {e : Error} (h : e.failureKind? = none) :
    e.cause = e.message := by
  cases e <;> simp_all [failureKind?, cause]

end Error

end CephMount
