import CephMount.Host.Command
import CephMount.FileTree
import CephMount.Text.Basic

/-!
What a host offers for running commands: its files and a way to start a program. Everything above
it runs on any shell, so every outcome of a program is covered.
-/
namespace CephMount.Host

/-- What a host offers for running commands, over its state `σ`. -/
structure Shell (σ : Type) where
  /-- The files of the host. -/
  files : σ → FileTree
  /-- The host with its files replaced. -/
  withFiles : FileTree → σ → σ
  /-- Starts a program with arguments and waits for it; the error says why it could not
  start. -/
  exec : String → List String → σ → Except OsError CommandOutput × σ

namespace Shell

variable {σ : Type} (sh : Shell σ)

/-- Runs a program as root and gives its trimmed output, whatever its exit code. -/
def run (esc : Escalation) (program : String) (args : List String) (s : σ) :
    Except Error CommandOutput × σ :=
  let (label, argv0, rest) := match esc.wrapper? with
    | none => (program, program, args)
    | some w => (w ++ " " ++ program, w, program :: args)
  match sh.exec argv0 rest s with
  | (.error e, s) => (.error (.commandExecution label e), s)
  | (.ok out, s) =>
    (.ok { out with stdout := Text.trimBlank out.stdout, stderr := Text.trimBlank out.stderr }, s)

def runChecked (esc : Escalation) (program : String) (args : List String) (s : σ) :
    Except Error CommandOutput × σ :=
  match sh.run esc program args s with
  | (.ok out, s) =>
    if out.success then (.ok out, s)
    else if esc = .viaPkexec ∧ out.code = some 126 then (.error .authenticationCancelled, s)
    else (.error (.commandExit program (out.code.getD (-1)) out.stderr), s)
  | (.error e, s) => (.error e, s)

def createDir (esc : Escalation) (path : String) (s : σ) : Except Error Unit × σ :=
  let (r, s) := sh.runChecked esc "mkdir" ["-p", path] s
  (r.map fun _ => (), s)

def removeDir (esc : Escalation) (path : String) (s : σ) : Except Error Unit × σ :=
  let (r, s) := sh.runChecked esc "rmdir" [path] s
  (r.map fun _ => (), s)

/-- Whether the host is a container, where the kernel refuses CephFS mounts whatever the
privileges: the detector, run unwrapped, succeeds and names a container. -/
def insideContainer (s : σ) : Bool × σ :=
  match sh.run .unwrapped "systemd-detect-virt" ["--container"] s with
  | (.ok out, s) => (out.success && !out.stdout.isEmpty && out.stdout != "none", s)
  | (.error _, s) => (false, s)

def onFiles (f : FileTree → Except OsError FileTree) (s : σ) : Except OsError Unit × σ :=
  match f (sh.files s) with
  | .ok t => (.ok (), sh.withFiles t s)
  | .error e => (.error e, s)

/-- Applies a change to the files that may stop partway, keeping what it did. -/
def onFilesPartly (f : FileTree → Except OsError Unit × FileTree) (s : σ) :
    Except OsError Unit × σ :=
  let (r, t) := f (sh.files s)
  (r, sh.withFiles t s)

end Shell

end CephMount.Host
