import CephMount.Host.Shell
import CephMount.Text.Basic

/-!
The helper packages, installed after refreshing the archive; a removal the package manager
refuses because the package is unknown or not installed counts as done.
-/
namespace CephMount.Host

namespace Packages

def helpers : List String := ["ceph-common"]

/-- Whether the package manager's error output says the package is not there to remove. -/
def isUnknown (stderr : String) : Bool :=
  Text.occursIn "Unable to locate package".toList stderr.toList ||
    Text.occursIn "is not installed".toList stderr.toList

variable {σ : Type} (sh : Shell σ)

def install (esc : Escalation) (s : σ) : Except Error Unit × σ :=
  match sh.runChecked esc "apt-get" ["-q", "update"] s with
  | (.error e, s) => (.error e, s)
  | (.ok _, s) =>
    let (r, s) := sh.runChecked esc "apt-get" (["-q", "-y", "install"] ++ helpers) s
    (r.map fun _ => (), s)

/-- Removes the helper packages; packages the manager does not know are skipped. -/
def remove (esc : Escalation) (s : σ) : Except Error Unit × σ :=
  match sh.runChecked esc "apt-get" (["-q", "-y", "remove"] ++ helpers) s with
  | (.ok _, s) => (.ok (), s)
  | (.error e, s) =>
    match e with
    | .commandExit _ _ stderr => if isUnknown stderr then (.ok (), s) else (.error e, s)
    | _ => (.error e, s)

end Packages

end CephMount.Host
