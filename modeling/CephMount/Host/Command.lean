import CephMount.Error

/-!
Host commands: run as they are or wrapped in `sudo` or `pkexec`. A finished command has an exit
code, none when a signal ended it, and trimmed output; it succeeded exactly when the code is 0.
-/
namespace CephMount.Host

/-- How a command obtains root. -/
inductive Escalation where
  /-- The agent is root already: commands run as they are. -/
  | unwrapped
  /-- Commands run under `pkexec`, which prompts through polkit. -/
  | viaPkexec
  /-- Commands run under `sudo`, which prompts on the terminal. -/
  | viaSudo
  deriving DecidableEq, Repr

namespace Escalation

def wrapper? : Escalation → Option String
  | unwrapped => none
  | viaPkexec => some "pkexec"
  | viaSudo => some "sudo"

def named : List (String × Escalation) :=
  [("none", unwrapped), ("sudo", viaSudo), ("pkexec", viaPkexec)]

def ofName? (s : String) : Option Escalation := named.lookup s

def name : Escalation → String
  | unwrapped => "none"
  | viaPkexec => "pkexec"
  | viaSudo => "sudo"

def isDirect (e : Escalation) : Bool := e.wrapper?.isNone

end Escalation

/-- The exit code and trimmed output of a finished command. -/
structure CommandOutput where
  code : Option Int
  stdout : String
  stderr : String
  deriving DecidableEq, Repr

namespace CommandOutput

def success (o : CommandOutput) : Bool := o.code == some 0

/-- The error output if there is any, otherwise a note about the exit code. -/
def failureMessage (o : CommandOutput) (program : String) : String :=
  if o.stderr.isEmpty then program ++ " exited with code " ++ toString (o.code.getD (-1))
  else o.stderr

end CommandOutput

end CephMount.Host
