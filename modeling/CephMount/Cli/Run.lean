import CephMount.Cli.Help

/-!
Running a command line against a host, with the reconciler built on the host's shell from the
request's mount table and its record and secret directories, or the account's defaults.
-/
namespace CephMount.Cli

open Host

/-- What a run of the program gives: its exit code and the text of its two output streams. -/
structure Outcome where
  code : Nat
  stdout : String
  stderr : String
  deriving DecidableEq, Repr

namespace Outcome

def printed (text : String) : Outcome := ⟨0, text ++ "\n", ""⟩

def failure (e : Error) : Outcome := ⟨1, "", "Error: " ++ e.message ++ "\n"⟩

def usage : Outcome := ⟨2, "", "error: the command line cannot be read\n"⟩

end Outcome

def packageJson (action : String) (skipped : Bool) : Json.Value :=
  .obj [("action", .str action), ("packages", Json.Value.ofStrings Packages.helpers),
    ("skipped", .bool skipped)]

def Request.print (r : Request) (report : Json.Value) (line : String) : Outcome :=
  Outcome.printed (if r.json then report.pretty else line)

def Request.escalationOrDefault (r : Request) (a : Account) : Escalation :=
  r.escalation.getD (Defaults.escalation a)

def Request.machine {σ : Type} (sh : Shell σ) (r : Request) (a : Account) : Machine σ :=
  sh.machine ⟨r.escalationOrDefault a, r.secretDir.getD (Defaults.secretDir a)⟩ r.mountTable
    ⟨r.peerDir.getD (Defaults.peerDir a)⟩

def Request.facts (r : Request) (t : FileTree) : Except Error (Option ConnectionFacts) :=
  match r.relation with
  | some path => (FactStore.load path t).map FactStore.facts
  | none => .ok none

def Request.policy (r : Request) (t : FileTree) : Except Error (Option MountPolicy) :=
  match r.config with
  | some path => (PolicyConfig.load path t).map policyOf
  | none => .ok none

variable {σ : Type} (sh : Shell σ)

/-- Runs a command for an agent running as an account. -/
def execute (a : Account) (r : Request) (c : Command) (s : σ) : Outcome × σ :=
  let m := r.machine sh a
  let esc := r.escalationOrDefault a
  match c with
  | .reconcile =>
    match r.facts (sh.files s), r.policy (sh.files s) with
    | .error e, _ => (.failure e, s)
    | .ok _, .error e => (.failure e, s)
    | .ok facts, .ok policy =>
      let (report, s) := m.reconcile r.unit facts policy s
      (r.print report.toJson report.status.line, s)
  | .stop =>
    match r.policy (sh.files s) with
    | .error e => (.failure e, s)
    | .ok policy =>
      let ((report, removable), s) := m.teardown r.unit policy s
      let shown := r.print (report.teardownJson removable) report.status.line
      if removable && !r.keepPackages then
        match Packages.remove sh esc s with
        | (.error e, s) => (.failure e, s)
        | (.ok (), s) => (shown, s)
      else (shown, s)
  | .status =>
    match r.facts (sh.files s), r.policy (sh.files s) with
    | .error e, _ => (.failure e, s)
    | .ok _, .error e => (.failure e, s)
    | .ok facts, .ok policy =>
      let status := m.status r.unit facts policy s
      (r.print status.toJson status.line, s)
  | .install =>
    match Packages.install sh esc s with
    | (.error e, s) => (.failure e, s)
    | (.ok (), s) => (r.print (packageJson "install" false) "Installed helper packages", s)
  | .remove =>
    match m.cephMounts s with
    | .error e => (.failure e, s)
    | .ok mounts =>
      if mounts.isEmpty then
        match Packages.remove sh esc s with
        | (.error e, s) => (.failure e, s)
        | (.ok (), s) => (r.print (packageJson "remove" false) "Removed helper packages", s)
      else (r.print (packageJson "remove" true) "Kept helper packages: CephFS mounts remain", s)

/-- Runs the program with its arguments and environment, as root or not. -/
def runProgram (root : Bool) (args : List String) (env : List (String × String)) (s : σ) :
    Outcome × σ :=
  match parse args env with
  | .usage => (.usage, s)
  | .help c => (⟨0, Help.text env c, ""⟩, s)
  | .run r =>
    match r.command with
    | some c => execute sh (Account.ofEnv root env) r c s
    | none => (.usage, s)

end CephMount.Cli
