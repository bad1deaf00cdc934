import CephMount.Host.Mounter
import CephMount.Host.Packages

/-!
The command line of the unit agent: `cephfs-client [OPTIONS] <COMMAND>` with the commands
`reconcile`, `stop`, `status`, `install` and `remove`. An option stands before or after the
command, once on each side, the later one winning; the unit and the record and secret directories
may also come from the environment. A failing command exits with 1, a malformed command line with
2. The defaults depend on whether the agent runs as root (`Defaults`).
-/
namespace CephMount.Cli

/-- The commands. -/
inductive Command where
  | reconcile
  | stop
  | status
  | install
  | remove
  deriving DecidableEq, Repr

namespace Command

def table : List (Command × String × String) :=
  [(reconcile, "reconcile", "Converge the host mount with the current inputs"),
    (stop, "stop", "Unmount the managed share and clean up the host"),
    (status, "status", "Print the current status without changing anything"),
    (install, "install", "Install the helper packages"),
    (remove, "remove", "Remove the helper packages unless CephFS mounts remain")]

def ofName? (name : String) : Option Command :=
  (table.find? (·.2.1 = name)).map (·.1)

/-- The name of a command. -/
def name (c : Command) : String := ((table.find? (·.1 = c)).map (·.2.1)).getD ""

def about (c : Command) : String := ((table.find? (·.1 = c)).map (·.2.2)).getD ""

end Command

/-- Who the agent runs as: whether its effective user is root, and the user's own directories
where the system names them. -/
structure Account where
  root : Bool
  runtimeDir : Option String := none
  stateDir : Option String := none
  dataLocalDir : Option String := none
  deriving DecidableEq, Repr

/-- The account of an agent from its environment, the user's directories named by the XDG base
directory rules: `XDG_RUNTIME_DIR`; `XDG_STATE_HOME`, else `.local/state` in the home directory;
`XDG_DATA_HOME`, else `.local/share` in the home directory. A variable counts only when it holds
an absolute path, and the home directory only when `HOME` is not empty. -/
def Account.ofEnv (root : Bool) (env : List (String × String)) : Account :=
  let absolute (name : String) := (env.lookup name).filter (·.startsWith "/")
  let home := (env.lookup "HOME").filter (· ≠ "")
  { root
    runtimeDir := absolute "XDG_RUNTIME_DIR"
    stateDir := absolute "XDG_STATE_HOME" <|> home.map (Path.join · ".local/state")
    dataLocalDir := absolute "XDG_DATA_HOME" <|> home.map (Path.join · ".local/share") }

namespace Defaults

def systemPeerDir : String := "/var/lib/cephfs-client/peers"

def systemSecretDir : String := "/etc/ceph/cephfs-client"

/-- A directory of the agent's: the system's for root, else `cephfs-client/<leaf>` under the
user's directory, or the system's when the user has none. -/
def agentDir (system leaf : String) (root : Bool) (userDir : Option String) : String :=
  if root then system
  else (userDir.map fun d => Path.join (Path.join d "cephfs-client") leaf).getD system

/-- The record directory, under the user's state directory or else its local data directory. -/
def peerDir (a : Account) : String :=
  agentDir systemPeerDir "peers" a.root (a.stateDir <|> a.dataLocalDir)

/-- The secret directory, under the user's runtime directory or else its state directory. -/
def secretDir (a : Account) : String :=
  agentDir systemSecretDir "secrets" a.root (a.runtimeDir <|> a.stateDir)

def mountTable : String := "/proc/self/mounts"

/-- The unit when none is named. -/
def unit : String := "cephfs-client/0"

def escalation (a : Account) : Host.Escalation := if a.root then .unwrapped else .viaSudo

end Defaults

/-- A parsed command line. -/
structure Request where
  unit : String := Defaults.unit
  relation : Option String := none
  config : Option String := none
  peerDir : Option String := none
  secretDir : Option String := none
  mountTable : String := Defaults.mountTable
  escalation : Option Host.Escalation := none
  json : Bool := false
  keepPackages : Bool := false
  command : Option Command := none
  deriving DecidableEq, Repr

/-- One option of the command line. -/
structure Flag where
  long : String
  /-- The name of its value; none for a switch. -/
  value? : Option String
  help : String
  env? : Option String := none
  default? : Option String := none
  choices : List String := []
  /-- Whether the value names a file or a directory, which an empty value cannot. -/
  path : Bool := false

def globalFlags : List Flag :=
  [{ long := "unit", value? := some "UNIT",
     help := "Unit identifier, used as the key of this unit's peer record",
     env? := some "CEPHFS_CLIENT_UNIT", default? := some Defaults.unit },
    { long := "relation", value? := some "RELATION",
      help := "JSON file with the share relation data. A missing file means no remote unit",
      path := true },
    { long := "config", value? := some "CONFIG", help := "JSON file with the unit configuration",
      path := true },
    { long := "peer-dir", value? := some "PEER_DIR", help := "Directory holding the peer records",
      env? := some "CEPHFS_CLIENT_PEER_DIR", path := true },
    { long := "secret-dir", value? := some "SECRET_DIR",
      help := "Directory for the short-lived cephx secret files passed to mount.ceph",
      env? := some "CEPHFS_CLIENT_SECRET_DIR", path := true },
    { long := "mount-table", value? := some "MOUNT_TABLE", help := "Mount table to probe",
      default? := some Defaults.mountTable, path := true },
    { long := "escalation", value? := some "ESCALATION",
      help := "How to gain root for mount commands. Defaults to direct when running as root and sudo otherwise",
      choices := ["none", "sudo", "pkexec"] },
    { long := "json", value? := none,
      help := "Print the full report as JSON instead of the status line" }]

/-- The options of one command, besides those every command takes. -/
def commandFlags : Command → List Flag
  | .stop =>
    [{ long := "keep-packages", value? := none,
       help := "Keep the helper packages even when no CephFS mount remains" }]
  | _ => []

/-- Whether an option takes a value: a path a non-empty one, an option with listed values one of
them, any other every value. -/
def Flag.accepts (f : Flag) (value : String) : Bool :=
  !(f.path && value.isEmpty) && (f.choices.isEmpty || f.choices.contains value)

def Flag.fromEnv? (env : List (String × String)) (f : Flag) : Option String :=
  f.env?.bind fun var => env.lookup var

/-- What a help text is about. -/
inductive Topic where
  | program
  | command (c : Command)
  /-- The `help` command itself. -/
  | helpCommand
  deriving DecidableEq, Repr

/-- What a command line asks for. -/
inductive Parsed where
  | run (r : Request)
  | help (topic : Topic)
  | usage
  deriving DecidableEq, Repr

/-- Sets an accepted value of an option in a request; a switch is set by any value. -/
def Request.set (r : Request) : String × String → Request
  | ("unit", v) => { r with unit := v }
  | ("relation", v) => { r with relation := some v }
  | ("config", v) => { r with config := some v }
  | ("peer-dir", v) => { r with peerDir := some v }
  | ("secret-dir", v) => { r with secretDir := some v }
  | ("mount-table", v) => { r with mountTable := v }
  | ("escalation", v) =>
    match Host.Escalation.ofName? v with
    | some e => { r with escalation := some e }
    | none => r
  | ("json", _) => { r with json := true }
  | ("keep-packages", _) => { r with keepPackages := true }
  | _ => r

/-- Whether a word would be read as an option rather than a value. -/
def looksLikeFlag (word : String) : Bool := word.startsWith "-" && word != "-"

/-- What one level of a command line, the program's or its command's, has read so far. -/
structure Level where
  /-- The options taken, each with its value (empty for a switch), in order. -/
  taken : List (String × String) := []
  /-- The option read last, whose value is checked only when the level reads another option or
  ends: with the value that followed it, if one did. -/
  pending : Option (Flag × Option String) := none

namespace Level

def has (l : Level) (long : String) : Bool := l.taken.any (·.1 == long)

/-- Takes an option with its value; refused when the level has it already or the value is not
one it takes. -/
def take (l : Level) (f : Flag) (value : String) : Option Level :=
  if l.has f.long || !f.accepts value then none
  else some { l with taken := l.taken ++ [(f.long, value)] }

/-- Takes the option left open; refused when no value followed it. -/
def settle (l : Level) : Option Level :=
  match l.pending with
  | none => some l
  | some (_, none) => none
  | some (f, some v) => { l with pending := none }.take f v

def waiting (l : Level) : Bool :=
  match l.pending with
  | some (_, none) => true
  | _ => false

def fill (l : Level) (value : String) : Level :=
  { l with pending := l.pending.map fun (f, _) => (f, some value) }

/-- Whether the environment's values fit the options of every command that the level left
out; the environment fills each of them on every level. -/
def envFits (env : List (String × String)) (l : Level) : Bool :=
  globalFlags.all fun f =>
    match f.fromEnv? env with
    | some v => l.has f.long || f.accepts v
    | none => true

end Level

/-- Where reading one level of a command line stopped. -/
inductive Stop where
  /-- The words ran out, or a closing `--` ended them. -/
  | finished
  /-- A command's name, with the words after it. -/
  | command (c : Command) (rest : List String)
  /-- The word `help`, with the words after it. -/
  | helpWord (rest : List String)
  /-- A help option. -/
  | help
  /-- A word the level cannot read, or a value it does not take. -/
  | malformed
  deriving DecidableEq, Repr

/-- The name and inline value of a word `--name` or `--name=value`. -/
def splitLong (w : String) : String × Option String :=
  let body := w.toList.drop 2
  match Text.splitFirst ['='] body with
  | some (a, b) => (String.ofList a, some (String.ofList b))
  | none => (String.ofList body, none)

/-- Reads the words of one level of a command line with the options it knows. A word that
follows an option still waiting for its value is that value unless it looks like an option. An
option's value is checked when the level reads the next option, asks for help or ends; a switch
is checked at once. Only the program's level (`outer`) reads a command's name or `help`, and
stops there, leaving its open option for later; `--` ends a level when nothing follows it. -/
def scan (outer : Bool) (flags : List Flag) : List String → Level → Stop × Level
  | [], l => (.finished, l)
  | w :: rest, l =>
    if l.waiting && !looksLikeFlag w then scan outer flags rest (l.fill w)
    else if w == "--" then (if rest.isEmpty then .finished else .malformed, l)
    else if w == "--help" || w.startsWith "-h" then
      match l.settle with
      | some l => (.help, l)
      | none => (.malformed, l)
    else if w.startsWith "--" then
      let (long, inline) := splitLong w
      match flags.find? (·.long == long), l.settle with
      | some f, some l =>
        match f.value?, inline with
        | none, some _ => (.malformed, l)
        | none, none =>
          match l.take f "" with
          | some l => scan outer flags rest l
          | none => (.malformed, l)
        | some _, some v =>
          match l.take f v with
          | some l => scan outer flags rest l
          | none => (.malformed, l)
        | some _, none => scan outer flags rest { l with pending := some (f, none) }
      | _, _ => (.malformed, l)
    else if looksLikeFlag w || !outer then (.malformed, l)
    else if w == "help" then (.helpWord rest, l)
    else
      match Command.ofName? w with
      | some c => (.command c rest, l)
      | none => (.malformed, l)

/-- The help that `help` asks for: with no name the program's, with one the named command's;
`help` itself has no commands, and the commands no commands of their own. -/
def helpTopic : List String → Parsed
  | [] => .help .program
  | [name] =>
    if name == "help" then .help .helpCommand
    else
      match Command.ofName? name with
      | some c => .help (.command c)
      | none => .usage
  | _ => .usage

/-- The request of a command: the environment's values first, then the program's level, then
the command's, each overriding what came before. -/
def Request.ofLevels (env : List (String × String)) (c : Command) (top sub : Level) : Request :=
  let fromEnv := globalFlags.filterMap fun f => (f.fromEnv? env).map (f.long, ·)
  (fromEnv ++ top.taken ++ sub.taken).foldl Request.set { command := some c }

/-- Reads a command line, given the environment. The command's level is read before the
program's level is settled, so help asked of a command wins over a fault left open before it. -/
def parse (args : List String) (env : List (String × String)) : Parsed :=
  match scan true globalFlags args {} with
  | (.help, _) => .help .program
  | (.helpWord names, _) => helpTopic names
  | (.command c rest, top) =>
    match scan false (commandFlags c ++ globalFlags) rest {} with
    | (.help, _) => .help (.command c)
    | (.finished, sub) =>
      match sub.settle, top.settle with
      | some sub, some top =>
        if sub.envFits env && top.envFits env then .run (Request.ofLevels env c top sub)
        else .usage
      | _, _ => .usage
    | _ => .usage
  | _ => .usage

end CephMount.Cli
