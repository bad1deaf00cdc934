import CephMount.Monitor
import CephMount.FileTree
import CephMount.Json.Read
import CephMount.Json.Write
import CephMount.Text.Basic

/-!
Connection facts from the share relation's bag of strings. They exist only when the required keys
hold non-blank values, the monitors are a non-empty list of valid endpoints, the export path is
absolute and blank-free and no value bound for the mount options holds a comma, a blank or a
control character; the first failing check is reported.
-/
namespace CephMount

/-- Everything needed to reach the exported share. -/
structure ConnectionFacts where
  monitors : List Monitor
  fsId : String
  authKey : String
  exportPath : String
  authUser : String
  fsName : Option String
  deriving DecidableEq, Repr

abbrev DataBag := List (String × String)

namespace Facts

def defaultUser : String := "admin"

def required (bag : DataBag) (key : String) : Except Error String :=
  match bag.lookup key with
  | some v => if Text.blankText v then .error (.incompleteFacts key) else .ok v
  | none => .error (.incompleteFacts key)

def unsafeInOption (c : Char) : Bool := c = ',' || Text.isBlank c || Text.isControl c

def optionValue (key value : String) : Except Error String :=
  if value.toList.any unsafeInOption then
    .error (.invalidFacts (key ++ " contains characters not allowed in mount options"))
  else .ok value

def nonEmpty (bag : DataBag) (key : String) : Option String :=
  match bag.lookup key with
  | some v => if v.isEmpty then none else some v
  | none => none

/-- Reads the monitor list: a JSON array of strings, each a monitor endpoint. -/
def monitorsOf (raw : String) : Except Error (List Monitor) := do
  let texts ← match Json.readAll (Json.Decoder.array Json.Decoder.string) raw with
    | .ok texts => pure texts
    | .error _ => throw (.invalidFacts "monitor_addresses is not a JSON list of strings")
  if texts.isEmpty then throw (.invalidFacts "monitor_addresses is empty")
  texts.mapM Monitor.parse

def goodExportPath (p : String) : Bool :=
  p.toList.head? == some '/' && !p.toList.any Text.isBlank

/-- Validates a relation data bag into connection facts. -/
def parse (bag : DataBag) : Except Error ConnectionFacts := do
  let monitorsRaw ← required bag "monitor_addresses"
  let fsId ← required bag "fs_id"
  let authKey ← required bag "auth_key"
  let exportPath ← required bag "export_path"
  let monitors ← monitorsOf monitorsRaw
  if !goodExportPath exportPath then
    throw (.invalidFacts ("export_path " ++ Text.quote exportPath ++ " must be an absolute path"))
  let authUser ← match nonEmpty bag "auth_user" with
    | some user => optionValue "auth_user" user
    | none => pure defaultUser
  let fsName ← match nonEmpty bag "fs_name" with
    | some name => some <$> optionValue "fs_name" name
    | none => pure none
  let fsId ← optionValue "fs_id" fsId
  let authKey ← optionValue "auth_key" authKey
  return { monitors, fsId, authKey, exportPath, authUser, fsName }

end Facts

/-- The share relation as the unit sees it: no remote unit, or the remote unit's data bag. -/
structure FactStore where
  remote : Option DataBag
  deriving DecidableEq, Repr

namespace FactStore

def departed : FactStore := ⟨none⟩

def valueText : Json.Value → String
  | .str s => s
  | v => v.compact

def ofJson (content : String) : FactStore :=
  match Json.Value.parse content with
  | .ok (.obj entries) => ⟨some (entries.map fun e => (e.1, valueText e.2))⟩
  | _ => ⟨some []⟩

/-- The relation data in a file; a missing file means no remote unit. -/
def load (path : String) (t : FileTree) : Except Error FactStore :=
  match t.readFile path with
  | .ok content => .ok (ofJson content)
  | .error .notFound => .ok departed
  | .error e => .error (.inputRead path e)

def hasRemote (s : FactStore) : Bool := s.remote.isSome

/-- The connection facts, when the remote unit's data gives complete and valid ones. -/
def facts (s : FactStore) : Option ConnectionFacts :=
  match s.remote with
  | some bag =>
    match Facts.parse bag with
    | .ok f => some f
    | .error _ => none
  | none => none

end FactStore

end CephMount
