import CephMount.Plan

/-!
The record a unit publishes about its mount. Its generation is a 64-bit counter that grows by one
with every publication, wrapping to 0 after `2 ^ 64 - 1`; in JSON only the unit and the
generation are required.
-/
namespace CephMount

/-- One unit's account of its mount, as last published. -/
structure UnitRecord where
  unitId : String
  mountpoint : Option String := none
  specHash : Option String := none
  observed : Option Observation := none
  state : String := ""
  lastAction : LastAction := .none
  lastError : Option String := none
  generation : UInt64
  deriving DecidableEq, Repr

namespace UnitRecord

def empty (unitId : String) : UnitRecord := { unitId, generation := 0 }

def isConverged (r : UnitRecord) : Bool :=
  r.lastError.isNone && r.specHash.isSome && (r.observed.map (·.mounted)).getD false

def toJson (r : UnitRecord) : Json.Value :=
  .obj [("unit_id", .str r.unitId), ("mountpoint", Json.Value.ofOption r.mountpoint),
    ("desired_spec_hash", Json.Value.ofOption r.specHash),
    ("observed", match r.observed with
      | some o => o.toJson
      | none => .null),
    ("state", .str r.state), ("last_action", .str r.lastAction.name),
    ("last_error", Json.Value.ofOption r.lastError), ("generation", Json.Value.ofNat r.generation.toNat)]

def fieldNames : List String :=
  ["unit_id", "mountpoint", "desired_spec_hash", "observed", "state", "last_action", "last_error",
    "generation"]

open Json Decoder

/-- Reads the value of one named field, as the change it makes to a record. -/
def setter (key : String) : Decoder (UnitRecord → UnitRecord) :=
  if key = "unit_id" then (fun v r => { r with unitId := v }) <$> string
  else if key = "mountpoint" then (fun v r => { r with mountpoint := v }) <$> option string
  else if key = "desired_spec_hash" then (fun v r => { r with specHash := v }) <$> option string
  else if key = "observed" then
    (fun v r => { r with observed := v }) <$> option Observation.decoder
  else if key = "state" then (fun v r => { r with state := v }) <$> string
  else if key = "last_action" then
    (fun v r => { r with lastAction := v }) <$> variant LastAction.named
  else if key = "last_error" then (fun v r => { r with lastError := v }) <$> option string
  else (fun v r => { r with generation := UInt64.ofNat v }) <$> natural

def step (key : String) : Decoder (List String × UnitRecord → List String × UnitRecord) :=
  (fun f seen => (key :: seen.1, f seen.2)) <$> setter key

/-- Reads one entry of a record object, refusing a field seen before. -/
def entry (seen : List String × UnitRecord) (key : String) :
    Decoder (List String × UnitRecord) := do
  if fieldNames.contains key then
    if seen.1.contains key then fail .mismatch
    else
      colon
      pure ((← step key) seen)
  else
    colon
    ignore
    pure seen

/-- The record once read, provided its unit and generation were given. -/
def complete (seen : List String × UnitRecord) : Decoder UnitRecord :=
  if seen.1.contains "unit_id" && seen.1.contains "generation" then pure seen.2
  else fail .mismatch

/-- Reads a record written as an object or as an array of its fields. -/
def decoder : Decoder UnitRecord :=
  record
    (do complete (← itemsInOrder (fieldNames.map step) true ([], empty "")))
    (do complete (← entries entry ([], empty "")))

def ofJson (content : String) : Except DecodeError UnitRecord := readAll decoder content

end UnitRecord

end CephMount
