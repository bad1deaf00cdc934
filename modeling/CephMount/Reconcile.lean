import CephMount.PeerStore

/-!
Reconciling a unit's mount on a `Machine`. A pass probes the target and any stale mountpoint,
runs the plan's actions until one fails, probes again, and publishes the unit's record. A pass
never fails: a probe failure plans nothing, and a record that cannot be published is reported
missing.
-/
namespace CephMount

/-- What the reconciler needs of a host, over its state `σ`: reads that may fail, and effects
that return the state after them, also when they fail. -/
structure Machine (σ : Type) where
  /-- What is mounted at a path. -/
  observe : String → σ → Except Error Observation
  /-- The CephFS mounts anywhere on the host. -/
  cephMounts : σ → Except Error (List MountEntry)
  /-- Mounts a desired mount at its target. -/
  mount : MountSpec → σ → Except Error Unit × σ
  /-- Unmounts whatever is mounted at a path. -/
  unmount : String → σ → Except Error Unit × σ
  /-- A unit's record; none if it has none. -/
  readRecord : String → σ → Except Error (Option UnitRecord)
  /-- Every unit's record, sorted by unit. -/
  readAll : σ → Except Error (List UnitRecord)
  /-- Stores a record under its unit. -/
  publish : UnitRecord → σ → Except Error Unit × σ

/-- What a pass reports. -/
structure Report where
  unitId : String
  /-- The state implied by the inputs, before anything ran. -/
  planned : UnitState
  /-- The state after running the actions. -/
  state : UnitState
  status : UnitStatus
  actions : List Action
  /-- How many actions succeeded. -/
  executed : Nat
  /-- The published record; none when publishing failed. -/
  record : Option UnitRecord
  /-- The other units whose desired mount differs. -/
  divergent : List String
  deriving DecidableEq, Repr

namespace Reason

def noMountpoint : String := "No configured mountpoint"

def waitingForShare : String := "Waiting for CephFS share"

def notMounted : String := "Not mounted"

def stopping : String := "Unit stopping"

def ofInputs (facts : Option ConnectionFacts) (policy : Option MountPolicy) : String :=
  match policy, facts with
  | none, _ => noMountpoint
  | some _, none => waitingForShare
  | some _, some _ => notMounted

end Reason

namespace Machine

variable {σ : Type} (m : Machine σ)

/-- The unit's previous record; one that cannot be read counts as none. -/
def previous (unitId : String) (s : σ) : Option UnitRecord :=
  match m.readRecord unitId s with
  | .ok r => r
  | .error _ => none

/-- Publishes a record for a unit: its own identifier, the generation after its previous one (a
64-bit counter, so after `2 ^ 64 - 1` comes 0). -/
def record (unitId : String) (r : UnitRecord) (s : σ) : Except Error UnitRecord × σ :=
  let r := { r with unitId, generation := ((m.previous unitId s).map (·.generation)).getD 0 + 1 }
  match m.publish r s with
  | (.ok (), s) => (.ok r, s)
  | (.error e, s) => (.error e, s)

/-- The other units whose desired mount has another fingerprint; none when the records cannot
be read. -/
def divergent (unitId : String) (hash : Option String) (s : σ) : List String :=
  match m.readAll s with
  | .ok rs => (rs.filter fun r => r.unitId != unitId && r.specHash != hash).map (·.unitId)
  | .error _ => []

/-- The mountpoint a pass looks at: the desired one, else the configured one, else the one the
previous record names. -/
def target (desired : Option MountSpec) (policy : Option MountPolicy)
    (previous : Option UnitRecord) : Option String :=
  match desired, policy with
  | some d, _ => some d.target
  | none, some p => some p.mountpoint
  | none, none => previous.bind (·.mountpoint)

/-- Probes the target and, when the previous record names another mountpoint, that one. -/
def survey (desired : Option MountSpec) (policy : Option MountPolicy)
    (previous : Option UnitRecord) (s : σ) :
    Except Error (Option Observation × Option Observation) := do
  let target := Machine.target desired policy previous
  let observed ← match target with
    | some p => some <$> m.observe p s
    | none => pure none
  let stale ← match previous.bind (·.mountpoint) with
    | some p => if (target.map (Path.same p)).getD false then pure none else some <$> m.observe p s
    | none => pure none
  pure (observed, stale)

def perform : Action → σ → Except Error Unit × σ
  | .mount spec => m.mount spec
  | .unmount p => m.unmount p

/-- Runs actions in order from a count of those done, stopping at the first failure; gives the
state reached and the count. -/
def executeFrom (planned : UnitState) : List Action → Nat → σ → (UnitState × Nat) × σ
  | [], done, s => ((planned.settled, done), s)
  | a :: rest, done, s =>
    match m.perform a s with
    | (.ok (), s) => executeFrom planned rest (done + 1) s
    | (.error e, s) => ((.error e.cause, done), s)

def execute (p : Plan) (s : σ) : (UnitState × Nat) × σ := m.executeFrom p.state p.actions 0 s

/-- Probes a mountpoint again after actions ran; without actions, or when the probe fails, what
was seen before stands. -/
def reobserve (acted : Bool) (before : Observation) (s : σ) : Observation :=
  if acted then
    match m.observe before.mountpoint s with
    | .ok after => after
    | .error _ => before
  else before

def planFor (desired : Option MountSpec) (policy : Option MountPolicy)
    (previous : Option UnitRecord) (s : σ) :
    Plan × Option (Option Observation × Option Observation) :=
  match m.survey desired policy previous s with
  | .ok (observed, stale) => (plan desired observed stale, some (observed, stale))
  | .error e => (⟨.error e.cause, []⟩, none)

def statusOf (desired : Option MountSpec) (reason : String) : UnitState → UnitStatus
  | .error cause => .error cause
  | .mounted => .mounted ((desired.map (·.target)).getD "")
  | _ => .idle reason

/-- The mountpoint a record names and what it shows there. -/
def managed (desired : Option MountSpec) (previous : Option UnitRecord) (acted : Bool)
    (probed : Option (Option Observation × Option Observation)) (s : σ) :
    Option String × Option Observation :=
  match probed with
  | none =>
    match previous with
    | some r => (r.mountpoint, r.observed)
    | none => (none, none)
  | some (observed, stale) =>
    let stale := stale.map (m.reobserve acted · s)
    let observed := observed.map (m.reobserve acted · s)
    let path := match stale.filter (·.isCeph) with
      | some o => some o.mountpoint
      | none => (observed.filter fun o => desired.isSome || o.isCeph).map (·.mountpoint)
    (path, observed)

/-- One pass for a unit with the given inputs; `reason` is shown when the unit ends idle. -/
def run (unitId : String) (facts : Option ConnectionFacts) (policy : Option MountPolicy)
    (reason : String) (s : σ) : Report × σ :=
  let desired := MountSpec.ofInputs? facts policy
  let previous := m.previous unitId s
  let (p, probed) := m.planFor desired policy previous s
  let ((state, executed), s) := m.execute p s
  let (mountpoint, observed) := m.managed desired previous (!p.actions.isEmpty) probed s
  let hash := desired.map MountSpec.fingerprint
  let r : UnitRecord :=
    { unitId, mountpoint, specHash := hash, observed, state := state.name,
      lastAction := (p.lastAction?.orElse fun _ => previous.map (·.lastAction)).getD .none,
      lastError := match state with
        | .error cause => some cause
        | _ => none,
      generation := 0 }
  let (published, s) := m.record unitId r s
  ({ unitId, planned := p.state, state, status := statusOf desired reason state,
     actions := p.actions, executed, record := published.toOption,
     divergent := m.divergent unitId hash s }, s)

/-- Converges the host towards the mount the inputs imply. -/
def reconcile (unitId : String) (facts : Option ConnectionFacts) (policy : Option MountPolicy)
    (s : σ) : Report × σ :=
  m.run unitId facts policy (Reason.ofInputs facts policy) s

/-- Stops the unit: unmounts what it manages, and tells whether no CephFS mount remains on the
host (false when that cannot be read). -/
def teardown (unitId : String) (policy : Option MountPolicy) (s : σ) : (Report × Bool) × σ :=
  let (r, s) := m.run unitId none policy Reason.stopping s
  let removable := match m.cephMounts s with
    | .ok mounts => mounts.isEmpty
    | .error _ => false
  ((r, removable), s)

/-- The unit's status, derived without running or publishing anything. A unit whose plan is
neither mounted nor an error shows its last recorded failure, if any. -/
def status (unitId : String) (facts : Option ConnectionFacts) (policy : Option MountPolicy)
    (s : σ) : UnitStatus :=
  let desired := MountSpec.ofInputs? facts policy
  let previous := m.previous unitId s
  match (m.planFor desired policy previous s).1.state with
  | .error cause => .error cause
  | .mounted => .mounted ((desired.map (·.target)).getD "")
  | _ =>
    match previous.bind (·.lastError) with
    | some cause => .error cause
    | none => .idle (Reason.ofInputs facts policy)

end Machine

namespace Report

def toJson (r : Report) : Json.Value :=
  .obj [("unit_id", .str r.unitId), ("planned", r.planned.toJson), ("state", r.state.toJson),
    ("status", r.status.toJson), ("actions", .arr (r.actions.map Action.toJson)),
    ("executed", Json.Value.ofNat r.executed),
    ("record", match r.record with
      | some rec => rec.toJson
      | none => .null),
    ("divergent_peers", Json.Value.ofStrings r.divergent)]

/-- A teardown report as JSON: the report and whether the helpers may go. -/
def teardownJson (r : Report) (removable : Bool) : Json.Value :=
  match r.toJson with
  | .obj es => .obj (es ++ [("helpers_removable", .bool removable)])
  | v => v

end Report

end CephMount
