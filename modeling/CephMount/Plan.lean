import CephMount.Spec

/-!
Planning from the desired mount and the probes of the target and of a stale mountpoint: which
CephFS mounts to unmount, and whether to mount. Only CephFS mounts are unmounted, and a target
that holds another filesystem is an error.
-/
namespace CephMount

/-- One operation on the host. -/
inductive Action where
  | mount (spec : MountSpec)
  | unmount (mountpoint : String)
  deriving DecidableEq, Repr

namespace Action

def mountpoint : Action → String
  | mount spec => spec.target
  | unmount p => p

def line : Action → String
  | mount spec => "mount " ++ spec.source ++ " on " ++ spec.target
  | unmount p => "unmount " ++ p

def isMount : Action → Bool
  | mount _ => true
  | unmount _ => false

def toJson : Action → Json.Value
  | mount spec => .obj [("action", .str "mount"), ("spec", spec.toJson)]
  | unmount p => .obj [("action", .str "unmount"), ("mountpoint", .str p)]

end Action

/-- The state of the unit, derived anew on every pass. -/
inductive UnitState where
  | idle
  | mounting
  | mounted
  | needsRemount
  | unmounting
  | error (cause : String)
  deriving DecidableEq, Repr

namespace UnitState

def name : UnitState → String
  | idle => "idle"
  | mounting => "mounting"
  | mounted => "mounted"
  | needsRemount => "needs_remount"
  | unmounting => "unmounting"
  | error _ => "error"

def settled : UnitState → UnitState
  | mounting => mounted
  | needsRemount => mounted
  | unmounting => idle
  | s => s

def toJson : UnitState → Json.Value
  | error cause => .obj [("state", .str "error"), ("cause", .str cause)]
  | s => .obj [("state", .str s.name)]

end UnitState

/-- What an operator sees. -/
inductive UnitStatus where
  | idle (reason : String)
  | mounted (mountpoint : String)
  | error (cause : String)
  deriving DecidableEq, Repr

namespace UnitStatus

def line : UnitStatus → String
  | idle reason => "Idle: " ++ reason
  | mounted p => "Mounted: " ++ p
  | error cause => "Error: " ++ cause

def toJson : UnitStatus → Json.Value
  | idle reason => .obj [("status", .str "idle"), ("reason", .str reason)]
  | mounted p => .obj [("status", .str "mounted"), ("mountpoint", .str p)]
  | error cause => .obj [("status", .str "error"), ("cause", .str cause)]

end UnitStatus

/-- How a pass's actions are summed up in the unit's record. -/
inductive LastAction where
  | none
  | mount
  | unmount
  | remount
  deriving DecidableEq, Repr

namespace LastAction

def name : LastAction → String
  | none => "none"
  | mount => "mount"
  | unmount => "unmount"
  | remount => "remount"

def named : List (String × LastAction) :=
  [("none", none), ("mount", mount), ("unmount", unmount), ("remount", remount)]

end LastAction

/-- The state implied by the inputs and the actions that converge the host, in order. -/
structure Plan where
  state : UnitState
  actions : List Action
  deriving DecidableEq, Repr

namespace Plan

/-- The summary of a plan's actions; none for a plan without actions. -/
def lastAction? (p : Plan) : Option LastAction :=
  match p.actions.any Action.isMount, p.actions.any (!·.isMount) with
  | true, true => some .remount
  | true, false => some .mount
  | false, true => some .unmount
  | false, false => Option.none

end Plan

/-- Decides the actions for a desired mount, the target's observation and a stale mountpoint's
observation. -/
def plan (desired : Option MountSpec) (observed stale : Option Observation) : Plan :=
  let first : List Action := match stale with
    | some s => if s.isCeph then [.unmount s.mountpoint] else []
    | none => []
  match desired with
  | none =>
    let actions := first ++ match observed with
      | some o => if o.isCeph then [.unmount o.mountpoint] else []
      | none => []
    if actions.isEmpty then ⟨.idle, []⟩ else ⟨.unmounting, actions⟩
  | some spec =>
    match observed with
    | some o =>
      if !o.mounted then ⟨.mounting, first ++ [.mount spec]⟩
      else if !o.isCeph then ⟨.error ("mountpoint occupied by " ++ o.fstype), []⟩
      else if spec.satisfiedBy o then ⟨.mounted, first⟩
      else ⟨.needsRemount, first ++ [.unmount spec.target, .mount spec]⟩
    | none => ⟨.mounting, first ++ [.mount spec]⟩

end CephMount
