import CephMount.Reconcile
import Mathlib.Tactic.SplitIfs

/-!
What a plan can hold: with a coherent probe it unmounts only CephFS mounts, never two paths that
are the same, and mounts only the desired mount, last.
-/
namespace CephMount

namespace Path

theorem same_iff {a b : String} : same a b = true ↔ components a = components b := by
  simp [same]

theorem same_comm (a b : String) : same a b = same b a :=
  Bool.eq_iff_iff.2 ⟨fun h => same_iff.2 (same_iff.1 h).symm, fun h => same_iff.2 (same_iff.1 h).symm⟩

theorem same_trans {a b c : String} (hab : same a b = true) (hbc : same b c = true) :
    same a c = true :=
  same_iff.2 ((same_iff.1 hab).trans (same_iff.1 hbc))

theorem same_congr_right {p q : String} (x : String) (h : same p q = true) :
    same x p = same x q := by
  simp only [same, same_iff.1 h]

end Path

/-- The unmount `plan` puts first: of the stale mountpoint, when a CephFS mount is on it. -/
def staleActions : Option Observation → List Action
  | some s => if s.isCeph then [.unmount s.mountpoint] else []
  | none => []

/-- What `plan` does about the target after the stale mountpoint. -/
def targetActions : Option MountSpec → Option Observation → List Action
  | none, some o => if o.isCeph then [.unmount o.mountpoint] else []
  | none, none => []
  | some spec, some o =>
    if !o.mounted then [.mount spec]
    else if !o.isCeph then []
    else if spec.satisfiedBy o then []
    else [.unmount spec.target, .mount spec]
  | some spec, none => [.mount spec]

/-- Whether a mount is desired on a target that holds another filesystem. -/
def occupied : Option MountSpec → Option Observation → Bool
  | some _, some o => o.mounted && !o.isCeph
  | _, _ => false

/-- The stale part of a plan: nothing, or the unmount of a CephFS mount on the stale
mountpoint. -/
theorem staleActions_cases (stale : Option Observation) :
    staleActions stale = [] ∨
      ∃ o, stale = some o ∧ o.isCeph = true ∧ staleActions stale = [.unmount o.mountpoint] := by
  rcases stale with _ | o
  · exact .inl rfl
  · by_cases h : o.isCeph = true
    · exact .inr ⟨o, rfl, h, by simp [staleActions, h]⟩
    · exact .inl (by simp [staleActions, h])

/-- The target part of a plan: nothing; the unmount of a CephFS mount that is no longer desired;
the desired mount on a free target; or the desired mount after the unmount of a CephFS mount
that does not satisfy it. -/
theorem targetActions_cases (desired : Option MountSpec) (observed : Option Observation) :
    targetActions desired observed = [] ∨
      (∃ o, desired = none ∧ observed = some o ∧ o.isCeph = true ∧
        targetActions desired observed = [.unmount o.mountpoint]) ∨
      (∃ spec, desired = some spec ∧ (∀ o, observed = some o → o.mounted = false) ∧
        targetActions desired observed = [.mount spec]) ∨
      (∃ spec o, desired = some spec ∧ observed = some o ∧ o.isCeph = true ∧
        spec.satisfiedBy o = false ∧
        targetActions desired observed = [.unmount spec.target, .mount spec]) := by
  rcases desired with _ | spec <;> rcases observed with _ | o
  · exact .inl rfl
  · by_cases h : o.isCeph = true
    · exact .inr (.inl ⟨o, rfl, rfl, h, by simp [targetActions, h]⟩)
    · exact .inl (by simp [targetActions, h])
  · exact .inr (.inr (.inl ⟨spec, rfl, by simp, rfl⟩))
  · by_cases hm : o.mounted = true
    · by_cases hc : o.isCeph = true
      · by_cases hs : spec.satisfiedBy o = true
        · exact .inl (by simp [targetActions, hm, hc, hs])
        · exact .inr (.inr (.inr ⟨spec, o, rfl, rfl, hc, by simpa using hs,
            by simp [targetActions, hm, hc, hs]⟩))
      · exact .inl (by simp [targetActions, hm, hc])
    · exact .inr (.inr (.inl ⟨spec, rfl, by simpa using hm, by simp [targetActions, hm]⟩))

theorem plan_actions (desired : Option MountSpec) (observed stale : Option Observation) :
    (plan desired observed stale).actions =
      if occupied desired observed then [] else staleActions stale ++ targetActions desired observed := by
  rcases desired with _ | spec <;> rcases observed with _ | o <;>
    rcases stale with _ | st <;>
    simp only [plan, occupied, staleActions, targetActions] <;>
    split_ifs <;> simp_all

/-- The mountpoint a pass probes besides its target: the one the previous record names, unless
it is the same path as the target. -/
def stalePath (target : Option String) (previous : Option UnitRecord) : Option String :=
  match previous.bind (·.mountpoint) with
  | some p => if (target.map (Path.same p)).getD false then none else some p
  | none => none

theorem stalePath_not_same {target : Option String} {previous : Option UnitRecord} {a b : String}
    (ha : stalePath target previous = some a) (hb : target = some b) : Path.same a b = false := by
  unfold stalePath at ha
  subst hb
  split at ha
  · split_ifs at ha with h
    cases ha
    simpa using h
  · cases ha

theorem target_of_desired {spec : MountSpec} (policy : Option MountPolicy)
    (previous : Option UnitRecord) :
    Machine.target (some spec) policy previous = some spec.target := rfl

namespace Machine

variable {σ : Type} (m : Machine σ)

/-- When every probe succeeds, a pass sees its target and its stale mountpoint as probed. -/
theorem survey_eq {s : σ} (look : String → Observation) (h : ∀ p, m.observe p s = .ok (look p))
    (desired : Option MountSpec) (policy : Option MountPolicy) (previous : Option UnitRecord) :
    m.survey desired policy previous s =
      .ok ((target desired policy previous).map look,
        (stalePath (target desired policy previous) previous).map look) := by
  unfold survey stalePath
  rcases target desired policy previous with _ | t <;>
    rcases previous.bind (·.mountpoint) with _ | p
  · rfl
  · simp only [h]
    rfl
  · simp only [h]
    rfl
  · simp only [h, Option.map_some, Option.getD_some]
    split_ifs <;> rfl

theorem planFor_actions_of_unreadable {s : σ} (h : ∀ p, ∃ e, m.observe p s = .error e)
    (desired : Option MountSpec) (policy : Option MountPolicy) (previous : Option UnitRecord) :
    (m.planFor desired policy previous s).1.actions = [] := by
  rcases ht : target desired policy previous with _ | t
  · -- Without a target nothing is desired and the previous record names no mountpoint, so
    -- nothing is probed.
    have hd : desired = none := by
      rcases desired with _ | spec
      · rfl
      · simp [target] at ht
    have hp : previous.bind (·.mountpoint) = none := by
      rcases desired with _ | _ <;> rcases policy with _ | _ <;> simp_all [target]
    subst hd
    simp only [planFor, survey, ht, hp]
    rfl
  · obtain ⟨e, he⟩ := h t
    simp only [planFor, survey, ht, he]
    rfl

end Machine

/-- A probe that shows a path's mount at a path the same as it, and the same mount at paths
that are the same. -/
structure Coherent (look : String → Observation) : Prop where
  mountpoint_same : ∀ p, Path.same (look p).mountpoint p = true
  isCeph_congr : ∀ p q, Path.same p q = true → (look p).isCeph = (look q).isCeph
  mounted_congr : ∀ p q, Path.same p q = true → (look p).mounted = (look q).mounted

theorem MountTable.observe_coherent (entries : List MountEntry) :
    Coherent (MountTable.observe entries) := by
  have hfind : ∀ p q, Path.same p q = true →
      entries.reverse.find? (fun e => Path.same e.mountpoint p) =
        entries.reverse.find? (fun e => Path.same e.mountpoint q) := by
    intro p q h
    simp only [Path.same_congr_right _ h]
  refine ⟨fun p => ?_, fun p q h => ?_, fun p q h => ?_⟩
  · unfold MountTable.observe
    split
    · next e he => simpa [Observation.ofEntry] using List.find?_some he
    · exact Path.same_refl p
  all_goals
    unfold MountTable.observe
    rw [hfind p q h]
    split <;> rfl

section Plan

variable {look : String → Observation} (hlook : Coherent look) {desired : Option MountSpec}
  {target stale : Option String}

include hlook in
theorem staleActions_unmount {p : String} (hp : .unmount p ∈ staleActions (stale.map look)) :
    ∃ a, stale = some a ∧ Path.same p a = true ∧ (look p).isCeph = true := by
  rcases staleActions_cases (stale.map look) with h | ⟨o, ho, hc, h⟩
  · simp [h] at hp
  rw [h, List.mem_singleton, Action.unmount.injEq] at hp
  obtain ⟨a, rfl, rfl⟩ := Option.map_eq_some_iff.1 ho
  subst hp
  exact ⟨a, rfl, hlook.mountpoint_same a, by rwa [hlook.isCeph_congr _ _ (hlook.mountpoint_same a)]⟩

include hlook in
theorem targetActions_unmount (hd : ∀ spec, desired = some spec → target = some spec.target)
    {p : String} (hp : .unmount p ∈ targetActions desired (target.map look)) :
    ∃ b, target = some b ∧ Path.same p b = true ∧ (look p).isCeph = true := by
  rcases targetActions_cases desired (target.map look) with
    h | ⟨o, -, ho, hc, h⟩ | ⟨spec, -, -, h⟩ | ⟨spec, o, hs, ho, hc, -, h⟩ <;>
    simp only [h, List.mem_cons, List.not_mem_nil, reduceCtorEq, or_false,
      Action.unmount.injEq] at hp
  · obtain ⟨b, rfl, rfl⟩ := Option.map_eq_some_iff.1 ho
    subst hp
    exact ⟨b, rfl, hlook.mountpoint_same b,
      by rwa [hlook.isCeph_congr _ _ (hlook.mountpoint_same b)]⟩
  · subst hp
    rw [hd spec hs, Option.map_some, Option.some_inj] at ho
    exact ⟨spec.target, hd spec hs, Path.same_refl _, ho ▸ hc⟩

include hlook in
theorem plan_unmount_ceph (hd : ∀ spec, desired = some spec → target = some spec.target)
    {p : String} (hp : .unmount p ∈ (plan desired (target.map look) (stale.map look)).actions) :
    (look p).isCeph = true := by
  rw [plan_actions] at hp
  split_ifs at hp
  · simp at hp
  rcases List.mem_append.1 hp with hp | hp
  · obtain ⟨-, -, -, hc⟩ := staleActions_unmount hlook hp
    exact hc
  · obtain ⟨-, -, -, hc⟩ := targetActions_unmount hlook hd hp
    exact hc

theorem staleActions_pairwise (stale : Option Observation) (r : Action → Action → Prop) :
    (staleActions stale).Pairwise r := by
  rcases staleActions_cases stale with h | ⟨o, -, -, h⟩ <;> simp [h]

theorem targetActions_unmount_pairwise (desired : Option MountSpec)
    (observed : Option Observation) :
    (targetActions desired observed).Pairwise
      fun x y => ∀ p q, x = .unmount p → y = .unmount q → Path.same p q = false := by
  rcases targetActions_cases desired observed with
    h | ⟨o, -, -, -, h⟩ | ⟨spec, -, -, h⟩ | ⟨spec, o, -, -, -, -, h⟩ <;> simp [h]

include hlook in
/-- A plan never unmounts two paths that are the same. -/
theorem plan_unmount_once (hd : ∀ spec, desired = some spec → target = some spec.target)
    (hstale : ∀ a b, stale = some a → target = some b → Path.same a b = false) :
    (plan desired (target.map look) (stale.map look)).actions.Pairwise
      fun x y => ∀ p q, x = .unmount p → y = .unmount q → Path.same p q = false := by
  rw [plan_actions]
  split_ifs
  · exact List.Pairwise.nil
  refine List.pairwise_append.2 ⟨staleActions_pairwise _ _,
    targetActions_unmount_pairwise _ _, ?_⟩
  intro x hx y hy p q hxp hyq
  subst hxp hyq
  -- The stale path and the target are not the same, nor are paths the same as them.
  obtain ⟨a, ha, hpa, -⟩ := staleActions_unmount hlook hx
  obtain ⟨b, hb, hqb, -⟩ := targetActions_unmount hlook hd hy
  cases hpq : Path.same p q
  · rfl
  · have hab : Path.same a b = true :=
      Path.same_trans (Path.same_trans (by rw [Path.same_comm]; exact hpa) hpq) hqb
    rw [hstale a b ha hb] at hab
    cases hab

/-- A plan mounts last: nothing follows its mount. -/
theorem plan_mount_last (observed stale : Option Observation) :
    (plan desired observed stale).actions.Pairwise fun x _ => x.isMount = false := by
  rw [plan_actions]
  split_ifs
  · exact List.Pairwise.nil
  refine List.pairwise_append.2 ⟨?_, ?_, ?_⟩
  · rcases staleActions_cases stale with h | ⟨o, -, -, h⟩ <;> simp [h]
  · rcases targetActions_cases desired observed with
      h | ⟨o, -, -, -, h⟩ | ⟨spec, -, -, h⟩ | ⟨spec, o, -, -, -, -, h⟩ <;>
      simp [h, Action.isMount]
  · intro x hx
    rcases staleActions_cases stale with h | ⟨o, -, -, h⟩ <;> simp only [h] at hx
    · simp at hx
    · rw [List.mem_singleton] at hx
      subst hx
      simp [Action.isMount]

/-- A plan mounts only the desired mount, on a target that was free or whose CephFS mount it
unmounts first. -/
theorem plan_mount_desired (hd : ∀ spec, desired = some spec → target = some spec.target)
    {spec : MountSpec}
    (hm : .mount spec ∈ (plan desired (target.map look) (stale.map look)).actions) :
    desired = some spec ∧
      ((look spec.target).mounted = false ∨
        ((look spec.target).isCeph = true ∧
          ∃ l, (plan desired (target.map look) (stale.map look)).actions = l ++ [.mount spec] ∧
            .unmount spec.target ∈ l)) := by
  rw [plan_actions] at hm ⊢
  split_ifs at hm ⊢
  · simp at hm
  rcases List.mem_append.1 hm with hm | hm
  · rcases staleActions_cases (stale.map look) with h | ⟨o, -, -, h⟩ <;> simp [h] at hm
  rcases targetActions_cases desired (target.map look) with
    h | ⟨o, -, -, -, h⟩ | ⟨d, hs, hfree, h⟩ | ⟨d, o, hs, ho, hc, -, h⟩ <;>
    simp only [h, List.mem_cons, List.not_mem_nil, reduceCtorEq, or_false, false_or,
      Action.mount.injEq] at hm
  · subst hm
    refine ⟨hs, .inl (hfree _ ?_)⟩
    rw [hd spec hs, Option.map_some]
  · subst hm
    rw [hd spec hs, Option.map_some, Option.some_inj] at ho
    refine ⟨hs, .inr ⟨ho ▸ hc, staleActions (stale.map look) ++ [.unmount spec.target], ?_,
      by simp⟩⟩
    rw [h]
    simp

end Plan

end CephMount
