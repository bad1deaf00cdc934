import CephMount.Proofs.MountMap
import Mathlib.Tactic.Set

/-!
Resuming a pass: on a host whose mounts form a map, the next pass with the same inputs plans
exactly the actions this one left undone (`pass_resumes`).
-/
namespace CephMount

theorem plan_of_staleActions_eq (desired : Option MountSpec) (observed : Option Observation)
    {stale stale' : Option Observation} (h : staleActions stale = staleActions stale') :
    plan desired observed stale = plan desired observed stale' := by
  rcases stale with _ | x <;> rcases stale' with _ | x' <;> simp only [staleActions] at h <;>
    simp only [plan] <;> split_ifs at h ⊢ <;> simp_all

/-- Unless the target holds another filesystem, a plan settles mounted when a mount is desired
and idle otherwise. -/
theorem plan_settled (desired : Option MountSpec) (observed stale : Option Observation)
    (h : occupied desired observed = false) :
    (plan desired observed stale).state.settled = if desired.isSome then .mounted else .idle := by
  rcases desired with _ | spec <;> rcases observed with _ | o <;>
    simp only [plan, occupied] at h ⊢ <;> split_ifs <;> simp_all [UnitState.settled]

theorem plan_none_of_not_ceph {o : Observation} (ho : o.isCeph = false)
    (stale : Option Observation) : plan none (some o) stale = plan none none stale := by
  simp [plan, ho]

/-- What a pass probes: the target `t`, the desired mount's own target when one is desired, and
the stale mountpoint `q`, never the same path as the target. -/
structure Probes (desired : Option MountSpec) (t q : Option String) : Prop where
  target_desired : ∀ spec, desired = some spec → t = some spec.target
  stale_not_same : ∀ a b, q = some a → t = some b → Path.same a b = false

theorem probes_of_pass (desired : Option MountSpec) (policy : Option MountPolicy)
    (previous : Option UnitRecord) :
    Probes desired (Machine.target desired policy previous)
      (stalePath (Machine.target desired policy previous) previous) :=
  ⟨fun spec h => by subst h; rfl, fun _ _ ha hb => stalePath_not_same ha hb⟩

namespace MountMap

theorem observe_erase_of_not_same (T : MountMap) {p x : String} (h : Path.same x p = false) :
    (T.erase p).observe x = T.observe x := by
  simp [h]

theorem observe_put_of_not_same (T : MountMap) {h : HostMount} {x : String}
    (hx : Path.same x h.obs.mountpoint = false) : (T.put h).observe x = T.observe x := by
  simp [hx]

theorem map_observe_erase (T : MountMap) {p : String} {t : Option String}
    (h : ∀ x, t = some x → Path.same x p = false) :
    t.map (T.erase p).observe = t.map T.observe := by
  rcases t with _ | x
  · rfl
  · simp [observe_erase_of_not_same T (h x rfl)]

theorem map_observe_put (T : MountMap) {m : HostMount} {t : Option String}
    (h : ∀ x, t = some x → Path.same x m.obs.mountpoint = false) :
    t.map (T.put m).observe = t.map T.observe := by
  rcases t with _ | x
  · rfl
  · simp [observe_put_of_not_same T (h x rfl)]

theorem mounted_of_isCeph {o : Observation} (h : o.isCeph = true) : o.mounted = true := by
  simp only [Observation.isCeph, Bool.and_eq_true] at h
  exact h.1

/-- The plan a pass makes from a host's mounts, probing the target `t` and the stale
mountpoint `q`. -/
def planAt (T : MountMap) (desired : Option MountSpec) (t q : Option String) : Plan :=
  plan desired (t.map T.observe) (q.map T.observe)

section Advance

variable {desired : Option MountSpec} {t q : Option String}

theorem staleActions_erase_stale {T : MountMap} {qq : String} :
    staleActions (some ((T.erase (T.observe qq).mountpoint).observe qq)) = [] := by
  have hsame : Path.same qq (T.observe qq).mountpoint = true := by
    rw [Path.same_comm]
    exact T.observe_coherent.mountpoint_same qq
  simp [staleActions, hsame, Observation.unmounted, Observation.isCeph]

/-- What a plan made on a host's mounts can do first: unmount the stale CephFS mount; or, with
nothing stale to unmount, unmount the target's CephFS mount when no mount is desired, mount the
desired mount on a free target, or unmount a target's CephFS mount that does not satisfy it before
mounting. -/
theorem planAt_first_cases (hp : Probes desired t q) {T : MountMap} {a : Action}
    {rest : List Action} (hplan : (T.planAt desired t q).actions = a :: rest) :
    (∃ qq, q = some qq ∧ (T.observe qq).isCeph = true ∧ a = .unmount (T.observe qq).mountpoint ∧
        rest = targetActions desired (t.map T.observe) ∧
        occupied desired (t.map T.observe) = false) ∨
      (staleActions (q.map T.observe) = [] ∧
        ((∃ tt, desired = none ∧ t = some tt ∧ (T.observe tt).isCeph = true ∧
            a = .unmount (T.observe tt).mountpoint ∧ rest = []) ∨
          (∃ spec, desired = some spec ∧ t = some spec.target ∧
            (T.observe spec.target).mounted = false ∧ a = .mount spec ∧ rest = []) ∨
          (∃ spec, desired = some spec ∧ t = some spec.target ∧
            (T.observe spec.target).isCeph = true ∧
            spec.satisfiedBy (T.observe spec.target) = false ∧
            a = .unmount spec.target ∧ rest = [.mount spec]))) := by
  have hocc : occupied desired (t.map T.observe) = false := by
    cases h : occupied desired (t.map T.observe)
    · rfl
    · simp [planAt, plan_actions, h] at hplan
  simp only [planAt, plan_actions, hocc, Bool.false_eq_true, if_false] at hplan
  rcases staleActions_cases (q.map T.observe) with hs | ⟨o, ho, hc, hs⟩
  · rw [hs, List.nil_append] at hplan
    refine .inr ⟨hs, ?_⟩
    rcases targetActions_cases desired (t.map T.observe) with
      ht | ⟨o, rfl, ho, hc, ht⟩ | ⟨spec, rfl, hfree, ht⟩ | ⟨spec, o, rfl, ho, hc, hsat, ht⟩
    · rw [ht] at hplan
      cases hplan
    · rw [ht, List.cons.injEq] at hplan
      obtain ⟨tt, rfl, rfl⟩ := Option.map_eq_some_iff.1 ho
      exact .inl ⟨tt, rfl, rfl, hc, hplan.1.symm, hplan.2.symm⟩
    · rw [ht, List.cons.injEq] at hplan
      have ht : t = some spec.target := hp.target_desired spec rfl
      subst ht
      exact .inr (.inl ⟨spec, rfl, rfl, hfree _ rfl, hplan.1.symm, hplan.2.symm⟩)
    · rw [ht, List.cons.injEq] at hplan
      have ht : t = some spec.target := hp.target_desired spec rfl
      subst ht
      obtain rfl : T.observe spec.target = o := Option.some.inj ho
      exact .inr (.inr ⟨spec, rfl, rfl, hc, hsat, hplan.1.symm, hplan.2.symm⟩)
  · rw [hs, List.singleton_append, List.cons.injEq] at hplan
    obtain ⟨qq, rfl, rfl⟩ := Option.map_eq_some_iff.1 ho
    exact .inl ⟨qq, rfl, hc, hplan.1.symm, hplan.2.symm, hocc⟩

/-- The plan made after its first action succeeded is the rest of it, and the target is not
left holding another filesystem. -/
theorem planAt_after (hp : Probes desired t q) {T T' : MountMap} {a : Action}
    {rest : List Action} (hplan : (T.planAt desired t q).actions = a :: rest)
    (ha : T.After a T') :
    (T'.planAt desired t q).actions = rest ∧ occupied desired (t.map T'.observe) = false := by
  -- A path that is not the one an action works on shows what it showed, so nothing stale
  -- appears.
  have hstale : ∀ T' : MountMap, (∀ x, q = some x → T'.observe x = T.observe x) →
      staleActions (q.map T.observe) = [] → staleActions (q.map T'.observe) = [] := by
    intro T' h hs
    rcases q with _ | x
    · rfl
    · simpa [h x rfl] using hs
  rcases planAt_first_cases hp hplan with
    ⟨qq, rfl, hc, rfl, rfl, hocc⟩ |
      ⟨hs, ⟨tt, rfl, rfl, hc, rfl, rfl⟩ | ⟨spec, rfl, rfl, hfree, rfl, rfl⟩ |
        ⟨spec, rfl, rfl, hc, hsat, rfl, rfl⟩⟩
  · cases ha
    have hsame : Path.same qq (T.observe qq).mountpoint = true := by
      rw [Path.same_comm]
      exact T.observe_coherent.mountpoint_same qq
    have ht : t.map (T.erase (T.observe qq).mountpoint).observe = t.map T.observe := by
      apply map_observe_erase
      intro x hx
      rw [← Path.same_congr_right x hsame, Path.same_comm]
      exact hp.stale_not_same qq x rfl hx
    simp only [planAt, plan_actions, ht, hocc, Option.map_some, staleActions_erase_stale,
      List.nil_append, Bool.false_eq_true, if_false, and_self]
  · cases ha
    have hsame : Path.same tt (T.observe tt).mountpoint = true := by
      rw [Path.same_comm]
      exact T.observe_coherent.mountpoint_same tt
    have hq : ∀ x, q = some x → (T.erase (T.observe tt).mountpoint).observe x = T.observe x := by
      intro x hx
      apply observe_erase_of_not_same
      rw [← Path.same_congr_right x hsame]
      exact hp.stale_not_same x tt hx rfl
    simp only [planAt, plan_actions, occupied, if_false, Bool.false_eq_true, hstale _ hq hs,
      List.nil_append, and_true]
    simp [targetActions, hsame, Observation.unmounted, Observation.isCeph]
  · cases ha with
    | mount _ o' hmp hsat =>
    have hq : ∀ x, q = some x → (T.put ⟨o', true⟩).observe x = T.observe x := by
      intro x hx
      apply observe_put_of_not_same
      rw [hmp]
      exact hp.stale_not_same x spec.target hx rfl
    have hceph : o'.isCeph = true := isCeph_of_satisfiedBy hsat
    have hobs : (T.put ⟨o', true⟩).observe spec.target = o' := by
      rw [← hmp]
      exact T.observe_put_self ⟨o', true⟩
    simp [planAt, plan_actions, occupied, hstale _ hq hs, hobs, targetActions, hceph,
      mounted_of_isCeph hceph, hsat]
  · -- A CephFS mount that does not satisfy the desired mount is unmounted first.
    cases ha
    have hq : ∀ x, q = some x → (T.erase spec.target).observe x = T.observe x :=
      fun x hx => observe_erase_of_not_same T (hp.stale_not_same x spec.target hx rfl)
    simp [planAt, plan_actions, occupied, hstale _ hq hs, targetActions, Path.same_refl,
      Observation.unmounted, Observation.isCeph]

theorem planAt_settled_after (hp : Probes desired t q) {T T' : MountMap} {a : Action}
    {rest : List Action} (hplan : (T.planAt desired t q).actions = a :: rest)
    (ha : T.After a T') :
    (T'.planAt desired t q).state.settled = (T.planAt desired t q).state.settled := by
  have hocc : occupied desired (t.map T.observe) = false := by
    cases h : occupied desired (t.map T.observe)
    · rfl
    · simp [planAt, plan_actions, h] at hplan
  rw [planAt, planAt, plan_settled _ _ _ (planAt_after hp hplan ha).2, plan_settled _ _ _ hocc]

end Advance

end MountMap

/-- `T'` is what `T` becomes once the first `k` actions of the plans made on it have succeeded,
one after another. -/
inductive Progress (desired : Option MountSpec) (t q : Option String) :
    MountMap → Nat → MountMap → Prop
  | done (T : MountMap) : Progress desired t q T 0 T
  | step {T T' T'' : MountMap} {a : Action} {rest : List Action} {k : Nat} :
      (T.planAt desired t q).actions = a :: rest → T.After a T' →
      Progress desired t q T' k T'' → Progress desired t q T (k + 1) T''

namespace Progress

variable {desired : Option MountSpec} {t q : Option String}

/-- The mounts a run leaves plan exactly the actions that did not run. -/
theorem actions (hp : Probes desired t q) {T T' : MountMap} {k : Nat}
    (h : Progress desired t q T k T') :
    (T'.planAt desired t q).actions = (T.planAt desired t q).actions.drop k := by
  induction h with
  | done T => rfl
  | step hplan ha _ ih => rw [ih, (MountMap.planAt_after hp hplan ha).1, hplan, List.drop_succ_cons]

theorem settled (hp : Probes desired t q) {T T' : MountMap} {k : Nat}
    (h : Progress desired t q T k T') :
    (T'.planAt desired t q).state.settled = (T.planAt desired t q).state.settled := by
  induction h with
  | done T => rfl
  | step hplan ha _ ih => rw [ih, MountMap.planAt_settled_after hp hplan ha]

end Progress

/-- The mountpoint a record names when a pass sees `observed` at its target and `stale` at its
stale mountpoint once its actions ran: the stale one while it holds a CephFS mount, else the
target when a mount is desired or a CephFS mount is on it. -/
def managedPath (desired : Option MountSpec) (observed stale : Option Observation) :
    Option String :=
  match stale.filter (·.isCeph) with
  | some o => some o.mountpoint
  | none => (observed.filter fun o => desired.isSome || o.isCeph).map (·.mountpoint)

namespace MountMap

theorem observe_eq_of_mounted (T : MountMap) {x y : String} (hxy : Path.same x y = true)
    (h : (T.observe x).mounted = true) : T.observe y = T.observe x := by
  rcases hx : T.at? x with _ | m
  · rw [observe_of_at?_none hx] at h
    cases h
  · rw [observe_of_at? hx, observe_of_at? ((T.at?_congr hxy).symm.trans hx)]

theorem isCeph_observe_congr (T : MountMap) {x y : String} (hxy : Path.same x y = true) :
    (T.observe x).isCeph = (T.observe y).isCeph :=
  T.observe_coherent.isCeph_congr x y hxy

section Next

variable {desired : Option MountSpec} {T : MountMap} {y : String → String}

/-- When the inputs name the target, the next pass probes the same target, and the stale
mountpoint only while the record names it. -/
theorem planAt_next_named {tt : String} {q : Option String} (hp : Probes desired (some tt) q)
    (hy : ∀ x, Path.same (y x) x = true) {rec : UnitRecord}
    (hrec : rec.mountpoint = managedPath desired (some (T.observe (y tt)))
      (q.map fun x => T.observe (y x))) :
    T.planAt desired (some tt) (stalePath (some tt) (some rec)) = T.planAt desired (some tt) q := by
  unfold managedPath at hrec
  split at hrec
  · next o hs =>
    obtain ⟨qq, rfl, rfl⟩ : ∃ qq, q = some qq ∧ T.observe (y qq) = o := by
      rcases q with _ | qq
      · cases hs
      · exact ⟨qq, rfl, by simpa using (Option.filter_eq_some_iff.1 hs).1⟩
    have hmounted : (T.observe (y qq)).mounted = true :=
      mounted_of_isCeph (Option.filter_eq_some_iff.1 hs).2
    have hmp : Path.same (T.observe (y qq)).mountpoint qq = true :=
      Path.same_trans (T.observe_coherent.mountpoint_same (y qq)) (hy qq)
    have hnot : Path.same (T.observe (y qq)).mountpoint tt = false := by
      rw [Path.same_comm, Path.same_congr_right tt hmp, Path.same_comm]
      exact hp.stale_not_same qq tt rfl rfl
    have hstale : stalePath (some tt) (some rec) = some (T.observe (y qq)).mountpoint := by
      simp [stalePath, hrec, hnot]
    -- The record's mountpoint and the stale one show the same mount.
    have hsame : T.observe (T.observe (y qq)).mountpoint = T.observe qq := by
      rw [T.observe_eq_of_mounted ((Path.same_comm _ _).trans
          (T.observe_coherent.mountpoint_same (y qq))) hmounted,
        T.observe_eq_of_mounted (hy qq) hmounted]
    simp [planAt, hstale, hsame]
  · next hs =>
    have hstale : staleActions (q.map T.observe) = [] := by
      rcases q with _ | qq
      · rfl
      · have hc : (T.observe (y qq)).isCeph = false := by simpa using hs
        rw [T.isCeph_observe_congr (hy qq)] at hc
        simp [staleActions, hc]
    have hnone : stalePath (some tt) (some rec) = none := by
      have htt : Path.same (T.observe (y tt)).mountpoint tt = true :=
        Path.same_trans (T.observe_coherent.mountpoint_same (y tt)) (hy tt)
      unfold stalePath
      rw [Option.bind_some, hrec]
      split
      · next p hp' =>
        obtain ⟨o, ho, rfl⟩ := Option.map_eq_some_iff.1 hp'
        obtain ⟨he, -⟩ := Option.filter_eq_some_iff.1 ho
        cases he
        simp [htt]
      · rfl
    rw [hnone, planAt, planAt]
    exact plan_of_staleActions_eq _ _ (by rw [hstale]; rfl)

/-- With neither a desired mount nor a configured mountpoint, the next pass probes the mountpoint
the record names, and nothing stale. -/
theorem planAt_next_unnamed {t : Option String} (hy : ∀ x, Path.same (y x) x = true)
    {rec : UnitRecord} (hrec : rec.mountpoint = managedPath none (t.map fun x => T.observe (y x)) none) :
    T.planAt none rec.mountpoint (stalePath rec.mountpoint (some rec)) = T.planAt none t none := by
  have hnone : stalePath rec.mountpoint (some rec) = none := by
    unfold stalePath
    simp only [Option.bind_some]
    cases rec.mountpoint with
    | none => rfl
    | some p => simp [Path.same_refl]
  rw [hnone]
  simp only [managedPath, Option.filter_none, Option.isSome_none, Bool.false_or] at hrec
  rcases t with _ | tt
  · simp [hrec]
  · by_cases hc : (T.observe (y tt)).isCeph = true
    · have htt : Path.same (y tt) (T.observe (y tt)).mountpoint = true :=
        (Path.same_comm _ _).trans (T.observe_coherent.mountpoint_same (y tt))
      have hsame : T.observe (T.observe (y tt)).mountpoint = T.observe tt := by
        rw [T.observe_eq_of_mounted htt (mounted_of_isCeph hc),
          T.observe_eq_of_mounted (hy tt) (mounted_of_isCeph hc)]
      have hmp : rec.mountpoint = some (T.observe (y tt)).mountpoint := by
        simp [hrec, Option.filter, hc]
      simp [hmp, planAt, hsame]
    · have hc' : (T.observe tt).isCeph = false := by
        rw [← T.isCeph_observe_congr (hy tt)]
        simpa using hc
      have hmp : rec.mountpoint = none := by
        simp [hrec, Option.filter, hc]
      simp [hmp, planAt, plan_none_of_not_ceph hc']

theorem stalePath_unnamed (previous : Option UnitRecord) :
    stalePath (Machine.target none none previous) previous = none := by
  unfold stalePath Machine.target
  cases previous.bind (·.mountpoint) with
  | none => rfl
  | some p => simp [Path.same_refl]

/-- The next pass with the same inputs, on the mounts a pass left and with the record it
published, makes the plan this pass's probes would make there. -/
theorem planAt_next (policy : Option MountPolicy) (previous : Option UnitRecord)
    (hy : ∀ x, Path.same (y x) x = true) {rec : UnitRecord}
    (hrec : rec.mountpoint = managedPath desired
      ((Machine.target desired policy previous).map fun x => T.observe (y x))
      ((stalePath (Machine.target desired policy previous) previous).map fun x => T.observe (y x))) :
    T.planAt desired (Machine.target desired policy (some rec))
        (stalePath (Machine.target desired policy (some rec)) (some rec)) =
      T.planAt desired (Machine.target desired policy previous)
        (stalePath (Machine.target desired policy previous) previous) := by
  rcases desired with _ | spec
  · rcases policy with _ | pol
    · rw [stalePath_unnamed previous] at hrec ⊢
      exact planAt_next_unnamed hy hrec
    · exact planAt_next_named (probes_of_pass none (some pol) previous) hy hrec
  · exact planAt_next_named (probes_of_pass (some spec) policy previous) hy hrec

end Next

end MountMap

/-- A pass's report and the next one's: the next plans exactly the actions the first left
undone, and after a first pass that ran all its actions it ends in the first's state. -/
structure Report.Resumes (first next : Report) : Prop where
  actions : next.actions = first.actions.drop first.executed
  state : first.executed = first.actions.length → next.state = first.state

namespace Machine

variable {σ : Type} (m : Machine σ) {mounts : σ → MountMap}

/-- Running the plan made on a host's mounts: the count of actions that succeeded is how far the
plan progressed, and a run in which all succeeded reaches the planned state. -/
theorem executeFrom_progress (hm : m.MapHost mounts) {desired : Option MountSpec}
    {t q : Option String} (hp : Probes desired t q) (planned : UnitState) (as : List Action) :
    ∀ (done : Nat) (s : σ), ((mounts s).planAt desired t q).actions = as →
      ∃ k, (m.executeFrom planned as done s).1.2 = done + k ∧
        Progress desired t q (mounts s) k (mounts (m.executeFrom planned as done s).2) ∧
        (k = as.length → (m.executeFrom planned as done s).1.1 = planned.settled) := by
  induction as with
  | nil =>
    intro done s _
    exact ⟨0, rfl, .done _, fun _ => rfl⟩
  | cons a rest ih =>
    intro done s has
    rcases hperf : m.perform a s with ⟨_ | ⟨⟩, s'⟩
    · have hs' : mounts s' = mounts s := by
        simpa [hperf] using hm.perform_error a s _ (by rw [hperf])
      refine ⟨0, by simp [executeFrom, hperf], ?_, fun h => by simp at h⟩
      simp only [executeFrom, hperf, hs']
      exact .done _
    · have ha : (mounts s).After a (mounts s') := by
        simpa [hperf] using hm.perform_ok a s (by rw [hperf])
      obtain ⟨k, hk, hprog, hall⟩ := ih (done + 1) s' (MountMap.planAt_after hp has ha).1
      refine ⟨k + 1, by simp [executeFrom, hperf, hk]; omega, ?_, fun h => ?_⟩
      · simp only [executeFrom, hperf]
        exact .step has ha hprog
      · simp only [executeFrom, hperf]
        exact hall (by simpa using h)

theorem managed_fst (desired : Option MountSpec) (previous : Option UnitRecord) (acted : Bool)
    (observed stale : Option Observation) (s : σ) :
    (m.managed desired previous acted (some (observed, stale)) s).1 =
      managedPath desired (observed.map (m.reobserve acted · s))
        (stale.map (m.reobserve acted · s)) :=
  rfl

section Pass

variable (unitId : String) (facts : Option ConnectionFacts) (policy : Option MountPolicy)
  (reason : String) (s : σ)

theorem run_actions :
    (m.run unitId facts policy reason s).1.actions =
      (m.planFor (MountSpec.ofInputs? facts policy) policy (m.previous unitId s) s).1.actions :=
  rfl

theorem run_executed :
    (m.run unitId facts policy reason s).1.executed =
      (m.execute (m.planFor (MountSpec.ofInputs? facts policy) policy (m.previous unitId s)
        s).1 s).1.2 :=
  rfl

theorem run_state :
    (m.run unitId facts policy reason s).1.state =
      (m.execute (m.planFor (MountSpec.ofInputs? facts policy) policy (m.previous unitId s)
        s).1 s).1.1 :=
  rfl

theorem run_record :
    ∃ r : UnitRecord, (m.run unitId facts policy reason s).2 =
        (m.record unitId r (m.execute (m.planFor (MountSpec.ofInputs? facts policy) policy
          (m.previous unitId s) s).1 s).2).2 ∧
      r.mountpoint = (m.managed (MountSpec.ofInputs? facts policy) (m.previous unitId s)
        (!(m.planFor (MountSpec.ofInputs? facts policy) policy (m.previous unitId s)
          s).1.actions.isEmpty)
        (m.planFor (MountSpec.ofInputs? facts policy) policy (m.previous unitId s) s).2
        (m.execute (m.planFor (MountSpec.ofInputs? facts policy) policy
          (m.previous unitId s) s).1 s).2).1 :=
  ⟨_, rfl, rfl⟩

variable {unitId} in
/-- On a host of the map model, a published record is what the next read of its unit gives,
and publishing leaves the mounts as they are. -/
theorem record_published (hm : m.MapHost mounts) (r : UnitRecord) :
    m.previous unitId (m.record unitId r s).2 =
        some { r with unitId, generation := ((m.previous unitId s).map (·.generation)).getD 0 + 1 } ∧
      mounts (m.record unitId r s).2 = mounts s := by
  set r' : UnitRecord :=
    { r with unitId, generation := ((m.previous unitId s).map fun x : UnitRecord => x.generation).getD 0 + 1 }
  have hsnd : (m.record unitId r s).2 = (m.publish r' s).2 := by
    rcases hp : m.publish r' s with ⟨_ | ⟨⟩, s'⟩ <;> simp only [record, r', hp]
  have hread : m.readRecord unitId (m.publish r' s).2 = .ok (some r') := hm.read_published r' s
  rw [hsnd]
  exact ⟨by simp only [previous, hread], hm.publish_mounts r' s⟩

/-- On a host of the map model, a pass publishes a record naming the mountpoint it manages, and
leaves the mounts its actions left. -/
theorem run_published (hm : m.MapHost mounts) {p : Plan}
    {probed : Option (Option Observation × Option Observation)}
    (hplan : m.planFor (MountSpec.ofInputs? facts policy) policy (m.previous unitId s) s =
      (p, probed)) :
    (∃ rec, m.previous unitId (m.run unitId facts policy reason s).2 = some rec ∧
      rec.mountpoint = (m.managed (MountSpec.ofInputs? facts policy) (m.previous unitId s)
        (!p.actions.isEmpty) probed (m.execute p s).2).1) ∧
    mounts (m.run unitId facts policy reason s).2 = mounts (m.execute p s).2 := by
  obtain ⟨r, hrun, hr⟩ := m.run_record unitId facts policy reason s
  simp only [hplan] at hrun hr
  obtain ⟨hprev, hmounts⟩ := m.record_published (m.execute p s).2 hm r
  rw [hrun]
  exact ⟨⟨_, hprev, hr⟩, hmounts⟩

end Pass

section Readable

variable (hm : m.MapHost mounts) (hread : ∀ p s, ∃ o, m.observe p s = .ok o)
include hm hread

theorem observe_of_readable (p : String) (s : σ) :
    m.observe p s = .ok ((mounts s).observe p) := by
  obtain ⟨o, ho⟩ := hread p s
  rw [ho, hm.observe_ok p s o ho]

theorem planFor_of_readable (desired : Option MountSpec) (policy : Option MountPolicy)
    (previous : Option UnitRecord) (s : σ) :
    m.planFor desired policy previous s =
      ((mounts s).planAt desired (target desired policy previous)
          (stalePath (target desired policy previous) previous),
        some ((target desired policy previous).map (mounts s).observe,
          (stalePath (target desired policy previous) previous).map (mounts s).observe)) := by
  simp only [planFor, m.survey_eq (mounts s).observe (m.observe_of_readable hm hread · s)]
  rfl

/-- With every probe succeeding, what a pass sees at its end is what the mounts show at a path
the same as the one it probed: the one the first probe showed, or that path itself when nothing
ran. -/
theorem reobserve_after {T : MountMap} {acted : Bool} {sx : σ} (hsx : acted = false → mounts sx = T)
    (x : String) :
    m.reobserve acted (T.observe x) sx =
      (mounts sx).observe (if acted then (T.observe x).mountpoint else x) := by
  cases acted
  · simp [reobserve, hsx rfl]
  · simp [reobserve, m.observe_of_readable hm hread]

/-- With every probe and publish succeeding, the next pass reads the record a pass published
and, wanting the same mount under the same policy, makes the plan this pass's probes make on the
mounts its actions left. -/
theorem run_next_plan (unitId : String) {facts : Option ConnectionFacts}
    {policy : Option MountPolicy} (reason : String) (s : σ) {desired : Option MountSpec}
    {t q : Option String} (hd : MountSpec.ofInputs? facts policy = desired)
    (ht : target desired policy (m.previous unitId s) = t)
    (hq : stalePath t (m.previous unitId s) = q) :
    ∃ rec T', m.previous unitId (m.run unitId facts policy reason s).2 = some rec ∧
      Progress desired t q (mounts s) (m.run unitId facts policy reason s).1.executed T' ∧
      (m.planFor desired policy (some rec) (m.run unitId facts policy reason s).2).1 =
        T'.planAt desired t q := by
  subst hd ht hq
  set desired := MountSpec.ofInputs? facts policy
  set previous := m.previous unitId s
  set t := target desired policy previous
  set q := stalePath t previous
  set T := mounts s
  set P := T.planAt desired t q
  set acted := !P.actions.isEmpty
  have hp : Probes desired t q := probes_of_pass desired policy previous
  have hplan : m.planFor desired policy previous s = (P, some (t.map T.observe, q.map T.observe)) :=
    m.planFor_of_readable hm hread desired policy previous s
  obtain ⟨k, hk, hprog, -⟩ := m.executeFrom_progress hm hp P.state P.actions 0 s rfl
  set sx := (m.execute P s).2
  have hprog : Progress desired t q T k (mounts sx) := hprog
  have hexecuted : (m.run unitId facts policy reason s).1.executed = k := by
    rw [run_executed, hplan]
    exact hk.trans (Nat.zero_add k)
  obtain ⟨⟨rec, hprev, hrec⟩, hmounts⟩ := m.run_published unitId facts policy reason s hm hplan
  have hrec : rec.mountpoint =
      (m.managed desired previous acted (some (t.map T.observe, q.map T.observe)) sx).1 := hrec
  have hmounts : mounts (m.run unitId facts policy reason s).2 = mounts sx := hmounts
  have hsx : acted = false → mounts sx = T := by
    intro h
    have hnil : P.actions = [] := by simpa [acted] using h
    simp only [sx, execute, hnil, executeFrom]
    rfl
  have hy : ∀ x, Path.same (if acted then (T.observe x).mountpoint else x) x = true := by
    intro x
    split
    · exact T.observe_coherent.mountpoint_same x
    · exact Path.same_refl x
  have hrec' : rec.mountpoint = managedPath desired
      (t.map fun x => (mounts sx).observe (if acted then (T.observe x).mountpoint else x))
      (q.map fun x => (mounts sx).observe (if acted then (T.observe x).mountpoint else x)) := by
    rw [hrec, managed_fst]
    simp only [Option.map_map, Function.comp_def, m.reobserve_after hm hread hsx]
  -- So the next pass makes the plan this pass's probes make on the mounts it left.
  refine ⟨rec, mounts sx, hprev, hexecuted ▸ hprog, ?_⟩
  rw [m.planFor_of_readable hm hread desired policy (some rec), hmounts,
    MountMap.planAt_next policy previous hy hrec']

/-- With every probe and publish succeeding, the next pass with the same inputs resumes a
pass. -/
theorem run_resumes (unitId : String) (facts : Option ConnectionFacts)
    (policy : Option MountPolicy) (reason reason' : String) (s : σ) :
    (m.run unitId facts policy reason s).1.Resumes
      (m.run unitId facts policy reason' (m.run unitId facts policy reason s).2).1 := by
  obtain ⟨rec, T', hprev, hprog, hplan'⟩ := m.run_next_plan hm hread unitId reason s rfl rfl rfl
  set desired := MountSpec.ofInputs? facts policy
  set previous := m.previous unitId s
  set t := target desired policy previous
  set q := stalePath t previous
  set T := mounts s
  set P := T.planAt desired t q
  have hp : Probes desired t q := probes_of_pass desired policy previous
  have hplan : m.planFor desired policy previous s = (P, some (t.map T.observe, q.map T.observe)) :=
    m.planFor_of_readable hm hread desired policy previous s
  obtain ⟨k, hk, -, hall⟩ := m.executeFrom_progress hm hp P.state P.actions 0 s rfl
  have hexecuted : (m.run unitId facts policy reason s).1.executed = k := by
    rw [run_executed, hplan]
    exact hk.trans (Nat.zero_add k)
  rw [hexecuted] at hprog
  have hactions :
      (m.run unitId facts policy reason' (m.run unitId facts policy reason s).2).1.actions =
        P.actions.drop k := by
    rw [run_actions, hprev, hplan']
    exact hprog.actions hp
  refine ⟨?_, fun hdone => ?_⟩
  · rw [hactions, hexecuted, run_actions, hplan]
  · have hdone : k = P.actions.length := by
      rw [hexecuted, run_actions, hplan] at hdone
      exact hdone
    have hnil : (T'.planAt desired t q).actions = [] := by
      rw [hprog.actions hp, hdone, List.drop_length]
    rw [run_state, run_state, hprev, hplan', hplan]
    simp only [execute, hnil, executeFrom]
    rw [hprog.settled hp]
    exact (hall hdone).symm

end Readable

end Machine

variable {σ : Type} {m : Machine σ} {mounts : σ → MountMap}

/-- On every host whose mounts form a map, with every probe and publish succeeding, whatever its
mounts, the unit's previous record and the inputs, the next reconcile pass with the same inputs
resumes a reconcile pass, and the next teardown resumes a teardown: it plans exactly the actions
left undone, and after a pass that ran all of them it plans none and ends in the same state. -/
theorem pass_resumes (hm : m.MapHost mounts) (hread : ∀ p s, ∃ o, m.observe p s = .ok o)
    (unitId : String) (facts : Option ConnectionFacts) (policy : Option MountPolicy) (s : σ) :
    (m.reconcile unitId facts policy s).1.Resumes
        (m.reconcile unitId facts policy (m.reconcile unitId facts policy s).2).1 ∧
      (m.teardown unitId policy s).1.1.Resumes
        (m.teardown unitId policy (m.teardown unitId policy s).2).1.1 :=
  ⟨m.run_resumes hm hread unitId facts policy _ _ s, m.run_resumes hm hread unitId none policy _ _ s⟩

/-- A host without mounts whose next mount call fails, a pass wanting CephFS on `/data`, and a
teardown with `/data` configured. -/
theorem pass_resumes_fakeHost :
    FakeHost.machine.MapHost FakeHost.table ∧
      (∀ p s, ∃ o, FakeHost.machine.observe p s = .ok o) ∧
      ((FakeHost.machine.reconcile "app/0"
          (some {
            monitors := [{ host := "10.0.0.1", port := 6789 }], fsId := "abc",
            authKey := "AQBsecret==", exportPath := "/", authUser := "admin", fsName := none })
          (some { mountpoint := "/data", options := {} })
          { table := .empty, mountFailures := ["mount error 16 = Device or resource busy"] }).1.Resumes
        (FakeHost.machine.reconcile "app/0"
          (some {
            monitors := [{ host := "10.0.0.1", port := 6789 }], fsId := "abc",
            authKey := "AQBsecret==", exportPath := "/", authUser := "admin", fsName := none })
          (some { mountpoint := "/data", options := {} })
          (FakeHost.machine.reconcile "app/0"
            (some {
              monitors := [{ host := "10.0.0.1", port := 6789 }], fsId := "abc",
              authKey := "AQBsecret==", exportPath := "/", authUser := "admin", fsName := none })
            (some { mountpoint := "/data", options := {} })
            { table := .empty, mountFailures := ["mount error 16 = Device or resource busy"] }).2).1 ∧
      (FakeHost.machine.teardown "app/0" (some { mountpoint := "/data", options := {} })
          { table := .empty, mountFailures := ["mount error 16 = Device or resource busy"] }).1.1.Resumes
        (FakeHost.machine.teardown "app/0" (some { mountpoint := "/data", options := {} })
          (FakeHost.machine.teardown "app/0" (some { mountpoint := "/data", options := {} })
            { table := .empty,
              mountFailures := ["mount error 16 = Device or resource busy"] }).2).1.1) :=
  ⟨FakeHost.machine_mapHost, fun _ _ => ⟨_, rfl⟩,
    pass_resumes FakeHost.machine_mapHost (fun _ _ => ⟨_, rfl⟩) "app/0"
      (some {
        monitors := [{ host := "10.0.0.1", port := 6789 }], fsId := "abc",
        authKey := "AQBsecret==", exportPath := "/", authUser := "admin", fsName := none })
      (some { mountpoint := "/data", options := {} })
      { table := .empty, mountFailures := ["mount error 16 = Device or resource busy"] }⟩

end CephMount
