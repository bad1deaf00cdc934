import CephMount.Proofs.StatusView
import CephMount.Proofs.ProbeFailure

/-!
Convergence as a unit's record shows it. A record without a failure and with a desired mount is
that of a pass that ended mounted; on a host whose mounts form a map the converse holds too
(`run_record_converged`).
-/
namespace CephMount

section Plan

variable {desired : Option MountSpec} {observed stale : Option Observation}

theorem plan_settled_of_some (spec : MountSpec) (observed stale : Option Observation) :
    (plan (some spec) observed stale).state.settled = .mounted ∨
      ∃ c, (plan (some spec) observed stale).state.settled = .error c := by
  rcases plan_cases (some spec) observed stale with ⟨h, -⟩ | ⟨_, -, -, hp⟩ |
    ⟨_, _, -, -, -, -, hp⟩ | ⟨_, _, -, -, -, -, hp⟩ | ⟨_, _, -, -, -, -, hp⟩
  · cases h
  all_goals simp [hp, UnitState.settled]

/-- A plan with nothing left to do that settles mounted finds on its target a mount that
satisfies the desired one. -/
theorem plan_satisfied_of_settled (hnil : (plan desired observed stale).actions = [])
    (hs : (plan desired observed stale).state.settled = .mounted) :
    ∃ spec o, desired = some spec ∧ observed = some o ∧ spec.satisfiedBy o = true := by
  rcases plan_cases desired observed stale with ⟨-, hp⟩ | ⟨_, -, -, hp⟩ |
    ⟨_, _, -, -, -, -, hp⟩ | ⟨spec, o, hd, ho, -, hsat, -⟩ | ⟨_, _, -, -, -, -, hp⟩
  · rw [hp] at hs
    split at hs <;> simp [UnitState.settled] at hs
  · simp [hp] at hnil
  · simp [hp, UnitState.settled] at hs
  · exact ⟨spec, o, hd, ho, hsat⟩
  · simp [hp] at hnil

end Plan

theorem Progress.satisfied_of_settled {desired : Option MountSpec} {t q : Option String}
    (hp : Probes desired t q) {T T' : MountMap}
    (h : Progress desired t q T (T.planAt desired t q).actions.length T')
    (hs : (T.planAt desired t q).state.settled = .mounted) :
    ∃ spec, desired = some spec ∧ t = some spec.target ∧
      spec.satisfiedBy (T'.observe spec.target) = true := by
  have hnil : (T'.planAt desired t q).actions = [] := by
    rw [h.actions hp, List.drop_length]
  have hset : (T'.planAt desired t q).state.settled = .mounted := by
    rw [h.settled hp, hs]
  obtain ⟨spec, o, hspec, ho, hsat⟩ := plan_satisfied_of_settled hnil hset
  have ht : t = some spec.target := hp.target_desired spec hspec
  rw [ht, Option.map_some, Option.some_inj] at ho
  exact ⟨spec, hspec, ht, ho ▸ hsat⟩

namespace Machine

variable {σ : Type} (m : Machine σ) {mounts : σ → MountMap}

theorem execute_of_not_error {p : Plan} {s : σ} (h : ∀ c, (m.execute p s).1.1 ≠ .error c) :
    (m.execute p s).1 = (p.state.settled, p.actions.length) := by
  rcases m.executeFrom_cases p.state p.actions 0 s with hdone | ⟨c, k, -, hfail⟩
  · simpa [execute] using hdone
  · exact absurd (by rw [execute, hfail]) (h c)

theorem execute_of_actions_nil {p : Plan} (h : p.actions = []) (s : σ) : (m.execute p s).2 = s := by
  simp only [execute, h, executeFrom]

/-- A pass that wants a mount and ends in no error ends mounted: whatever its probes show, the
plan settles mounted or in an error. -/
theorem run_state_of_desired {unitId : String} {facts : Option ConnectionFacts}
    {policy : Option MountPolicy} (reason : String) {s : σ} {spec : MountSpec}
    (hd : MountSpec.ofInputs? facts policy = some spec)
    (hne : ∀ c, (m.run unitId facts policy reason s).1.state ≠ .error c) :
    (m.run unitId facts policy reason s).1.state = .mounted := by
  obtain ⟨P, probed, hplan⟩ : ∃ P probed,
      m.planFor (MountSpec.ofInputs? facts policy) policy (m.previous unitId s) s = (P, probed) :=
    ⟨_, _, rfl⟩
  rw [run_state, hplan] at hne ⊢
  have hst : (m.execute P s).1.1 = P.state.settled := by rw [m.execute_of_not_error hne]
  rw [hst] at hne ⊢
  have hsettled : P.state.settled = .mounted ∨ ∃ c, P.state.settled = .error c := by
    unfold planFor at hplan
    split at hplan
    · cases hplan
      rw [hd]
      exact plan_settled_of_some spec _ _
    · cases hplan
      exact .inr ⟨_, rfl⟩
  rcases hsettled with h | ⟨c, h⟩
  · exact h
  · exact absurd h (hne c)

/-- A run of the plan for the host's mounts that ends mounted ran every action, so on a host
whose mounts form a map it leaves on the target a mount that satisfies the desired one. -/
theorem execute_satisfied_of_mounted (hm : m.MapHost mounts) {desired : Option MountSpec}
    {t q : Option String} (hp : Probes desired t q) {s : σ}
    (hmounted : (m.execute ((mounts s).planAt desired t q) s).1.1 = .mounted) :
    ∃ spec, desired = some spec ∧ t = some spec.target ∧
      spec.satisfiedBy
        ((mounts (m.execute ((mounts s).planAt desired t q) s).2).observe spec.target) = true := by
  set P := (mounts s).planAt desired t q
  have hrun := m.execute_of_not_error (p := P) (s := s) (by simp [hmounted])
  obtain ⟨k, hk, hprog, -⟩ := m.executeFrom_progress hm hp P.state P.actions 0 s rfl
  have hk : k = P.actions.length := by
    have h := congrArg Prod.snd hrun
    simp only [execute] at h
    omega
  subst hk
  exact Progress.satisfied_of_settled hp hprog (by rw [← hmounted, hrun])

theorem managed_snd (desired : Option MountSpec) (previous : Option UnitRecord) (acted : Bool)
    (observed stale : Option Observation) (s : σ) :
    (m.managed desired previous acted (some (observed, stale)) s).2 =
      observed.map (m.reobserve acted · s) :=
  rfl

/-- The record a pass hands to the store: the unit's own, at the generation after the one stored
once the actions ran, with the failure the pass ends with, the fingerprint of the desired mount,
and what it sees at its target at the end. -/
theorem run_record_of_planFor {unitId : String} {facts : Option ConnectionFacts}
    {policy : Option MountPolicy} (reason : String) {s : σ} {p : Plan}
    {probed : Option (Option Observation × Option Observation)}
    (hplan : m.planFor (MountSpec.ofInputs? facts policy) policy (m.previous unitId s) s =
      (p, probed)) :
    ∃ r : UnitRecord,
      (m.run unitId facts policy reason s).1.record =
        ((m.publish r (m.execute p s).2).1.map fun _ => r).toOption ∧
      (m.run unitId facts policy reason s).2 = (m.publish r (m.execute p s).2).2 ∧
      r.unitId = unitId ∧
      r.generation = ((m.previous unitId (m.execute p s).2).map (·.generation)).getD 0 + 1 ∧
      (r.lastError = none ↔ ∀ c, (m.execute p s).1.1 ≠ .error c) ∧
      r.specHash = (MountSpec.ofInputs? facts policy).map MountSpec.fingerprint ∧
      r.observed = (m.managed (MountSpec.ofInputs? facts policy) (m.previous unitId s)
        (!p.actions.isEmpty) probed (m.execute p s).2).2 := by
  simp only [run, hplan, record_eq]
  refine ⟨_, rfl, rfl, rfl, rfl, ?_, rfl, rfl⟩
  rcases (m.execute p s).1.1 <;> simp

/-- A pass's report and the host after it: the pass published a record, the store gives it
back for the unit, and it is converged exactly when the pass ended mounted. -/
def RecordAgrees (unitId : String) (r : Report) (s' : σ) : Prop :=
  ∃ rec, r.record = some rec ∧ m.readRecord unitId s' = .ok (some rec) ∧
    (rec.isConverged = true ↔ r.state = .mounted)

section Readable

variable (hm : m.MapHost mounts) (hread : ∀ p s, ∃ o, m.observe p s = .ok o)
include hm hread

/-- Probing the target again once the actions ran, on a host whose mounts form a map, reads a
mount that shows there. -/
theorem reobserve_of_mounted {T : MountMap} {acted : Bool} {sx : σ}
    (hsx : acted = false → mounts sx = T) {x : String} (h : ((mounts sx).observe x).mounted = true) :
    m.reobserve acted (T.observe x) sx = (mounts sx).observe x := by
  rw [m.reobserve_after hm hread hsx]
  apply (mounts sx).observe_eq_of_mounted _ h
  split
  · rw [Path.same_comm]
    exact T.observe_coherent.mountpoint_same x
  · exact Path.same_refl x

theorem run_record_converged (unitId : String) (facts : Option ConnectionFacts)
    (policy : Option MountPolicy) (reason : String) (s : σ) :
    m.RecordAgrees unitId (m.run unitId facts policy reason s).1
      (m.run unitId facts policy reason s).2 := by
  set desired := MountSpec.ofInputs? facts policy
  set previous := m.previous unitId s
  set t := target desired policy previous
  set q := stalePath t previous
  set T := mounts s
  set P := T.planAt desired t q
  set acted := !P.actions.isEmpty
  set sx := (m.execute P s).2
  have hp : Probes desired t q := probes_of_pass desired policy previous
  have hplan : m.planFor desired policy previous s = (P, some (t.map T.observe, q.map T.observe)) :=
    m.planFor_of_readable hm hread desired policy previous s
  obtain ⟨r, hrec, hfin, hid, -, herr, hhash, hobs⟩ := m.run_record_of_planFor reason hplan
  have hstate : (m.run unitId facts policy reason s).1.state = (m.execute P s).1.1 := by
    rw [run_state, hplan]
  have hpub : (m.publish r sx).1 = .ok () := hm.publish_ok r sx
  refine ⟨r, by rw [hrec, hpub]; rfl, by rw [hfin, ← hid]; exact hm.read_published r sx, ?_⟩
  constructor
  · intro hconv
    simp only [UnitRecord.isConverged, Bool.and_eq_true, Option.isNone_iff_eq_none] at hconv
    obtain ⟨⟨hnone, hsome⟩, -⟩ := hconv
    obtain ⟨spec, hspec⟩ : ∃ spec, desired = some spec := by
      rw [hhash, Option.isSome_map] at hsome
      exact Option.isSome_iff_exists.1 hsome
    apply m.run_state_of_desired reason hspec
    rw [hstate]
    exact herr.1 hnone
  · -- Ending mounted, the pass ran every action; the mounts it leaves show the desired mount on
    -- the target, which the second probe reads.
    intro hmounted
    rw [hstate] at hmounted
    obtain ⟨spec, hspec, ht, hsat⟩ := m.execute_satisfied_of_mounted hm hp hmounted
    have hmo : ((mounts sx).observe spec.target).mounted = true :=
      MountMap.mounted_of_isCeph (MountMap.isCeph_of_satisfiedBy hsat)
    have hsx : acted = false → mounts sx = T := fun h => by
      show mounts (m.execute P s).2 = mounts s
      rw [m.execute_of_actions_nil (by simpa [acted] using h)]
    have hseen : r.observed = some (m.reobserve acted (T.observe spec.target) sx) := by
      rw [hobs, managed_snd, ht]
      rfl
    rw [m.reobserve_of_mounted hm hread hsx hmo] at hseen
    have hd : MountSpec.ofInputs? facts policy = some spec := hspec
    simp [UnitRecord.isConverged, herr.2 (by simp [hmounted]), hhash, hd, hseen, hmo]

end Readable

end Machine

variable {σ : Type} {m : Machine σ} {mounts : σ → MountMap}

/-- On every host whose mounts form a map and whose probe never fails, whatever its mounts, the
unit's previous record and the inputs, a reconcile pass and a teardown each publish a record that
the store gives back for the unit, converged exactly when the pass ends mounted. -/
theorem published_record_converged_iff_mounted (hm : m.MapHost mounts)
    (hread : ∀ p s, ∃ o, m.observe p s = .ok o) (unitId : String)
    (facts : Option ConnectionFacts) (policy : Option MountPolicy) (s : σ) :
    m.RecordAgrees unitId (m.reconcile unitId facts policy s).1
        (m.reconcile unitId facts policy s).2 ∧
      m.RecordAgrees unitId (m.teardown unitId policy s).1.1 (m.teardown unitId policy s).2 :=
  ⟨m.run_record_converged hm hread unitId facts policy _ s,
    m.run_record_converged hm hread unitId none policy _ s⟩

/-- The unit moving to `/moved`, where the share is mounted already, while the unmount of its
stale `/data` fails: the pass ends in that failure and its record is not converged. -/
theorem published_record_converged_iff_mounted_busyStale :
    FakeHost.machine.MapHost FakeHost.table ∧
      (∀ p s, ∃ o, FakeHost.machine.observe p s = .ok o) ∧
      FakeHost.machine.RecordAgrees "app/0"
          (FakeHost.machine.reconcile "app/0" (some FakeHost.shareFacts)
            (some { mountpoint := "/moved", options := {} }) FakeHost.busyStale).1
          (FakeHost.machine.reconcile "app/0" (some FakeHost.shareFacts)
            (some { mountpoint := "/moved", options := {} }) FakeHost.busyStale).2 ∧
        FakeHost.machine.RecordAgrees "app/0"
          (FakeHost.machine.teardown "app/0" (some { mountpoint := "/moved", options := {} })
            FakeHost.busyStale).1.1
          (FakeHost.machine.teardown "app/0" (some { mountpoint := "/moved", options := {} })
            FakeHost.busyStale).2 :=
  ⟨FakeHost.machine_mapHost, fun _ _ => ⟨_, rfl⟩,
    published_record_converged_iff_mounted FakeHost.machine_mapHost (fun _ _ => ⟨_, rfl⟩) "app/0"
      (some FakeHost.shareFacts) (some { mountpoint := "/moved", options := {} })
      FakeHost.busyStale⟩

end CephMount
