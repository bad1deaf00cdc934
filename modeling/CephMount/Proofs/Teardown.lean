import CephMount.Proofs.Ownership
import CephMount.Proofs.ProbeFailure

/-!
Stopping a unit: a teardown whose unmounts succeed leaves no CephFS mount on the configured or
the recorded mountpoint, and lets the helpers go exactly when none is left (`teardown_tornDown`).
-/
namespace CephMount

namespace MountMap

/-- The CephFS mounts of a map, as a listing of the host's mounts gives them. -/
def cephEntries (T : MountMap) : List MountEntry :=
  (T.mounts.filter (·.obs.isCeph)).map fun h =>
    ⟨h.obs.source, h.obs.mountpoint, h.obs.fstype, h.obs.options⟩

theorem cephEntries_eq_nil_iff (T : MountMap) :
    T.cephEntries = [] ↔ ∀ h ∈ T.mounts, h.obs.isCeph = false := by
  simp [cephEntries, List.filter_eq_nil_iff]

def CephFreeAt (T : MountMap) (p : String) : Prop :=
  ∀ h ∈ T.mounts, Path.same h.obs.mountpoint p = true → h.obs.isCeph = false

theorem cephFreeAt_iff (T : MountMap) (p : String) :
    T.CephFreeAt p ↔ (T.observe p).isCeph = false := by
  constructor
  · intro h
    rcases hp : T.at? p with _ | hm
    · simp [observe_of_at?_none hp, Observation.unmounted, Observation.isCeph]
    · rw [observe_of_at? hp]
      exact h hm (mem_of_at? hp) (same_of_at? hp)
  · intro h hm hmem hsame
    rwa [observe_of_at? (at?_of_mem hmem hsame)] at h

end MountMap

/-- Without a desired mount, a plan has no actions exactly when neither probe shows a CephFS
mount. -/
theorem plan_none_actions_eq_nil {observed stale : Option Observation} :
    (plan none observed stale).actions = [] ↔
      (∀ o ∈ observed, o.isCeph = false) ∧ ∀ o ∈ stale, o.isCeph = false := by
  rw [plan_actions]
  rcases observed with _ | o <;> rcases stale with _ | st <;>
    simp [occupied, staleActions, targetActions, and_comm]

theorem plan_none_settled (observed stale : Option Observation) :
    (plan none observed stale).state.settled = .idle := by
  simpa using plan_settled none observed stale rfl

/-- Without a desired mount, a pass whose probes show no CephFS mount at its end names no
mountpoint. -/
theorem managedPath_none {observed stale : Option Observation}
    (hobserved : ∀ o ∈ observed, o.isCeph = false) (hstale : ∀ o ∈ stale, o.isCeph = false) :
    managedPath none observed stale = none := by
  rcases observed with _ | o <;> rcases stale with _ | st <;>
    simp_all [managedPath, Option.filter]

namespace MountMap

/-- A map whose plan without a desired mount has no actions holds no CephFS mount on a path the
same as the target `t`, nor on the stale mountpoint `q`. -/
theorem cephFreeAt_of_planAt_none {T : MountMap} {t q : Option String}
    (hnil : (T.planAt none t q).actions = []) {p : String}
    (hp : (∃ y, t = some y ∧ Path.same p y = true) ∨ q = some p) : T.CephFreeAt p := by
  obtain ⟨hobs, hstale⟩ := plan_none_actions_eq_nil.1 hnil
  rw [cephFreeAt_iff]
  rcases hp with ⟨y, rfl, hsame⟩ | rfl
  · rw [T.isCeph_observe_congr hsame]
    exact hobs _ rfl
  · exact hstale _ rfl

end MountMap

namespace Machine

variable {σ : Type} (m : Machine σ) {mounts : σ → MountMap}

/-- The machine lists the CephFS mounts of its map: the read succeeds and gives one entry for
each, in some order. -/
def ListsCeph (mounts : σ → MountMap) : Prop :=
  ∀ s, ∃ es, m.cephMounts s = .ok es ∧ es.Perm (mounts s).cephEntries

theorem teardown_probes_recorded {previous : Option UnitRecord} {p : String}
    (hp : previous.bind (·.mountpoint) = some p) (policy : Option MountPolicy) :
    (∃ y, target none policy previous = some y ∧ Path.same p y = true) ∨
      stalePath (target none policy previous) previous = some p := by
  rcases MountMap.stalePath_cases hp (target none policy previous) with h | ⟨-, y, hy, hsame⟩
  · exact .inr h
  · exact .inl ⟨y, hy, hsame⟩

theorem run_status (unitId : String) (facts : Option ConnectionFacts)
    (policy : Option MountPolicy) (reason : String) (s : σ) :
    (m.run unitId facts policy reason s).1.status =
      statusOf (MountSpec.ofInputs? facts policy) reason (m.run unitId facts policy reason s).1.state :=
  rfl

/-- On a host whose store takes every record, a pass reports the record it published: the
mountpoint it manages and the name of the state it reached. -/
theorem run_report_record (hm : m.MapHost mounts) (unitId : String)
    (facts : Option ConnectionFacts) (policy : Option MountPolicy) (reason : String) (s : σ)
    {p : Plan} {probed : Option (Option Observation × Option Observation)}
    (hplan : m.planFor (MountSpec.ofInputs? facts policy) policy (m.previous unitId s) s =
      (p, probed)) :
    ∃ rec, (m.run unitId facts policy reason s).1.record = some rec ∧
      rec.mountpoint = (m.managed (MountSpec.ofInputs? facts policy) (m.previous unitId s)
        (!p.actions.isEmpty) probed (m.execute p s).2).1 ∧
      rec.state = (m.execute p s).1.1.name := by
  simp only [run, hplan, record_eq, hm.publish_ok]
  exact ⟨_, rfl, rfl, rfl⟩

theorem teardown_report (unitId : String) (policy : Option MountPolicy) (s : σ) :
    (m.teardown unitId policy s).1.1 = (m.run unitId none policy Reason.stopping s).1 :=
  rfl

theorem teardown_state (unitId : String) (policy : Option MountPolicy) (s : σ) :
    (m.teardown unitId policy s).2 = (m.run unitId none policy Reason.stopping s).2 :=
  rfl

/-- The helpers may go exactly when the read of the host's CephFS mounts after the pass succeeds
and lists none. -/
theorem teardown_removable_iff (unitId : String) (policy : Option MountPolicy) (s : σ) :
    (m.teardown unitId policy s).1.2 = true ↔ m.cephMounts (m.teardown unitId policy s).2 = .ok [] := by
  rw [teardown_state]
  unfold teardown
  dsimp only
  split <;> simp_all

/-- On a host that lists its CephFS mounts, the helpers may go after a teardown exactly when no
CephFS mount is left on the host. -/
theorem teardown_removable (hlist : m.ListsCeph mounts) (unitId : String)
    (policy : Option MountPolicy) (s : σ) :
    (m.teardown unitId policy s).1.2 = true ↔
      ∀ h ∈ (mounts (m.teardown unitId policy s).2).mounts, h.obs.isCeph = false := by
  obtain ⟨es, hes, hperm⟩ := hlist (m.teardown unitId policy s).2
  have hnil : es = [] ↔ (mounts (m.teardown unitId policy s).2).cephEntries = [] :=
    ⟨fun h => (h ▸ hperm).nil_eq.symm, fun h => (h ▸ hperm).eq_nil⟩
  rw [m.teardown_removable_iff, hes, ← MountMap.cephEntries_eq_nil_iff, ← hnil, Except.ok.injEq]

end Machine

/-- What a teardown that ran all its actions leaves behind, from the unit's previous record
`previous`: its report `r`, whether the helpers may go, and the host `s'` after it. -/
structure TornDown {σ : Type} (mounts : σ → MountMap) (policy : Option MountPolicy)
    (previous : Option UnitRecord) (r : Report) (removable : Bool) (s' : σ) : Prop where
  /-- No CephFS mount is left on the configured mountpoint. -/
  configured : ∀ p ∈ policy.map (·.mountpoint), (mounts s').CephFreeAt p
  /-- Nor on the mountpoint the previous record names. -/
  recorded : ∀ p ∈ previous.bind (·.mountpoint), (mounts s').CephFreeAt p
  /-- The record published names no mountpoint and the state idle. -/
  record : ∃ rec, r.record = some rec ∧ rec.mountpoint = none ∧ rec.state = "idle"
  status : r.status = .idle Reason.stopping
  /-- The helpers may go exactly when no CephFS mount is left on the host. -/
  removable : removable = true ↔ ∀ h ∈ (mounts s').mounts, h.obs.isCeph = false

namespace Machine

variable {σ : Type} (m : Machine σ) {mounts : σ → MountMap}

section Readable

variable (hm : m.MapHost mounts) (hread : ∀ p s, ∃ o, m.observe p s = .ok o)
include hm hread

theorem reobserve_execute (P : Plan) (s : σ) (x : String) :
    ∃ y, Path.same y x = true ∧
      m.reobserve (!P.actions.isEmpty) ((mounts s).observe x) (m.execute P s).2 =
        (mounts (m.execute P s).2).observe y := by
  have hsx : (!P.actions.isEmpty) = false → mounts (m.execute P s).2 = mounts s := by
    intro h
    have hnil : P.actions = [] := by simpa using h
    simp only [execute, hnil, executeFrom]
  refine ⟨if !P.actions.isEmpty then ((mounts s).observe x).mountpoint else x, ?_,
    m.reobserve_after hm hread hsx x⟩
  split
  · exact (mounts s).observe_coherent.mountpoint_same x
  · exact Path.same_refl x

/-- A pass without a desired mount whose actions left no CephFS mount where it probed names no
mountpoint in its record. -/
theorem managed_none_of_cleared (previous : Option UnitRecord) (P : Plan) (s : σ)
    {t q : Option String} (hnil : ((mounts (m.execute P s).2).planAt none t q).actions = []) :
    (m.managed none previous (!P.actions.isEmpty)
      (some (t.map (mounts s).observe, q.map (mounts s).observe)) (m.execute P s).2).1 = none := by
  obtain ⟨hobs, hstale⟩ := plan_none_actions_eq_nil.1 hnil
  have hend : ∀ u : Option String,
      (∀ o ∈ u.map (mounts (m.execute P s).2).observe, o.isCeph = false) →
      ∀ o ∈ (u.map (mounts s).observe).map (m.reobserve (!P.actions.isEmpty) · (m.execute P s).2),
        o.isCeph = false := by
    rintro (_ | x) hu o ho
    · simp at ho
    · simp only [Option.map_some, Option.mem_def, Option.some.injEq] at ho
      subst ho
      obtain ⟨y, hyx, hy⟩ := m.reobserve_execute hm hread P s x
      rw [hy, (mounts _).isCeph_observe_congr hyx]
      exact hu _ rfl
  rw [managed_fst]
  exact managedPath_none (hend t hobs) (hend q hstale)

/-- A teardown whose actions all succeeded leaves no CephFS mount where it looked, publishes a
record naming no mountpoint and the state idle, shows the unit idle as stopping, and lets the
helpers go exactly when no CephFS mount is left on a host that lists them. -/
theorem teardown_tornDown (hlist : m.ListsCeph mounts) (unitId : String)
    (policy : Option MountPolicy) (s : σ)
    (hall : (m.teardown unitId policy s).1.1.executed =
      (m.teardown unitId policy s).1.1.actions.length) :
    TornDown mounts policy (m.previous unitId s) (m.teardown unitId policy s).1.1
      (m.teardown unitId policy s).1.2 (m.teardown unitId policy s).2 := by
  set previous := m.previous unitId s
  set t := target none policy previous
  set q := stalePath t previous
  set T := mounts s
  set P := T.planAt none t q
  have hp : Probes none t q := probes_of_pass none policy previous
  have hplan : m.planFor (MountSpec.ofInputs? none policy) policy previous s =
      (P, some (t.map T.observe, q.map T.observe)) :=
    m.planFor_of_readable hm hread none policy previous s
  -- The plan ran to its end, so the mounts it left plan nothing more.
  obtain ⟨k, hk, hprog, hsettled⟩ := m.executeFrom_progress hm hp P.state P.actions 0 s rfl
  set sx := (m.execute P s).2
  have hprog : Progress none t q T k (mounts sx) := hprog
  have hkall : k = P.actions.length := by
    rw [teardown_report, run_executed, run_actions, hplan] at hall
    exact (Nat.zero_add k).symm.trans (hk.symm.trans hall)
  have hnil : ((mounts sx).planAt none t q).actions = [] := by
    rw [hprog.actions hp, hkall, List.drop_length]
  have hmounts : mounts (m.teardown unitId policy s).2 = mounts sx :=
    (m.run_published unitId none policy Reason.stopping s hm hplan).2
  have hidle : (m.execute P s).1.1 = .idle := (hsettled hkall).trans (plan_none_settled _ _)
  have hstate : (m.teardown unitId policy s).1.1.state = .idle := by
    rw [teardown_report, run_state, hplan]
    exact hidle
  refine ⟨?_, ?_, ?_, ?_, m.teardown_removable hlist unitId policy s⟩
  · intro p hpol
    obtain ⟨pol, rfl, rfl⟩ := Option.map_eq_some_iff.1 hpol
    rw [hmounts]
    exact MountMap.cephFreeAt_of_planAt_none hnil (.inl ⟨_, rfl, Path.same_refl _⟩)
  · intro p hrec
    rw [hmounts]
    exact MountMap.cephFreeAt_of_planAt_none hnil (teardown_probes_recorded hrec policy)
  · obtain ⟨rec, hrec, hpath, hname⟩ :=
      m.run_report_record hm unitId none policy Reason.stopping s hplan
    refine ⟨rec, hrec, ?_, ?_⟩
    · rw [hpath]
      exact m.managed_none_of_cleared hm hread previous P s hnil
    · rw [hname, hidle]
      rfl
  · rw [teardown_report, run_status, ← teardown_report, hstate]
    rfl

end Readable

end Machine

namespace FakeHost

theorem machine_listsCeph : machine.ListsCeph table :=
  fun _ => ⟨_, rfl, .refl _⟩

end FakeHost

end CephMount
