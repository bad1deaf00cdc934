import CephMount.Proofs.Resumption

/-!
The status a unit shows, which mounts, unmounts and publishes nothing, against what a reconcile
pass reported (`status_after_reconcile`).
-/
namespace CephMount

theorem plan_cases (desired : Option MountSpec) (observed stale : Option Observation) :
    (desired = none ∧ plan desired observed stale =
        if (staleActions stale ++ targetActions none observed).isEmpty then ⟨.idle, []⟩
        else ⟨.unmounting, staleActions stale ++ targetActions none observed⟩) ∨
      (∃ spec, desired = some spec ∧ (∀ o, observed = some o → o.mounted = false) ∧
        plan desired observed stale = ⟨.mounting, staleActions stale ++ [.mount spec]⟩) ∨
      (∃ spec o, desired = some spec ∧ observed = some o ∧ o.mounted = true ∧ o.isCeph = false ∧
        plan desired observed stale = ⟨.error ("mountpoint occupied by " ++ o.fstype), []⟩) ∨
      (∃ spec o, desired = some spec ∧ observed = some o ∧ o.isCeph = true ∧
        spec.satisfiedBy o = true ∧ plan desired observed stale = ⟨.mounted, staleActions stale⟩) ∨
      (∃ spec o, desired = some spec ∧ observed = some o ∧ o.isCeph = true ∧
        spec.satisfiedBy o = false ∧
        plan desired observed stale =
          ⟨.needsRemount, staleActions stale ++ [.unmount spec.target, .mount spec]⟩) := by
  rcases desired with _ | spec
  · exact .inl ⟨rfl, by rcases stale with _ | st <;> rcases observed with _ | o <;> rfl⟩
  rcases observed with _ | o
  · exact .inr (.inl ⟨spec, rfl, by simp, by rcases stale with _ | st <;> rfl⟩)
  by_cases hm : o.mounted = true
  · by_cases hc : o.isCeph = true
    · by_cases hs : spec.satisfiedBy o = true
      · refine .inr (.inr (.inr (.inl ⟨spec, o, rfl, rfl, hc, hs, ?_⟩)))
        rcases stale with _ | st <;> simp [plan, staleActions, hm, hc, hs]
      · refine .inr (.inr (.inr (.inr ⟨spec, o, rfl, rfl, hc, by simpa using hs, ?_⟩)))
        rcases stale with _ | st <;> simp [plan, staleActions, hm, hc, hs]
    · exact .inr (.inr (.inl ⟨spec, o, rfl, rfl, hm, by simpa using hc,
        by simp [plan, hm, hc]⟩))
  · refine .inr (.inl ⟨spec, rfl, by simpa using hm, ?_⟩)
    rcases stale with _ | st <;> simp [plan, staleActions, hm]

variable {desired : Option MountSpec} {observed stale : Option Observation}

theorem plan_actions_of_error {c : String} (h : (plan desired observed stale).state = .error c) :
    (plan desired observed stale).actions = [] := by
  rcases plan_cases desired observed stale with ⟨-, hp⟩ | ⟨_, -, -, hp⟩ | ⟨_, _, -, -, -, -, hp⟩ |
    ⟨_, _, -, -, -, -, hp⟩ | ⟨_, _, -, -, -, -, hp⟩ <;> rw [hp] at h ⊢
  · split at h <;> simp at h
  all_goals simp_all

theorem plan_actions_of_mounted (h : (plan desired observed stale).state = .mounted) :
    (plan desired observed stale).actions = staleActions stale := by
  rcases plan_cases desired observed stale with ⟨-, hp⟩ | ⟨_, -, -, hp⟩ | ⟨_, _, -, -, -, -, hp⟩ |
    ⟨_, _, -, -, -, -, hp⟩ | ⟨_, _, -, -, -, -, hp⟩ <;> rw [hp] at h ⊢
  · split at h <;> simp at h
  all_goals simp_all

theorem plan_settled_of_actions_nil (h : (plan desired observed stale).actions = []) :
    (plan desired observed stale).state.settled = (plan desired observed stale).state := by
  rcases plan_cases desired observed stale with ⟨-, hp⟩ | ⟨_, -, -, hp⟩ | ⟨_, _, -, -, -, -, hp⟩ |
    ⟨_, _, -, -, -, -, hp⟩ | ⟨_, _, -, -, -, -, hp⟩ <;> rw [hp] at h ⊢
  · split at h <;> simp_all [UnitState.settled]
  all_goals simp_all [UnitState.settled]

theorem plan_getLast_mount (hs : (plan desired observed stale).state.settled = .mounted)
    (hne : (plan desired observed stale).state ≠ .mounted) :
    ∃ spec, (plan desired observed stale).actions.getLast? = some (.mount spec) := by
  rcases plan_cases desired observed stale with ⟨-, hp⟩ | ⟨spec, -, -, hp⟩ | ⟨_, _, -, -, -, -, hp⟩ |
    ⟨_, _, -, -, -, -, hp⟩ | ⟨spec, _, -, -, -, -, hp⟩ <;> rw [hp] at hs hne ⊢
  · split at hs <;> simp [UnitState.settled] at hs
  · exact ⟨spec, by simp⟩
  · simp [UnitState.settled] at hs
  · simp at hne
  · exact ⟨spec, by simp⟩

theorem Progress.eq_of_zero {desired : Option MountSpec} {t q : Option String} {T T' : MountMap}
    (h : Progress desired t q T 0 T') : T' = T := by
  cases h
  rfl

namespace Machine

variable {σ : Type} (m : Machine σ) {mounts : σ → MountMap}

/-- A run of actions either succeeds throughout and settles in the planned state, or stops at a
failure with the count of actions done before it. -/
theorem executeFrom_cases (planned : UnitState) (as : List Action) (done : Nat) (s : σ) :
    (m.executeFrom planned as done s).1 = (planned.settled, done + as.length) ∨
      ∃ c k, k < as.length ∧ (m.executeFrom planned as done s).1 = (.error c, done + k) := by
  induction as generalizing done s with
  | nil => exact .inl rfl
  | cons a rest ih =>
    rcases hperf : m.perform a s with ⟨_ | ⟨⟩, s'⟩
    · next e => exact .inr ⟨e.cause, 0, by simp, by simp [executeFrom, hperf]⟩
    · rcases ih (done + 1) s' with h | ⟨c, k, hk, h⟩
      · refine .inl ?_
        simp only [executeFrom, hperf, h, List.length_cons, Prod.mk.injEq, true_and]
        omega
      · refine .inr ⟨c, k + 1, by simpa using hk, ?_⟩
        simp only [executeFrom, hperf, h, Prod.mk.injEq, true_and]
        omega

theorem run_planned (unitId : String) (facts : Option ConnectionFacts) (policy : Option MountPolicy)
    (reason : String) (s : σ) :
    (m.run unitId facts policy reason s).1.planned =
      (m.planFor (MountSpec.ofInputs? facts policy) policy (m.previous unitId s) s).1.state :=
  rfl

theorem previous_run_lastError (hm : m.MapHost mounts) (unitId : String) (facts : Option ConnectionFacts)
    (policy : Option MountPolicy) (reason : String) (s : σ) :
    (m.previous unitId (m.run unitId facts policy reason s).2).bind (·.lastError) =
      match (m.run unitId facts policy reason s).1.state with
      | .error cause => some cause
      | _ => none := by
  obtain ⟨r, hrun, hr⟩ : ∃ r : UnitRecord, (m.run unitId facts policy reason s).2 =
      (m.record unitId r (m.execute (m.planFor (MountSpec.ofInputs? facts policy) policy
        (m.previous unitId s) s).1 s).2).2 ∧
      r.lastError = match (m.run unitId facts policy reason s).1.state with
        | .error cause => some cause
        | _ => none := ⟨_, rfl, rfl⟩
  rw [hrun, (m.record_published _ hm r).1, Option.bind_some]
  exact hr

section Readable

variable (hm : m.MapHost mounts) (hread : ∀ p s, ∃ o, m.observe p s = .ok o)
include hm hread

/-- After a pass, on a host whose mounts form a map and whose probe and publish succeed, the
status shows what the pass reported, except that a pass that planned its target mounted shows
it mounted, also when it failed to unmount its stale mountpoint. -/
theorem status_run (unitId : String) (facts : Option ConnectionFacts) (policy : Option MountPolicy)
    (reason : String) (s : σ) :
    m.status unitId facts policy (m.run unitId facts policy reason s).2 =
      if (m.run unitId facts policy reason s).1.planned = .mounted then
        .mounted (((MountSpec.ofInputs? facts policy).map (·.target)).getD "")
      else statusOf (MountSpec.ofInputs? facts policy) (Reason.ofInputs facts policy)
        (m.run unitId facts policy reason s).1.state := by
  obtain ⟨rec, T', hprev, hprog, hplan'⟩ := m.run_next_plan hm hread unitId reason s rfl rfl rfl
  have herr := m.previous_run_lastError hm unitId facts policy reason s
  rw [hprev, Option.bind_some] at herr
  -- The status reads the plan the next pass would make, and the failure the record keeps.
  simp only [status, hprev, Option.bind_some]
  rw [hplan']
  set desired := MountSpec.ofInputs? facts policy
  set previous := m.previous unitId s
  set t := target desired policy previous
  set q := stalePath t previous
  set T := mounts s
  set P := T.planAt desired t q
  set r := (m.run unitId facts policy reason s).1
  set P' := T'.planAt desired t q
  have hp : Probes desired t q := probes_of_pass desired policy previous
  have hplan : m.planFor desired policy previous s = (P, some (t.map T.observe, q.map T.observe)) :=
    m.planFor_of_readable hm hread desired policy previous s
  have hplanned : r.planned = P.state := by
    rw [run_planned, hplan]
  have hstate : r.state = (m.execute P s).1.1 := by
    rw [run_state, hplan]
  have hexec : r.executed = (m.execute P s).1.2 := by
    rw [run_executed, hplan]
  rw [herr, hplanned]
  rcases m.executeFrom_cases P.state P.actions 0 s with hdone | ⟨c, k, hk, hfail⟩
  · have hk : r.executed = P.actions.length := by
      rw [hexec, execute, hdone, Nat.zero_add]
    have hnil : P'.actions = [] := by
      rw [hprog.actions hp, hk, List.drop_length]
    have hst : P'.state = r.state := by
      have hfix : P'.state.settled = P'.state := plan_settled_of_actions_nil hnil
      rw [← hfix, hprog.settled hp, hstate, execute, hdone]
    rw [hst, hstate, execute, hdone]
    by_cases hpm : P.state = .mounted
    · simp [hpm, UnitState.settled]
    · rw [if_neg hpm]
      rcases P.state with _ | _ | _ | _ | _ | cause <;> simp_all [UnitState.settled, statusOf]
  · -- The pass stopped at a failure, which its record keeps; actions are left, so the next
    -- plan is no error, and it is mounted exactly when the pass planned its target mounted.
    have hk' : r.executed = k := by
      rw [hexec, execute, hfail, Nat.zero_add]
    have hrs : r.state = .error c := by
      rw [hstate, execute, hfail]
    have hrest : P'.actions = P.actions.drop k := by
      rw [hprog.actions hp, hk']
    have hne : P'.actions ≠ [] := by
      rw [hrest]
      simpa using hk
    have hiff : P'.state = .mounted ↔ P.state = .mounted := by
      constructor
      · intro hm'
        by_contra hpm
        have hsettled : P.state.settled = .mounted := by
          rw [← hprog.settled hp]
          show P'.state.settled = _
          rw [hm']
          rfl
        obtain ⟨spec, hlast⟩ := plan_getLast_mount hsettled hpm
        have hlast' : P'.actions.getLast? = some (.mount spec) := by
          rw [hrest, List.getLast?_drop, if_neg (by omega)]
          exact hlast
        have hmem : Action.mount spec ∈ P'.actions := List.mem_of_getLast? hlast'
        have hstale : P'.actions = staleActions (q.map T'.observe) := plan_actions_of_mounted hm'
        rw [hstale] at hmem
        rcases staleActions_cases (q.map T'.observe) with h | ⟨o, -, -, h⟩ <;> simp [h] at hmem
      · intro hpm
        have hlen : P.actions.length ≤ 1 := by
          have hstale : P.actions = staleActions (q.map T.observe) := plan_actions_of_mounted hpm
          rw [hstale]
          rcases staleActions_cases (q.map T.observe) with h | ⟨o, -, -, h⟩ <;> simp [h]
        have hk0 : r.executed = 0 := by omega
        rw [hk0] at hprog
        have hT : T' = T := hprog.eq_of_zero
        show (T'.planAt desired t q).state = _
        rw [hT]
        exact hpm
    rw [hrs]
    by_cases hpm : P.state = .mounted
    · simp [hpm, hiff.2 hpm]
    · rw [if_neg hpm]
      have hnm : P'.state ≠ .mounted := mt hiff.1 hpm
      rcases hs' : P'.state with _ | _ | _ | _ | _ | cause
      all_goals first
        | rfl
        | exact absurd hs' hnm
        | exact absurd (plan_actions_of_error hs') hne

end Readable

end Machine

variable {σ : Type} {m : Machine σ} {mounts : σ → MountMap}

/-- The status after a reconcile pass is the status the pass reported, except that it shows the
target mounted whenever the pass planned it mounted, whatever the host's mounts, the unit's
previous record and the inputs. The host is one whose mount table shows what the mount and
unmount calls did (`MapHost`: the kernel's table, each call changing it as `MountMap.After`
says, a failed call changing nothing, publishing stored and read back) and can be read; a
status that cannot read the table reports that failure, whatever the pass reported. -/
theorem status_after_reconcile (hm : m.MapHost mounts) (hread : ∀ p s, ∃ o, m.observe p s = .ok o)
    (unitId : String) (facts : Option ConnectionFacts) (policy : Option MountPolicy) (s : σ) :
    m.status unitId facts policy (m.reconcile unitId facts policy s).2 =
      if (m.reconcile unitId facts policy s).1.planned = .mounted then
        .mounted (((MountSpec.ofInputs? facts policy).map (·.target)).getD "")
      else (m.reconcile unitId facts policy s).1.status :=
  m.status_run hm hread unitId facts policy _ s

namespace FakeHost

/-- The share `10.0.0.1:6789:/export/data` of filesystem `abc`, for client `admin`. -/
def shareFacts : ConnectionFacts :=
  { monitors := [{ host := "10.0.0.1", port := 6789 }], fsId := "abc", authKey := "AQBsecret==",
    exportPath := "/export/data", authUser := "admin", fsName := none }

/-- A host on which unit `app/0`, moving to `/moved`, finds the share already mounted there, while
its record names `/data`, which still holds a CephFS mount whose unmount fails as busy. -/
def busyStale : FakeHost :=
  { table := (MountMap.empty.put
        ⟨{ mountpoint := "/data", mounted := true, source := "10.0.0.1:6789:/export/data",
           fstype := "ceph", options := ["rw"] }, true⟩).put
      ⟨{ mountpoint := "/moved", mounted := true, source := "10.0.0.1:6789:/export/data",
         fstype := "ceph", options := ["rw"] }, false⟩,
    records := [{ unitId := "app/0", mountpoint := some "/data", generation := 1 }],
    unmountFailures := ["umount: /data: target is busy."] }

end FakeHost

/-- The unit moving to `/moved` on a host where `/moved` already holds the share and the stale
`/data` cannot be unmounted. -/
theorem status_after_reconcile_busyStale :
    FakeHost.machine.MapHost FakeHost.table ∧
      (∀ p s, ∃ o, FakeHost.machine.observe p s = .ok o) ∧
      FakeHost.machine.status "app/0" (some FakeHost.shareFacts)
          (some { mountpoint := "/moved", options := {} })
          (FakeHost.machine.reconcile "app/0" (some FakeHost.shareFacts)
            (some { mountpoint := "/moved", options := {} }) FakeHost.busyStale).2 =
        if (FakeHost.machine.reconcile "app/0" (some FakeHost.shareFacts)
            (some { mountpoint := "/moved", options := {} }) FakeHost.busyStale).1.planned =
            .mounted then
          .mounted (((MountSpec.ofInputs? (some FakeHost.shareFacts)
            (some { mountpoint := "/moved", options := {} })).map (·.target)).getD "")
        else (FakeHost.machine.reconcile "app/0" (some FakeHost.shareFacts)
          (some { mountpoint := "/moved", options := {} }) FakeHost.busyStale).1.status :=
  ⟨FakeHost.machine_mapHost, fun _ _ => ⟨_, rfl⟩,
    status_after_reconcile FakeHost.machine_mapHost (fun _ _ => ⟨_, rfl⟩) "app/0"
      (some FakeHost.shareFacts) (some { mountpoint := "/moved", options := {} })
      FakeHost.busyStale⟩

/-- The status need not be what the pass reported: the pass that fails to unmount the stale `/data`
reports the failure, with its record published, and the status after it shows `/moved` mounted. -/
theorem status_after_failed_stale_unmount :
    (FakeHost.machine.reconcile "app/0" (some FakeHost.shareFacts)
        (some { mountpoint := "/moved", options := {} }) FakeHost.busyStale).1.status =
        .error "umount: /data: target is busy." ∧
      (FakeHost.machine.reconcile "app/0" (some FakeHost.shareFacts)
        (some { mountpoint := "/moved", options := {} }) FakeHost.busyStale).1.record.isSome ∧
      FakeHost.machine.status "app/0" (some FakeHost.shareFacts)
          (some { mountpoint := "/moved", options := {} })
          (FakeHost.machine.reconcile "app/0" (some FakeHost.shareFacts)
            (some { mountpoint := "/moved", options := {} }) FakeHost.busyStale).2 =
        .mounted "/moved" := by
  decide

end CephMount
