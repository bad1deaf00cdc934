import CephMount.Proofs.CallLog
import CephMount.Proofs.MountMap
import CephMount.SimHost

/-!
A pass whose probe fails plans and runs nothing, reports the failure, and publishes a record that
keeps the previous one's mountpoint and observation at the next generation
(`run_of_survey_error`).
-/
namespace CephMount

namespace Machine

variable {σ : Type} (m : Machine σ)

/-- A probe of a pass fails with `e`: the target's, or the stale mountpoint's once the target's
succeeded. -/
def ProbeFails (desired : Option MountSpec) (policy : Option MountPolicy)
    (previous : Option UnitRecord) (s : σ) (e : Error) : Prop :=
  (∃ p, target desired policy previous = some p ∧ m.observe p s = .error e) ∨
    ((∀ p, target desired policy previous = some p → ∃ o, m.observe p s = .ok o) ∧
      ∃ q, stalePath (target desired policy previous) previous = some q ∧ m.observe q s = .error e)

/-- The survey fails exactly when one of its probes does, with the first failure. -/
theorem survey_eq_error_iff {desired : Option MountSpec} {policy : Option MountPolicy}
    {previous : Option UnitRecord} {s : σ} {e : Error} :
    m.survey desired policy previous s = .error e ↔ m.ProbeFails desired policy previous s e := by
  unfold survey ProbeFails stalePath
  rcases target desired policy previous with _ | t
  · rcases previous.bind (·.mountpoint) with _ | q
    · simp [pure, Except.pure, bind, Except.bind]
    · rcases hq : m.observe q s with e' | o <;>
        simp [hq, pure, Except.pure, bind, Except.bind, Functor.map, Except.map]
  · rcases ht : m.observe t s with e' | o
    · simp [ht, bind, Except.bind, Functor.map, Except.map]
    · rcases previous.bind (·.mountpoint) with _ | q
      · simp [ht, pure, Except.pure, bind, Except.bind, Functor.map, Except.map]
      · by_cases hsame : Path.same q t = true
        · simp [ht, hsame, pure, Except.pure, bind, Except.bind, Functor.map, Except.map]
        · rcases hq : m.observe q s with e' | o' <;>
            simp [ht, hsame, hq, pure, Except.pure, bind, Except.bind, Functor.map, Except.map]

/-- The record a pass publishes after a failed probe: the previous record's mountpoint,
observation and last action, the failure's cause and the next generation. -/
def failedProbeRecord (unitId : String) (hash : Option String) (previous : Option UnitRecord)
    (cause : String) : UnitRecord :=
  { unitId, mountpoint := previous.bind (·.mountpoint), specHash := hash,
    observed := previous.bind (·.observed), state := "error",
    lastAction := (previous.map (·.lastAction)).getD .none, lastError := some cause,
    generation := (previous.map (·.generation)).getD 0 + 1 }

/-- Publishing a record under a unit stores it with the unit's identifier and the generation
after the previous one, and gives it back when the store took it. -/
theorem record_eq (unitId : String) (r : UnitRecord) (s : σ) :
    m.record unitId r s =
      let r' := { r with unitId, generation := ((m.previous unitId s).map (·.generation)).getD 0 + 1 }
      ((m.publish r' s).1.map fun _ => r', (m.publish r' s).2) := by
  rcases hp : m.publish
      { r with unitId, generation := ((m.previous unitId s).map (·.generation)).getD 0 + 1 } s
    with ⟨_ | ⟨⟩, s'⟩ <;> simp only [record, hp] <;> rfl

theorem managed_none (desired : Option MountSpec) (previous : Option UnitRecord) (acted : Bool)
    (s : σ) :
    m.managed desired previous acted none s =
      (previous.bind (·.mountpoint), previous.bind (·.observed)) := by
  cases previous <;> rfl

/-- A pass whose survey fails plans and runs nothing, reports the failure, and publishes the
record of a failed probe over the unchanged host. -/
theorem run_of_survey_error {unitId : String} {facts : Option ConnectionFacts}
    {policy : Option MountPolicy} (reason : String) {s : σ} {e : Error}
    (h : m.survey (MountSpec.ofInputs? facts policy) policy (m.previous unitId s) s = .error e) :
    let hash := (MountSpec.ofInputs? facts policy).map MountSpec.fingerprint
    let r := failedProbeRecord unitId hash (m.previous unitId s) e.cause
    m.run unitId facts policy reason s =
      ({ unitId, planned := .error e.cause, state := .error e.cause, status := .error e.cause,
         actions := [], executed := 0, record := ((m.publish r s).1.map fun _ => r).toOption,
         divergent := m.divergent unitId hash (m.publish r s).2 }, (m.publish r s).2) := by
  intro hash r
  have hplan : m.planFor (MountSpec.ofInputs? facts policy) policy (m.previous unitId s) s =
      (⟨.error e.cause, []⟩, none) := by
    simp only [planFor, h]
  simp only [run, hplan, execute, executeFrom, managed_none, record_eq]
  rfl

/-- What a pass reports and publishes after one of its probes failed with `e`, from the host `s`
to the host `s'`, having called `calls`. -/
structure AfterProbeFailure (unitId : String) (s : σ) (e : Error) (r : Report) (s' : σ)
    (calls : List (Action × Bool)) : Prop where
  planned : r.planned = .error e.cause
  state : r.state = .error e.cause
  status : r.status = .error e.cause
  /-- No mount or unmount is called. -/
  no_calls : calls = []
  /-- The record published keeps the previous record's mountpoint, observation and last action
  (none of them without a previous record), names the cause and takes the next generation; the
  host is left as the publication leaves it. -/
  published : ∃ rec : UnitRecord, rec.unitId = unitId ∧
    rec.mountpoint = (m.previous unitId s).bind (·.mountpoint) ∧
    rec.observed = (m.previous unitId s).bind (·.observed) ∧
    rec.lastAction = ((m.previous unitId s).map (·.lastAction)).getD .none ∧
    rec.lastError = some e.cause ∧
    rec.generation.toNat =
      ((((m.previous unitId s).map UnitRecord.generation).getD 0).toNat + 1) % UInt64.size ∧
    s' = (m.publish rec s).2 ∧ (r.record = some rec ↔ (m.publish rec s).1 = .ok ())

theorem run_after_probe_failure {unitId : String} (facts : Option ConnectionFacts)
    {policy : Option MountPolicy} (reason : String) {s : σ} {e : Error}
    (h : m.ProbeFails (MountSpec.ofInputs? facts policy) policy (m.previous unitId s) s e) :
    m.AfterProbeFailure unitId s e (m.run unitId facts policy reason s).1
      (m.run unitId facts policy reason s).2
      (m.recorded.run unitId facts policy reason (s, [])).2.2 := by
  have hrun := m.run_of_survey_error reason ((m.survey_eq_error_iff).2 h)
  dsimp only at hrun
  refine ⟨by rw [hrun], by rw [hrun], by rw [hrun], ?_, ⟨failedProbeRecord unitId
    ((MountSpec.ofInputs? facts policy).map MountSpec.fingerprint) (m.previous unitId s) e.cause,
    rfl, rfl, rfl, rfl, rfl, by rw [failedProbeRecord, UInt64.toNat_add]; rfl, by rw [hrun], ?_⟩⟩
  · rw [run_recorded, hrun]
    rfl
  · rw [hrun]
    rcases (m.publish _ s).1 with _ | ⟨⟩ <;> simp [Except.map, Except.toOption]

end Machine

variable {σ : Type} (m : Machine σ)

/-- Whatever the previous record and the inputs, when a probe of a reconcile or teardown pass
fails, the pass calls nothing, reports the failure's cause, and publishes a record that keeps the
previous record's mountpoint, observation and last action with the cause and the next
generation modulo `2 ^ 64`. -/
theorem pass_after_probe_failure (unitId : String) (facts : Option ConnectionFacts)
    (policy : Option MountPolicy) (s : σ) (e : Error) :
    (m.ProbeFails (MountSpec.ofInputs? facts policy) policy (m.previous unitId s) s e →
      m.AfterProbeFailure unitId s e (m.reconcile unitId facts policy s).1
        (m.reconcile unitId facts policy s).2
        (m.recorded.reconcile unitId facts policy (s, [])).2.2) ∧
    (m.ProbeFails none policy (m.previous unitId s) s e →
      m.AfterProbeFailure unitId s e (m.teardown unitId policy s).1.1 (m.teardown unitId policy s).2
        (m.recorded.teardown unitId policy (s, [])).2.2) :=
  ⟨m.run_after_probe_failure facts _, m.run_after_probe_failure none _⟩

/-- On the simulated host whose mount table cannot be read, a pass of a unit configured for `/data`
and its teardown both fail at the target's probe. -/
theorem pass_after_probe_failure_unreadable :
    SimHost.machine.ProbeFails none (some { mountpoint := "/data", options := {} })
        (SimHost.machine.previous "app/0" { SimHost.ofLines [] with broken := true })
        { SimHost.ofLines [] with broken := true } (.mountTableRead SimHost.tablePath .notFound) ∧
      SimHost.machine.AfterProbeFailure "app/0" { SimHost.ofLines [] with broken := true }
        (.mountTableRead SimHost.tablePath .notFound)
        (SimHost.machine.reconcile "app/0" none (some { mountpoint := "/data", options := {} })
          { SimHost.ofLines [] with broken := true }).1
        (SimHost.machine.reconcile "app/0" none (some { mountpoint := "/data", options := {} })
          { SimHost.ofLines [] with broken := true }).2
        (SimHost.machine.recorded.reconcile "app/0" none
          (some { mountpoint := "/data", options := {} })
          ({ SimHost.ofLines [] with broken := true }, [])).2.2 ∧
      SimHost.machine.AfterProbeFailure "app/0" { SimHost.ofLines [] with broken := true }
        (.mountTableRead SimHost.tablePath .notFound)
        (SimHost.machine.teardown "app/0" (some { mountpoint := "/data", options := {} })
          { SimHost.ofLines [] with broken := true }).1.1
        (SimHost.machine.teardown "app/0" (some { mountpoint := "/data", options := {} })
          { SimHost.ofLines [] with broken := true }).2
        (SimHost.machine.recorded.teardown "app/0" (some { mountpoint := "/data", options := {} })
          ({ SimHost.ofLines [] with broken := true }, [])).2.2 := by
  have hfail : SimHost.machine.ProbeFails none (some { mountpoint := "/data", options := {} })
      (SimHost.machine.previous "app/0" { SimHost.ofLines [] with broken := true })
      { SimHost.ofLines [] with broken := true } (.mountTableRead SimHost.tablePath .notFound) :=
    .inl ⟨"/data", rfl, rfl⟩
  exact ⟨hfail, (pass_after_probe_failure SimHost.machine "app/0" none _ _ _).1 hfail,
    (pass_after_probe_failure SimHost.machine "app/0" none _ _ _).2 hfail⟩

/-- A host whose store holds `app/0`'s record at the last generation a 64-bit counter holds. -/
def FakeHost.storedMax : FakeHost :=
  { table := .empty
    records := [{ unitId := "app/0", mountpoint := some "/data",
                  generation := 18446744073709551615 }] }

def FakeHost.unreadable : Machine FakeHost :=
  { FakeHost.machine with observe := fun _ _ => .error (.mountTableRead "mounts" .notFound) }

/-- Over a stored generation `2 ^ 64 - 1`, a pass whose probe fails publishes generation 0, not
one higher. -/
theorem probe_failure_generation_wraps :
    ∃ rec, (FakeHost.unreadable.reconcile "app/0" none (some { mountpoint := "/data", options := {} })
        FakeHost.storedMax).1.record = some rec ∧ rec.generation = 0 := by
  refine ⟨_, rfl, ?_⟩
  decide

end CephMount
