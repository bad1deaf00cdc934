import CephMount.Proofs.Convergence
import CephMount.Proofs.Ownership

/-!
Record generations. On a store that keeps what it is given, a unit's publications carry
consecutive generations modulo `2 ^ 64`, from the one after the generation stored at the start
(`publications_generation`).
-/
namespace CephMount

/-- One call by which a unit publishes its record: directly, or at the end of a pass. -/
inductive Publication
  | record (r : UnitRecord)
  | pass (p : Pass)

namespace Machine

variable {σ : Type} (m : Machine σ) {mounts : σ → MountMap}

/-- The generation of the unit's stored record; 0 when it has none. -/
def generation (unitId : String) (s : σ) : UInt64 := ((m.previous unitId s).map (·.generation)).getD 0

/-- The record a publication hands back: the one `record` returns, or the one a pass reports. -/
def published (unitId : String) : Publication → σ → Option UnitRecord
  | .record r, s => (m.record unitId r s).1.toOption
  | .pass (.reconcile facts policy), s => (m.reconcile unitId facts policy s).1.record
  | .pass (.teardown policy), s => (m.teardown unitId policy s).1.1.record

def afterPublication (unitId : String) : Publication → σ → σ
  | .record r, s => (m.record unitId r s).2
  | .pass p, s => m.afterPass unitId p s

def afterPublications (unitId : String) (cs : List Publication) (s : σ) : σ :=
  cs.foldl (fun s c => m.afterPublication unitId c s) s

section Store

variable {unitId : String} (hkeep : ∀ a s, m.previous unitId (m.perform a s).2 = m.previous unitId s)
include hkeep

theorem previous_executeFrom (planned : UnitState) (as : List Action) :
    ∀ done s, m.previous unitId (m.executeFrom planned as done s).2 = m.previous unitId s := by
  induction as with
  | nil => exact fun _ _ => rfl
  | cons a rest ih =>
    intro done s
    rcases hperf : m.perform a s with ⟨_ | ⟨⟩, s'⟩
    · simpa [executeFrom, hperf] using hkeep a s
    · simp only [executeFrom, hperf]
      rw [ih, ← hkeep a s, hperf]

variable (hm : m.MapHost mounts)
include hm

/-- A pass publishes through `record` once its actions ran, which left the unit's record alone:
it reports a record of the unit at the generation after the stored one, which the unit reads back
afterwards. -/
theorem run_record_next (facts : Option ConnectionFacts) (policy : Option MountPolicy)
    (reason : String) (s : σ) :
    ∃ rec, (m.run unitId facts policy reason s).1.record = some rec ∧ rec.unitId = unitId ∧
      rec.generation = m.generation unitId s + 1 ∧
      m.previous unitId (m.run unitId facts policy reason s).2 = some rec := by
  obtain ⟨P, probed, hplan⟩ : ∃ P probed,
      m.planFor (MountSpec.ofInputs? facts policy) policy (m.previous unitId s) s = (P, probed) :=
    ⟨_, _, rfl⟩
  obtain ⟨r, hrec, hfin, hid, hgen, -⟩ := m.run_record_of_planFor reason hplan
  have hprev : m.previous unitId (m.execute P s).2 = m.previous unitId s :=
    m.previous_executeFrom hkeep P.state P.actions 0 s
  refine ⟨r, by rw [hrec, hm.publish_ok]; rfl, hid, by rw [hgen, hprev]; rfl, ?_⟩
  rw [hfin, previous, ← hid, hm.read_published]

/-- A publication hands back a record of the unit at the generation after the stored one, and
the unit reads that record back afterwards. -/
theorem published_next (c : Publication) (s : σ) :
    ∃ rec, m.published unitId c s = some rec ∧ rec.unitId = unitId ∧
      rec.generation = m.generation unitId s + 1 ∧
      m.previous unitId (m.afterPublication unitId c s) = some rec := by
  cases c with
  | record r =>
    refine ⟨{ r with unitId, generation := m.generation unitId s + 1 }, ?_, rfl, rfl,
      (m.record_published s hm r).1⟩
    simp only [published, record_eq, hm.publish_ok]
    rfl
  | pass p =>
    cases p with
    | reconcile facts policy => exact m.run_record_next hkeep hm facts policy _ s
    | teardown policy => exact m.run_record_next hkeep hm none policy _ s

theorem generation_afterPublication (c : Publication) (s : σ) :
    m.generation unitId (m.afterPublication unitId c s) = m.generation unitId s + 1 := by
  obtain ⟨rec, -, -, hgen, hprev⟩ := m.published_next hkeep hm c s
  rw [generation, hprev, ← hgen]
  rfl

/-- After publications the unit's stored generation has grown by their count, modulo `2 ^ 64`. -/
theorem generation_afterPublications (cs : List Publication) :
    ∀ s, (m.generation unitId (m.afterPublications unitId cs s)).toNat =
      ((m.generation unitId s).toNat + cs.length) % UInt64.size := by
  induction cs with
  | nil => exact fun s => (Nat.mod_eq_of_lt (m.generation unitId s).toNat_lt).symm
  | cons c cs ih =>
    intro s
    rw [afterPublications, List.foldl_cons, ← afterPublications, ih,
      m.generation_afterPublication hkeep hm, UInt64.toNat_add, List.length_cons]
    simp only [UInt64.toNat_one, UInt64.size]
    omega

end Store

end Machine

variable {σ : Type} {m : Machine σ} {mounts : σ → MountMap}

/-- On every host whose record store keeps what it is given and that no mount or unmount
touches, for every sequence of publications by one unit, direct or through reconcile and
teardown passes: the `i`-th publication hands back a record of the unit at the generation stored
at the start plus `i + 1`, modulo `2 ^ 64`. Each is one more than the one before it (1 when
nothing was stored) until the counter wraps from `2 ^ 64 - 1` to 0. -/
theorem publications_generation (hm : m.MapHost mounts) {unitId : String}
    (hkeep : ∀ a s, m.previous unitId (m.perform a s).2 = m.previous unitId s)
    (cs : List Publication) (s : σ) :
    ∀ i (h : i < cs.length), ∃ rec,
      m.published unitId cs[i] (m.afterPublications unitId (cs.take i) s) = some rec ∧
        rec.unitId = unitId ∧
        rec.generation.toNat = ((m.generation unitId s).toNat + i + 1) % UInt64.size := by
  intro i h
  obtain ⟨rec, hpub, hid, hgen, -⟩ :=
    m.published_next hkeep hm cs[i] (m.afterPublications unitId (cs.take i) s)
  have hstart := m.generation_afterPublications hkeep hm (cs.take i) s
  rw [List.length_take, min_eq_left h.le] at hstart
  refine ⟨rec, hpub, hid, ?_⟩
  rw [hgen, UInt64.toNat_add, hstart]
  simp only [UInt64.toNat_one, UInt64.size]
  omega

namespace FakeHost

theorem previous_perform (unitId : String) (a : Action) (s : FakeHost) :
    machine.previous unitId (machine.perform a s).2 = machine.previous unitId s := by
  cases a with
  | mount spec =>
    simp only [Machine.perform, machine]
    split <;> rfl
  | unmount p =>
    simp only [Machine.perform, machine]
    split
    · rfl
    · split <;> rfl

def storedSeven : FakeHost :=
  { table := .empty, records := [{ unitId := "app/0", generation := 7 }] }

end FakeHost

/-- From a stored generation 7: a direct publication, a reconcile pass wanting CephFS on `/data`
and a teardown publish generations 8, 9 and 10. -/
theorem publications_generation_storedSeven :
    FakeHost.machine.MapHost FakeHost.table ∧
      (∀ a s, FakeHost.machine.previous "app/0" (FakeHost.machine.perform a s).2 =
        FakeHost.machine.previous "app/0" s) ∧
      ∀ i (h : i < 3), ∃ rec,
        FakeHost.machine.published "app/0"
            [.record { unitId := "other", generation := 0 },
              .pass (.reconcile (some FakeHost.shareFacts) (some { mountpoint := "/data", options := {} })),
              .pass (.teardown (some { mountpoint := "/data", options := {} }))][i]
            (FakeHost.machine.afterPublications "app/0"
              ([.record { unitId := "other", generation := 0 },
                .pass (.reconcile (some FakeHost.shareFacts)
                  (some { mountpoint := "/data", options := {} })),
                .pass (.teardown (some { mountpoint := "/data", options := {} }))].take i)
              FakeHost.storedSeven) = some rec ∧
          rec.unitId = "app/0" ∧
          rec.generation.toNat =
            ((FakeHost.machine.generation "app/0" FakeHost.storedSeven).toNat + i + 1) % UInt64.size :=
  ⟨FakeHost.machine_mapHost, FakeHost.previous_perform "app/0",
    publications_generation FakeHost.machine_mapHost (FakeHost.previous_perform "app/0")
      [.record { unitId := "other", generation := 0 },
        .pass (.reconcile (some FakeHost.shareFacts) (some { mountpoint := "/data", options := {} })),
        .pass (.teardown (some { mountpoint := "/data", options := {} }))]
      FakeHost.storedSeven⟩

/-- The generation after `2 ^ 64 - 1` is 0: a record published over a stored `2 ^ 64 - 1` is not
one generation higher as an integer. -/
theorem record_wraps_at_max_generation :
    FakeHost.machine.generation "app/0" FakeHost.storedMax = 18446744073709551615 ∧
      ∃ rec, FakeHost.machine.published "app/0" (.record { unitId := "app/0", generation := 0 })
          FakeHost.storedMax = some rec ∧ rec.generation = 0 := by
  have hstored : FakeHost.machine.generation "app/0" FakeHost.storedMax = 18446744073709551615 := by
    decide
  obtain ⟨rec, hpub, -, hgen, -⟩ := FakeHost.machine.published_next
    (FakeHost.previous_perform "app/0") FakeHost.machine_mapHost
    (.record { unitId := "app/0", generation := 0 }) FakeHost.storedMax
  refine ⟨hstored, rec, hpub, ?_⟩
  rw [hgen, hstored]
  decide

end CephMount
