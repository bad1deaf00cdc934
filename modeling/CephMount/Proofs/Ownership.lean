import CephMount.Proofs.Resumption

/-!
The mounts a unit owns. On a host whose probe reads its table right after every successful mount,
every sequence of passes keeps the unit's mounts where its record says
(`owned_mounts_recorded`); a pass whose stale probe fails after its mount forgets the mount
(`owned_mount_forgotten`).
-/
namespace CephMount

namespace MountMap

/-- Every mount the unit's own mount call made is a CephFS mount on a path the same as the one
`p` names. -/
def OwnedAt (T : MountMap) (p : Option String) : Prop :=
  ∀ h ∈ T.mounts, h.own = true → h.obs.isCeph = true ∧ p.any (Path.same h.obs.mountpoint) = true

instance (T : MountMap) (p : Option String) : Decidable (T.OwnedAt p) :=
  List.decidableBAll _ T.mounts

/-- The mountpoint a pass would record if its last probes showed what `T` shows. -/
def recordedAt (T : MountMap) (desired : Option MountSpec) (t q : Option String) :
    Option String :=
  managedPath desired (t.map T.observe) (q.map T.observe)

theorem ownedAt_of_not_own {T : MountMap} (h : ∀ m ∈ T.mounts, m.own = false)
    (p : Option String) : T.OwnedAt p := by
  intro m hm hown
  rw [h m hm] at hown
  cases hown

theorem ownedAt_erase {T : MountMap} {z w : String} (h : T.OwnedAt (some z))
    (hzw : Path.same z w = true) (p : Option String) : (T.erase w).OwnedAt p := by
  intro m hm hown
  have hnot := not_same_of_mem_erase hm
  have hz : Path.same m.obs.mountpoint z = true := by
    simpa using (h m (List.mem_filter.1 hm).1 hown).2
  rw [Path.same_trans hz hzw] at hnot
  cases hnot

theorem recordedAt_stale {T : MountMap} {desired : Option MountSpec} {t : Option String}
    {qq : String} (hc : (T.observe qq).isCeph = true) :
    T.recordedAt desired t (some qq) = some (T.observe qq).mountpoint := by
  simp [recordedAt, managedPath, Option.filter, hc]

theorem recordedAt_target {T : MountMap} {desired : Option MountSpec} {q : Option String}
    {tt : String} (hs : staleActions (q.map T.observe) = [])
    (hpass : (desired.isSome || (T.observe tt).isCeph) = true) :
    T.recordedAt desired (some tt) q = some (T.observe tt).mountpoint := by
  have hq : (q.map T.observe).filter (·.isCeph) = none := by
    rcases q with _ | qq
    · rfl
    · have hc : (T.observe qq).isCeph = false := by simpa [staleActions] using hs
      simp [Option.filter, hc]
  rw [recordedAt, managedPath, hq]
  simp [Option.filter, hpass]

/-- A path that shows nothing mounted holds none of the unit's mounts; so where they are all on
it, there are none. -/
theorem not_own_of_free {T : MountMap} {x : String}
    (hT : T.OwnedAt (some (T.observe x).mountpoint)) (hfree : (T.observe x).mounted = false) :
    ∀ m ∈ T.mounts, m.own = false := by
  intro m hm
  cases hown : m.own
  · rfl
  · obtain ⟨hceph, hnamed⟩ := hT m hm hown
    have hsame : Path.same m.obs.mountpoint x = true := by
      simp only [Option.any_some] at hnamed
      exact Path.same_trans hnamed (T.observe_coherent.mountpoint_same _)
    rw [observe_of_at? (T.at?_of_mem hm hsame), mounted_of_isCeph hceph] at hfree
    cases hfree

theorem ownedAt_put {T : MountMap} (hnone : ∀ m ∈ T.mounts, m.own = false) {o : Observation}
    (hceph : o.isCeph = true) : (T.put ⟨o, true⟩).OwnedAt (some o.mountpoint) := by
  intro m hm hown
  rcases List.mem_cons.1 hm with rfl | hm
  · exact ⟨hceph, by simp [Path.same_refl]⟩
  · rw [hnone m (List.mem_filter.1 hm).1] at hown
    cases hown

section Plan

variable {desired : Option MountSpec} {t q : Option String}

/-- Each action of a plan keeps the unit's mounts on the path its record would name. -/
theorem ownedAt_after (hp : Probes desired t q) {T T' : MountMap} {a : Action}
    {rest : List Action} (hplan : (T.planAt desired t q).actions = a :: rest)
    (ha : T.After a T') (hT : T.OwnedAt (T.recordedAt desired t q)) :
    T'.OwnedAt (T'.recordedAt desired t q) := by
  rcases planAt_first_cases hp hplan with
    ⟨qq, rfl, hc, rfl, -, -⟩ |
      ⟨hs, ⟨tt, rfl, rfl, hc, rfl, -⟩ | ⟨spec, rfl, rfl, hfree, rfl, -⟩ |
        ⟨spec, rfl, rfl, hc, -, rfl, -⟩⟩
  · cases ha
    rw [recordedAt_stale hc] at hT
    exact ownedAt_erase hT (Path.same_refl _) _
  · cases ha
    rw [recordedAt_target hs (by simp [hc])] at hT
    exact ownedAt_erase hT (Path.same_refl _) _
  · -- A free target holds no mount of the unit's, so the new mount is its only one.
    cases ha with
    | mount _ o' hmp hsat =>
    rw [recordedAt_target hs (by simp)] at hT
    have hstale : staleActions (q.map (T.put ⟨o', true⟩).observe) = [] := by
      rw [map_observe_put T fun x hx => by rw [hmp]; exact hp.stale_not_same x spec.target hx rfl]
      exact hs
    have hobs : (T.put ⟨o', true⟩).observe spec.target = o' := by
      rw [← hmp]
      exact T.observe_put_self ⟨o', true⟩
    rw [recordedAt_target hstale (by simp), hobs]
    exact ownedAt_put (not_own_of_free hT hfree) (isCeph_of_satisfiedBy hsat)
  · cases ha
    rw [recordedAt_target hs (by simp)] at hT
    exact ownedAt_erase hT (T.observe_coherent.mountpoint_same _) _

/-- A record names every CephFS mount that the last probes show on the path the same as it: the
stale mountpoint's, or the target's when nothing stale is left. -/
theorem managedPath_names {o : Observation} (hceph : o.isCeph = true) {look : String → Observation}
    (hlook : ∀ x, Path.same o.mountpoint x = true → look x = o)
    (hat : (∃ qq, q = some qq ∧ Path.same o.mountpoint qq = true) ∨
      ((∀ qq, q = some qq → (look qq).isCeph = false) ∧
        ∃ tt, t = some tt ∧ Path.same o.mountpoint tt = true)) :
    (managedPath desired (t.map look) (q.map look)).any (Path.same o.mountpoint) = true := by
  rcases hat with ⟨qq, rfl, hq⟩ | ⟨hq, tt, rfl, ht⟩
  · simp [managedPath, Option.filter, hlook qq hq, hceph, Path.same_refl]
  · have hstale : (q.map look).filter (·.isCeph) = none := by
      rcases q with _ | qq
      · rfl
      · simp [Option.filter, hq qq rfl]
    rw [managedPath, hstale]
    simp [Option.filter, hlook tt ht, hceph, Path.same_refl]

/-- What a record that names a path the same as `z` was made from: a CephFS mount on the stale
mountpoint, or, with nothing stale, the target. -/
theorem managedPath_any {look : String → Observation} {z : String}
    (h : (managedPath desired (t.map look) (q.map look)).any (Path.same z) = true) :
    (∃ qq, q = some qq ∧ Path.same z (look qq).mountpoint = true) ∨
      ((∀ qq, q = some qq → (look qq).isCeph = false) ∧
        ∃ tt, t = some tt ∧ Path.same z (look tt).mountpoint = true) := by
  unfold managedPath at h
  split at h
  · next o hs =>
    rcases q with _ | qq
    · cases hs
    · obtain ⟨hlook, -⟩ := Option.filter_eq_some_iff.1 hs
      cases hlook
      exact .inl ⟨qq, rfl, by simpa using h⟩
  · next hs =>
    refine .inr ⟨fun qq hq => by simpa [hq, Option.filter] using hs, ?_⟩
    rcases t with _ | tt
    · simp at h
    · by_cases hpass : (desired.isSome || (look tt).isCeph) = true
      · exact ⟨tt, rfl, by simpa [Option.filter, hpass] using h⟩
      · simp [Option.filter, hpass] at h

/-- A pass's last probes each show either what the mounts `S` showed or what the mounts `T` left
show at a path the same as the one probed. If the unit's mounts in `S` are where its record would
name, and `T` keeps only mounts of `S`, the record names where the unit's mounts in `T` are. -/
theorem ownedAt_seen {S T : MountMap} (hS : S.OwnedAt (S.recordedAt desired t q))
    (hsub : T.mounts ⊆ S.mounts) {seen : String → Observation} {y : String → String}
    (hy : ∀ x, Path.same (y x) x = true)
    (hseen : ∀ x, seen x = S.observe x ∨ seen x = T.observe (y x)) :
    T.OwnedAt (managedPath desired (t.map seen) (q.map seen)) := by
  intro h hh hown
  have hhS := hsub hh
  obtain ⟨hceph, hnamed⟩ := hS h hhS hown
  refine ⟨hceph, managedPath_names hceph ?_ ?_⟩
  · intro x hx
    rcases hseen x with hx' | hx'
    · rw [hx', observe_of_at? (S.at?_of_mem hhS hx)]
    · have hyx : Path.same h.obs.mountpoint (y x) = true :=
        Path.same_trans hx ((Path.same_comm _ _).trans (hy x))
      rw [hx', observe_of_at? (T.at?_of_mem hh hyx)]
  have hclear : ∀ x, (S.observe x).isCeph = false → (seen x).isCeph = false := by
    intro x hx
    rcases hseen x with hx' | hx'
    · rw [hx', hx]
    · rw [hx']
      rcases hat : T.at? (y x) with _ | h'
      · simp [observe_of_at?_none hat, Observation.unmounted, Observation.isCeph]
      · have hS' : S.at? (y x) = some h' :=
          S.at?_of_mem (hsub (mem_of_at? hat)) (same_of_at? hat)
        rw [observe_of_at? hat, ← observe_of_at? hS', S.isCeph_observe_congr (hy x), hx]
  rcases managedPath_any hnamed with ⟨qq, rfl, hq⟩ | ⟨hq, tt, rfl, ht⟩
  · exact .inl ⟨qq, rfl, Path.same_trans hq (S.observe_coherent.mountpoint_same qq)⟩
  · exact .inr ⟨fun qq hqq => hclear qq (hq qq hqq), tt, rfl,
      Path.same_trans ht (S.observe_coherent.mountpoint_same tt)⟩

theorem stalePath_cases {previous : Option UnitRecord} {x : String}
    (hx : previous.bind (·.mountpoint) = some x) (t : Option String) :
    stalePath t previous = some x ∨
      (stalePath t previous = none ∧ ∃ tt, t = some tt ∧ Path.same x tt = true) := by
  unfold stalePath
  rw [hx]
  dsimp only
  split_ifs with ht
  · rcases t with _ | tt
    · simp at ht
    · exact .inr ⟨rfl, tt, rfl, by simpa using ht⟩
  · exact .inl rfl

/-- Where the unit's mounts are on the path its previous record names, they are where the record
of a pass would name if its probes succeeded. -/
theorem ownedAt_recordedAt {T : MountMap} {previous : Option UnitRecord}
    (hT : T.OwnedAt (previous.bind (·.mountpoint))) (t : Option String) :
    T.OwnedAt (T.recordedAt desired t (stalePath t previous)) := by
  intro h hh hown
  obtain ⟨hceph, hnamed⟩ := hT h hh hown
  obtain ⟨x, hx, hsame⟩ : ∃ x, previous.bind (·.mountpoint) = some x ∧
      Path.same h.obs.mountpoint x = true := by
    rcases hp : previous.bind (·.mountpoint) with _ | x
    · simp [hp] at hnamed
    · exact ⟨x, rfl, by simpa [hp] using hnamed⟩
  refine ⟨hceph, managedPath_names hceph (fun z hz => observe_of_at? (T.at?_of_mem hh hz)) ?_⟩
  rcases stalePath_cases hx t with hq | ⟨hq, tt, rfl, ht⟩
  · exact .inl ⟨x, hq, hsame⟩
  · exact .inr ⟨fun qq h => by simp [hq] at h, tt, rfl, Path.same_trans hsame ht⟩

end Plan

end MountMap

namespace Progress

variable {desired : Option MountSpec} {t q : Option String}

theorem ownedAt (hp : Probes desired t q) {T T' : MountMap} {k : Nat}
    (h : Progress desired t q T k T') (hT : T.OwnedAt (T.recordedAt desired t q)) :
    T'.OwnedAt (T'.recordedAt desired t q) := by
  induction h with
  | done T => exact hT
  | step hplan ha _ ih => exact ih (MountMap.ownedAt_after hp hplan ha hT)

end Progress

/-- One of a unit's passes, with its inputs. -/
inductive Pass
  | reconcile (facts : Option ConnectionFacts) (policy : Option MountPolicy)
  | teardown (policy : Option MountPolicy)

namespace Machine

variable {σ : Type} (m : Machine σ) {mounts : σ → MountMap}

def afterPass (unitId : String) : Pass → σ → σ
  | .reconcile facts policy, s => (m.reconcile unitId facts policy s).2
  | .teardown policy, s => (m.teardown unitId policy s).2

def afterPasses (unitId : String) (ps : List Pass) (s : σ) : σ :=
  ps.foldl (fun s p => m.afterPass unitId p s) s

theorem managed_none_fst (desired : Option MountSpec) (previous : Option UnitRecord)
    (acted : Bool) (s : σ) :
    (m.managed desired previous acted none s).1 = previous.bind (·.mountpoint) := by
  cases previous <;> rfl

section Owned

variable (hm : m.MapHost mounts)
include hm

theorem observe_ok_or (p : String) (s : σ) :
    m.observe p s = .ok ((mounts s).observe p) ∨ ∃ e, m.observe p s = .error e := by
  rcases h : m.observe p s with e | o
  · exact .inr ⟨e, rfl⟩
  · exact .inl (by rw [hm.observe_ok p s o h])

theorem survey_of_ok {desired : Option MountSpec} {policy : Option MountPolicy}
    {previous : Option UnitRecord} {s : σ} {observed stale : Option Observation}
    (h : m.survey desired policy previous s = .ok (observed, stale)) :
    observed = (target desired policy previous).map (mounts s).observe ∧
      stale = (stalePath (target desired policy previous) previous).map (mounts s).observe := by
  unfold stalePath
  rcases ht : target desired policy previous with _ | tt <;>
    rcases hp : previous.bind (·.mountpoint) with _ | pp <;>
    simp only [survey, ht, hp] at h
  · simpa [pure, Except.pure, bind, Except.bind, eq_comm] using h
  · rcases m.observe_ok_or hm pp s with ho | ⟨e, ho⟩ <;>
      simp [ho, pure, Except.pure, bind, Except.bind, Functor.map, Except.map] at h
    simp [← h.1, ← h.2]
  · rcases m.observe_ok_or hm tt s with ho | ⟨e, ho⟩ <;>
      simp [ho, pure, Except.pure, bind, Except.bind, Functor.map, Except.map] at h
    simp [← h.1, ← h.2]
  · rcases m.observe_ok_or hm tt s with ho | ⟨e, ho⟩ <;>
      simp [ho, pure, Except.pure, bind, Except.bind, Functor.map, Except.map] at h
    split_ifs at h with hs
    · simp only [Except.ok.injEq, Prod.mk.injEq] at h
      simp [← h.1, ← h.2, hs]
    · rcases m.observe_ok_or hm pp s with ho' | ⟨e, ho'⟩ <;> simp [ho'] at h
      simp [← h.1, ← h.2, hs]

theorem reobserve_cases (acted : Bool) (before : Observation) (s : σ) :
    m.reobserve acted before s = before ∨
      m.reobserve acted before s = (mounts s).observe before.mountpoint := by
  unfold reobserve
  split
  · rcases m.observe_ok_or hm before.mountpoint s with ho | ⟨e, ho⟩ <;> simp [ho]
  · exact .inl rfl

theorem reobserve_of_ok {before : Observation} {s : σ} {o : Observation}
    (ho : m.observe before.mountpoint s = .ok o) :
    m.reobserve true before s = (mounts s).observe before.mountpoint := by
  simp [reobserve, ho, hm.observe_ok _ _ _ ho]

/-- Running a plan that mounts last either ends right after a mount that succeeded, or leaves
only mounts that were there before. -/
theorem executeFrom_mounted_or_sub (planned : UnitState) (as : List Action) :
    ∀ (done : Nat) (s : σ), as.Pairwise (fun x _ => x.isMount = false) →
      (as ≠ [] ∧ ∃ spec s₀, (m.mount spec s₀).1 = .ok () ∧
          (m.executeFrom planned as done s).2 = (m.mount spec s₀).2) ∨
        (mounts (m.executeFrom planned as done s).2).mounts ⊆ (mounts s).mounts := by
  induction as with
  | nil => exact fun _ _ _ => .inr (List.Subset.refl _)
  | cons a rest ih =>
    intro done s hpair
    rcases hperf : m.perform a s with ⟨_ | ⟨⟩, s'⟩
    · have hs' : mounts s' = mounts s := by
        simpa [hperf] using hm.perform_error a s _ (by rw [hperf])
      refine .inr ?_
      simp only [executeFrom, hperf, hs']
      exact List.Subset.refl _
    have ha : (mounts s).After a (mounts s') := by
      simpa [hperf] using hm.perform_ok a s (by rw [hperf])
    cases a with
    | mount spec =>
      -- Nothing follows a mount.
      obtain rfl : rest = [] := by
        rcases rest with _ | ⟨b, rest⟩
        · rfl
        · have := (List.pairwise_cons.1 hpair).1 b (by simp)
          simp [Action.isMount] at this
      refine .inl ⟨List.cons_ne_nil _ _, spec, s, congrArg Prod.fst hperf, ?_⟩
      simp only [executeFrom, hperf]
      exact (congrArg Prod.snd hperf).symm
    | unmount p =>
      simp only [executeFrom, hperf]
      rcases ih (done + 1) s' hpair.of_cons with ⟨-, hmount⟩ | hsub
      · exact .inl ⟨List.cons_ne_nil _ _, hmount⟩
      · exact .inr (List.Subset.trans hsub ha.subset_of_unmount)

section Mounted

variable (hmount : ∀ spec s, (m.mount spec s).1 = .ok () →
  ∀ p, ∃ o, m.observe p (m.mount spec s).2 = .ok o)
include hmount

/-- On a host whose probe reads the table right after every mount that succeeded, a pass keeps
the unit's mounts on the path its record names. -/
theorem run_ownedAt (unitId : String) (facts : Option ConnectionFacts) (policy : Option MountPolicy)
    (reason : String) (s : σ)
    (hs : (mounts s).OwnedAt ((m.previous unitId s).bind (·.mountpoint))) :
    (mounts (m.run unitId facts policy reason s).2).OwnedAt
      ((m.previous unitId (m.run unitId facts policy reason s).2).bind (·.mountpoint)) := by
  set desired := MountSpec.ofInputs? facts policy
  set previous := m.previous unitId s
  set t := target desired policy previous
  set q := stalePath t previous
  set T := mounts s
  rcases hsv : m.survey desired policy previous s with e | ⟨observed, stale⟩
  · have hplan : m.planFor desired policy previous s = (⟨.error e.cause, []⟩, none) := by
      simp only [planFor, hsv]
    obtain ⟨⟨rec, hprev, hrec⟩, hmounts⟩ := m.run_published unitId facts policy reason s hm hplan
    have hrec : rec.mountpoint = previous.bind (·.mountpoint) := by
      rw [hrec, managed_none_fst]
    rw [hmounts, hprev, Option.bind_some, hrec]
    exact hs
  obtain ⟨rfl, rfl⟩ := m.survey_of_ok hm hsv
  set P := T.planAt desired t q
  have hplan : m.planFor desired policy previous s =
      (P, some (t.map T.observe, q.map T.observe)) := by
    simp only [planFor, hsv]
    rfl
  have hp : Probes desired t q := probes_of_pass desired policy previous
  obtain ⟨k, -, hprog, -⟩ := m.executeFrom_progress hm hp P.state P.actions 0 s rfl
  set sx := (m.execute P s).2
  have hprog : Progress desired t q T k (mounts sx) := hprog
  obtain ⟨⟨rec, hprev, hrec⟩, hmounts⟩ := m.run_published unitId facts policy reason s hm hplan
  rw [hmounts, hprev, Option.bind_some, hrec, managed_fst]
  simp only [Option.map_map, Function.comp_def]
  have hT : T.OwnedAt (T.recordedAt desired t q) := MountMap.ownedAt_recordedAt hs t
  have hy : ∀ x, Path.same (T.observe x).mountpoint x = true := T.observe_coherent.mountpoint_same
  rcases m.executeFrom_mounted_or_sub hm P.state P.actions 0 s (plan_mount_last _ _) with
    ⟨hne, spec, s₀, hok, hsx⟩ | hsub
  · -- The run ended with a mount that succeeded: the last probes read the mounts it left.
    have hacted : (!P.actions.isEmpty) = true := by simpa using hne
    have hsx : sx = (m.mount spec s₀).2 := hsx
    rw [hacted]
    refine MountMap.ownedAt_seen (hprog.ownedAt hp hT) (List.Subset.refl _) hy fun x => .inr ?_
    obtain ⟨o, ho⟩ := hmount spec s₀ hok (T.observe x).mountpoint
    rw [← hsx] at ho
    exact m.reobserve_of_ok hm ho
  · -- No mount succeeded: the last probes show the mounts from before, or what is left of them.
    exact MountMap.ownedAt_seen hT hsub hy fun x => m.reobserve_cases hm _ (T.observe x) sx

theorem afterPass_ownedAt (unitId : String) (p : Pass) (s : σ)
    (hs : (mounts s).OwnedAt ((m.previous unitId s).bind (·.mountpoint))) :
    (mounts (m.afterPass unitId p s)).OwnedAt
      ((m.previous unitId (m.afterPass unitId p s)).bind (·.mountpoint)) := by
  cases p with
  | reconcile facts policy =>
    exact m.run_ownedAt hm hmount unitId facts policy (Reason.ofInputs facts policy) s hs
  | teardown policy => exact m.run_ownedAt hm hmount unitId none policy Reason.stopping s hs

/-- Every sequence of passes keeps the unit's mounts on the path its record names. -/
theorem afterPasses_ownedAt (unitId : String) (ps : List Pass) :
    ∀ s, (mounts s).OwnedAt ((m.previous unitId s).bind (·.mountpoint)) →
      (mounts (m.afterPasses unitId ps s)).OwnedAt
        ((m.previous unitId (m.afterPasses unitId ps s)).bind (·.mountpoint)) := by
  induction ps with
  | nil => exact fun _ hs => hs
  | cons p ps ih => exact fun s hs => ih _ (m.afterPass_ownedAt hm hmount unitId p s hs)

end Mounted

end Owned

end Machine

variable {σ : Type} {m : Machine σ} {mounts : σ → MountMap}

/-- On every host whose mounts form a map and whose probe reads the table right after every mount
that succeeded, from any mounts the unit did not make and any previous record, every sequence of
reconcile and teardown passes, each with any inputs and with any of its actions failing, leaves
each mount the unit made a CephFS mount on the path its latest record names. -/
theorem owned_mounts_recorded (hm : m.MapHost mounts)
    (hmount : ∀ spec s, (m.mount spec s).1 = .ok () →
      ∀ p, ∃ o, m.observe p (m.mount spec s).2 = .ok o)
    (unitId : String) (s : σ) (h0 : ∀ h ∈ (mounts s).mounts, h.own = false) (ps : List Pass) :
    (mounts (m.afterPasses unitId ps s)).OwnedAt
      ((m.previous unitId (m.afterPasses unitId ps s)).bind (·.mountpoint)) :=
  m.afterPasses_ownedAt hm hmount unitId ps s (MountMap.ownedAt_of_not_own h0 _)

/-- Two passes wanting CephFS on `/data` and then on `/moved`, and a teardown, from a host
without mounts. -/
theorem owned_mounts_recorded_fakeHost :
    FakeHost.machine.MapHost FakeHost.table ∧
      (∀ spec s, (FakeHost.machine.mount spec s).1 = .ok () →
        ∀ p, ∃ o, FakeHost.machine.observe p (FakeHost.machine.mount spec s).2 = .ok o) ∧
      (∀ h ∈ (FakeHost.table { table := .empty }).mounts, h.own = false) ∧
      (FakeHost.machine.afterPasses "app/0"
          [.reconcile
            (some {
              monitors := [{ host := "10.0.0.1", port := 6789 }], fsId := "abc",
              authKey := "AQBsecret==", exportPath := "/export/data", authUser := "admin",
              fsName := none })
            (some { mountpoint := "/data", options := {} }),
           .reconcile
            (some {
              monitors := [{ host := "10.0.0.1", port := 6789 }], fsId := "abc",
              authKey := "AQBsecret==", exportPath := "/export/data", authUser := "admin",
              fsName := none })
            (some { mountpoint := "/moved", options := {} }),
           .teardown (some { mountpoint := "/moved", options := {} })]
          { table := .empty }).table.OwnedAt
        ((FakeHost.machine.previous "app/0" (FakeHost.machine.afterPasses "app/0"
          [.reconcile
            (some {
              monitors := [{ host := "10.0.0.1", port := 6789 }], fsId := "abc",
              authKey := "AQBsecret==", exportPath := "/export/data", authUser := "admin",
              fsName := none })
            (some { mountpoint := "/data", options := {} }),
           .reconcile
            (some {
              monitors := [{ host := "10.0.0.1", port := 6789 }], fsId := "abc",
              authKey := "AQBsecret==", exportPath := "/export/data", authUser := "admin",
              fsName := none })
            (some { mountpoint := "/moved", options := {} }),
           .teardown (some { mountpoint := "/moved", options := {} })]
          { table := .empty })).bind (·.mountpoint)) :=
  ⟨FakeHost.machine_mapHost, fun _ _ _ _ => ⟨_, rfl⟩, (fun _ h => nomatch h),
    owned_mounts_recorded FakeHost.machine_mapHost (fun _ _ _ _ => ⟨_, rfl⟩) "app/0"
      { table := .empty } (fun _ h => nomatch h) _⟩

namespace Machine

variable {σ : Type} (m : Machine σ) {mounts : σ → MountMap}

/-- The host `m` with a probe that reads the table until `n` more mount and unmount calls have
returned, and then fails as a missing table file does. -/
def breakingAfter : Machine (σ × Nat) where
  observe p s := if s.2 = 0 then .error (.mountTableRead "mounts" .notFound) else m.observe p s.1
  cephMounts s := if s.2 = 0 then .error (.mountTableRead "mounts" .notFound) else m.cephMounts s.1
  mount spec s := ((m.mount spec s.1).1, (m.mount spec s.1).2, s.2 - 1)
  unmount p s := ((m.unmount p s.1).1, (m.unmount p s.1).2, s.2 - 1)
  readRecord u s := m.readRecord u s.1
  readAll s := m.readAll s.1
  publish r s := ((m.publish r s.1).1, (m.publish r s.1).2, s.2)

theorem perform_breakingAfter (a : Action) (s : σ × Nat) :
    m.breakingAfter.perform a s = ((m.perform a s.1).1, (m.perform a s.1).2, s.2 - 1) := by
  cases a <;> rfl

theorem MapHost.breakingAfter {m : Machine σ} (hm : m.MapHost mounts) :
    m.breakingAfter.MapHost fun s => mounts s.1 := by
  refine ⟨fun p s o h => ?_, fun a s h => ?_, fun a s e h => ?_, fun r s => hm.publish_ok r s.1,
    fun r s => hm.read_published r s.1, fun r s => hm.publish_mounts r s.1⟩
  · simp only [Machine.breakingAfter] at h
    split at h
    · cases h
    · exact hm.observe_ok p s.1 o h
  · rw [perform_breakingAfter] at h ⊢
    exact hm.perform_ok a s.1 h
  · rw [perform_breakingAfter] at h ⊢
    exact hm.perform_error a s.1 e h

end Machine

/-- Without the probe after a mount, the record can forget the mount: a pass moving the unit
from `/data` to `/moved` unmounts `/data` and mounts `/moved`, and when its probe then fails it
records `/data` from what it saw there before. -/
theorem owned_mount_forgotten :
    FakeHost.machine.breakingAfter.MapHost (fun s => s.1.table) ∧
      (∀ h ∈ MountMap.empty.mounts, h.own = false) ∧
      ¬ (FakeHost.machine.breakingAfter.afterPasses "app/0"
          [.reconcile
            (some {
              monitors := [{ host := "10.0.0.1", port := 6789 }], fsId := "abc",
              authKey := "AQBsecret==", exportPath := "/export/data", authUser := "admin",
              fsName := none })
            (some { mountpoint := "/data", options := {} }),
           .reconcile
            (some {
              monitors := [{ host := "10.0.0.1", port := 6789 }], fsId := "abc",
              authKey := "AQBsecret==", exportPath := "/export/data", authUser := "admin",
              fsName := none })
            (some { mountpoint := "/moved", options := {} })]
          ({ table := .empty }, 2)).1.table.OwnedAt
        ((FakeHost.machine.breakingAfter.previous "app/0"
          (FakeHost.machine.breakingAfter.afterPasses "app/0"
            [.reconcile
              (some {
                monitors := [{ host := "10.0.0.1", port := 6789 }], fsId := "abc",
                authKey := "AQBsecret==", exportPath := "/export/data", authUser := "admin",
                fsName := none })
              (some { mountpoint := "/data", options := {} }),
             .reconcile
              (some {
                monitors := [{ host := "10.0.0.1", port := 6789 }], fsId := "abc",
                authKey := "AQBsecret==", exportPath := "/export/data", authUser := "admin",
                fsName := none })
              (some { mountpoint := "/moved", options := {} })]
            ({ table := .empty }, 2))).bind (·.mountpoint)) :=
  ⟨FakeHost.machine_mapHost.breakingAfter, (fun _ h => nomatch h), by decide⟩

end CephMount
