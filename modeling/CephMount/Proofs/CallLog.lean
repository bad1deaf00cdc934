import CephMount.Reconcile

/-!
The calls a host receives. `Machine.recorded` notes every mount and unmount call; a pass on it is
the pass on the host underneath, and the log holds the planned actions in order up to the first
that failed (`issued`).
-/
namespace CephMount

/-- The calls made by running actions of which the first `k` succeed: those `k`, and then the
next one, which failed, if there is one. -/
def issued (as : List Action) (k : Nat) : List (Action × Bool) :=
  (as.take k).map (·, true) ++ ((as.drop k).take 1).map (·, false)

@[simp] theorem issued_nil (k : Nat) : issued [] k = [] := by
  simp [issued]

@[simp] theorem issued_cons_zero (a : Action) (as : List Action) :
    issued (a :: as) 0 = [(a, false)] := by
  simp [issued]

@[simp] theorem issued_cons_succ (a : Action) (as : List Action) (k : Nat) :
    issued (a :: as) (k + 1) = (a, true) :: issued as k := by
  simp [issued]

theorem map_fst_issued (as : List Action) (k : Nat) :
    (issued as k).map Prod.fst = as.take (k + 1) := by
  induction as generalizing k with
  | nil => simp
  | cons a as ih =>
    cases k with
    | zero => simp
    | succ k => simp [ih]

theorem mem_of_mem_issued {as : List Action} {k : Nat} {a : Action} {ok : Bool}
    (h : (a, ok) ∈ issued as k) : a ∈ as :=
  List.mem_of_mem_take (by rw [← map_fst_issued]; exact List.mem_map_of_mem (f := Prod.fst) h)

theorem pairwise_issued {as : List Action} {r : Action → Action → Prop} (h : as.Pairwise r)
    (k : Nat) : (issued as k).Pairwise fun c d => r c.1 d.1 := by
  rw [← List.pairwise_map (f := Prod.fst), map_fst_issued]
  exact h.sublist (List.take_sublist _ _)

theorem mem_issued_of_before {as l₁ l₂ : List Action} {k : Nat} {a b : Action} {ok : Bool}
    (has : as = l₁ ++ b :: l₂) (hb : b ∉ l₁) (ha : a ∈ l₁) (hcall : (b, ok) ∈ issued as k) :
    (a, true) ∈ issued as k := by
  subst has
  induction l₁ generalizing k with
  | nil => simp at ha
  | cons x l₁ ih =>
    simp only [List.mem_cons, not_or] at hb ha
    cases k with
    | zero =>
      simp only [List.cons_append, issued_cons_zero, List.mem_singleton, Prod.mk.injEq] at hcall
      exact absurd hcall.1 hb.1
    | succ k =>
      simp only [List.cons_append, issued_cons_succ, List.mem_cons, Prod.mk.injEq] at hcall ⊢
      rcases hcall with ⟨hbx, -⟩ | hcall
      · exact absurd hbx hb.1
      rcases ha with rfl | ha
      · simp
      · exact .inr (ih hb.2 ha hcall)

namespace Machine

variable {σ : Type} (m : Machine σ)

/-- Runs an effect on the host underneath and notes the call with its outcome. -/
def noting (a : Action) (effect : Except Error Unit × σ) (log : List (Action × Bool)) :
    Except Error Unit × σ × List (Action × Bool) :=
  (effect.1, effect.2, log ++ [(a, effect.1.isOk)])

/-- The host `m` with a log of the mount and unmount calls it received. -/
def recorded : Machine (σ × List (Action × Bool)) where
  observe p s := m.observe p s.1
  cephMounts s := m.cephMounts s.1
  mount spec s := noting (.mount spec) (m.mount spec s.1) s.2
  unmount p s := noting (.unmount p) (m.unmount p s.1) s.2
  readRecord unitId s := m.readRecord unitId s.1
  readAll s := m.readAll s.1
  publish r s := ((m.publish r s.1).1, (m.publish r s.1).2, s.2)

theorem perform_recorded (a : Action) (s : σ) (log : List (Action × Bool)) :
    m.recorded.perform a (s, log) = noting a (m.perform a s) log := by
  cases a <;> rfl

theorem executeFrom_recorded (planned : UnitState) (as : List Action) (done : Nat) (s : σ)
    (log : List (Action × Bool)) :
    ∃ k, (m.executeFrom planned as done s).1.2 = done + k ∧
      m.recorded.executeFrom planned as done (s, log) =
        ((m.executeFrom planned as done s).1, (m.executeFrom planned as done s).2,
          log ++ issued as k) := by
  induction as generalizing done s log with
  | nil => exact ⟨0, rfl, by simp [executeFrom]⟩
  | cons a as ih =>
    rcases hp : m.perform a s with ⟨_ | ⟨⟩, s'⟩
    · refine ⟨0, by simp [executeFrom, hp], ?_⟩
      simp [executeFrom, perform_recorded, hp, noting, Except.isOk, Except.toBool]
    · obtain ⟨k, hk, hrun⟩ := ih (done + 1) s' (log ++ [(a, true)])
      refine ⟨k + 1, by simp [executeFrom, hp, hk]; omega, ?_⟩
      simp [executeFrom, perform_recorded, hp, noting, Except.isOk, Except.toBool, hrun]

variable (unitId : String) (s : σ) (log : List (Action × Bool))

@[simp] theorem previous_recorded : m.recorded.previous unitId (s, log) = m.previous unitId s :=
  rfl

@[simp] theorem planFor_recorded (desired : Option MountSpec) (policy : Option MountPolicy)
    (previous : Option UnitRecord) :
    m.recorded.planFor desired policy previous (s, log) = m.planFor desired policy previous s :=
  rfl

@[simp] theorem managed_recorded (desired : Option MountSpec) (previous : Option UnitRecord)
    (acted : Bool) (probed : Option (Option Observation × Option Observation)) :
    m.recorded.managed desired previous acted probed (s, log) =
      m.managed desired previous acted probed s :=
  rfl

@[simp] theorem divergent_recorded (hash : Option String) :
    m.recorded.divergent unitId hash (s, log) = m.divergent unitId hash s :=
  rfl

theorem publish_recorded (r : UnitRecord) :
    m.recorded.publish r (s, log) = ((m.publish r s).1, (m.publish r s).2, log) :=
  rfl

@[simp] theorem record_recorded (r : UnitRecord) :
    m.recorded.record unitId r (s, log) = ((m.record unitId r s).1, (m.record unitId r s).2, log) := by
  rcases hp : m.publish
    { r with unitId, generation := ((m.previous unitId s).map (·.generation)).getD 0 + 1 } s
    with ⟨_ | ⟨⟩, s'⟩ <;> simp only [record, previous_recorded, publish_recorded, hp]

/-- Recording the calls changes nothing of a pass, neither its report nor the host after it, and
the log gains the calls the pass made: the planned actions, each a success, up to the first
failure. -/
theorem run_recorded (facts : Option ConnectionFacts) (policy : Option MountPolicy)
    (reason : String) :
    m.recorded.run unitId facts policy reason (s, log) =
      ((m.run unitId facts policy reason s).1, (m.run unitId facts policy reason s).2,
        log ++ issued (m.run unitId facts policy reason s).1.actions
          (m.run unitId facts policy reason s).1.executed) := by
  obtain ⟨k, hk, hexec⟩ := m.executeFrom_recorded
    (m.planFor (MountSpec.ofInputs? facts policy) policy (m.previous unitId s) s).1.state
    (m.planFor (MountSpec.ofInputs? facts policy) policy (m.previous unitId s) s).1.actions 0 s log
  simp only [run, execute, previous_recorded, planFor_recorded, hexec, managed_recorded,
    record_recorded, divergent_recorded]
  rw [hk, Nat.zero_add]

end Machine

end CephMount
