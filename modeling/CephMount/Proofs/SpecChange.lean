import CephMount.Proofs.StatusView

/-!
A pass after the desired mount changed: the mount is replaced exactly when the source changed
(`reconcile_after_mounted`).
-/
namespace CephMount

namespace MountSpec

theorem ofInputs?_some {facts : Option ConnectionFacts} {policy : Option MountPolicy}
    {spec : MountSpec} (h : ofInputs? facts policy = some spec) :
    ∃ p, policy = some p ∧ spec.target = p.mountpoint ∧ spec.options = p.options := by
  rcases facts with _ | f <;> rcases policy with _ | p <;> simp only [ofInputs?] at h
  · cases h
  · cases h
  · cases h
  · obtain rfl := Option.some.inj h
    exact ⟨p, rfl, rfl, rfl⟩

/-- Against a mount that satisfies one desired mount, another with the same flags is satisfied
exactly when its source is the same. -/
theorem satisfiedBy_iff_source {spec₁ spec₂ : MountSpec} {o : Observation}
    (h : spec₁.satisfiedBy o = true) (hopts : spec₂.options = spec₁.options) :
    spec₂.satisfiedBy o = true ↔ spec₂.source = spec₁.source := by
  simp only [satisfiedBy, Bool.and_eq_true, beq_iff_eq] at h ⊢
  obtain ⟨⟨hceph, hsource⟩, hpolicy⟩ := h
  rw [hsource, hopts, hpolicy]
  constructor
  · exact fun h => h.1.2.symm
  · exact fun h => ⟨⟨hceph, h.symm⟩, rfl⟩

end MountSpec

/-- A plan that found its target mounted as desired, with nothing stale, makes for another desired
mount with the same flags either the same plan, when the source is the same, or a remount. -/
theorem plan_other_spec {spec₁ spec₂ : MountSpec} {observed stale : Option Observation}
    (h : plan (some spec₁) observed stale = ⟨.mounted, []⟩)
    (hopts : spec₂.options = spec₁.options) :
    plan (some spec₂) observed stale =
      if spec₂.source = spec₁.source then ⟨.mounted, []⟩
      else ⟨.needsRemount, [.unmount spec₂.target, .mount spec₂]⟩ := by
  -- Only the branch of a satisfying CephFS mount is mounted.
  obtain ⟨o, rfl, hceph, hsat, hstale⟩ : ∃ o, observed = some o ∧ o.isCeph = true ∧
      spec₁.satisfiedBy o = true ∧ staleActions stale = [] := by
    rcases plan_cases (some spec₁) observed stale with ⟨hd, -⟩ | ⟨_, -, -, hp⟩ |
      ⟨_, _, -, -, -, -, hp⟩ | ⟨_, o, hd, ho, hc, hs, hp⟩ | ⟨_, _, -, -, -, -, hp⟩
    · cases hd
    all_goals rw [hp] at h; simp only [Plan.mk.injEq, reduceCtorEq, false_and] at h
    obtain ⟨-, hst⟩ := h
    obtain rfl := Option.some.inj hd
    exact ⟨o, ho, hc, hs, hst⟩
  have hsat₂ := MountSpec.satisfiedBy_iff_source hsat hopts
  rcases plan_cases (some spec₂) (some o) stale with ⟨hd, -⟩ | ⟨_, -, hfree, -⟩ |
    ⟨_, _, -, ho, -, hc, -⟩ | ⟨_, _, hd, ho, -, hs, hp⟩ | ⟨_, _, hd, ho, -, hs, hp⟩
  · cases hd
  · have := hfree o rfl
    rw [MountMap.mounted_of_isCeph hceph] at this
    cases this
  · obtain rfl := Option.some.inj ho
    rw [hceph] at hc
    cases hc
  · obtain rfl := Option.some.inj hd
    obtain rfl := Option.some.inj ho
    rw [hp, hstale, if_pos (hsat₂.1 hs)]
  · obtain rfl := Option.some.inj hd
    obtain rfl := Option.some.inj ho
    have hne : spec₂.source ≠ spec₁.source := fun he => by
      rw [hsat₂.2 he] at hs
      cases hs
    rw [hp, hstale, if_neg hne, List.nil_append]

namespace Machine

variable {σ : Type} (m : Machine σ) {mounts : σ → MountMap}

theorem run_executed_of_mounted (unitId : String) (facts : Option ConnectionFacts)
    (policy : Option MountPolicy) (reason : String) (s : σ)
    (h : (m.run unitId facts policy reason s).1.state = .mounted) :
    (m.run unitId facts policy reason s).1.executed =
      (m.run unitId facts policy reason s).1.actions.length := by
  rw [run_state] at h
  rw [run_executed, run_actions]
  rcases m.executeFrom_cases _ _ 0 s with hdone | ⟨c, k, -, hfail⟩
  · rw [execute, hdone, Nat.zero_add]
  · rw [execute, hfail] at h
    cases h

section Readable

variable (hm : m.MapHost mounts) (hread : ∀ p s, ∃ o, m.observe p s = .ok o)
include hm hread

/-- After a pass that ended mounted, with every probe and publish succeeding, a pass with the
same inputs finds the target mounted as desired and nothing to do. -/
theorem planFor_after_mounted (unitId : String) (facts : Option ConnectionFacts)
    (policy : Option MountPolicy) (reason : String) (s : σ)
    (h : (m.run unitId facts policy reason s).1.state = .mounted) :
    (m.planFor (MountSpec.ofInputs? facts policy) policy
        (m.previous unitId (m.run unitId facts policy reason s).2)
        (m.run unitId facts policy reason s).2).1 = ⟨.mounted, []⟩ := by
  have hres := m.run_resumes hm hread unitId facts policy reason reason s
  have hall := m.run_executed_of_mounted unitId facts policy reason s h
  have hnil := hres.actions
  rw [hall, List.drop_length, run_actions] at hnil
  have hstate := hres.state hall
  rw [h, run_state] at hstate
  set P := (m.planFor (MountSpec.ofInputs? facts policy) policy
    (m.previous unitId (m.run unitId facts policy reason s).2)
    (m.run unitId facts policy reason s).2).1
  have hsettled : P.state.settled = .mounted := by
    rw [← hstate, execute, hnil]
    rfl
  obtain ⟨q, hq⟩ : ∃ q, P = (mounts (m.run unitId facts policy reason s).2).planAt
      (MountSpec.ofInputs? facts policy) (target (MountSpec.ofInputs? facts policy) policy
        (m.previous unitId (m.run unitId facts policy reason s).2)) q :=
    ⟨_, congrArg Prod.fst (m.planFor_of_readable hm hread _ policy _ _)⟩
  have hfix : P.state.settled = P.state := by
    have hnil' := hnil
    rw [hq] at hnil' ⊢
    exact plan_settled_of_actions_nil hnil'
  rcases P with ⟨state, actions⟩
  simp only at hfix hsettled hnil
  rw [hnil, ← hfix, hsettled]

end Readable

end Machine

variable {σ : Type} {m : Machine σ} {mounts : σ → MountMap}

/-- On every host whose mounts form a map and whose probe and publish succeed, whatever its mounts
and the unit's previous record: after a reconcile pass that ended mounted, the next reconcile under
the same policy with other connection facts unmounts the target and mounts the new desired mount
when the source changed, and plans nothing, staying mounted, when the source is the same, whatever
else of the connection changed. -/
theorem reconcile_after_mounted (hm : m.MapHost mounts)
    (hread : ∀ p s, ∃ o, m.observe p s = .ok o) (unitId : String)
    {facts₁ facts₂ : Option ConnectionFacts} {policy : Option MountPolicy}
    {spec₁ spec₂ : MountSpec} (h₁ : MountSpec.ofInputs? facts₁ policy = some spec₁)
    (h₂ : MountSpec.ofInputs? facts₂ policy = some spec₂) (s : σ)
    (hmounted : (m.reconcile unitId facts₁ policy s).1.state = .mounted) :
    ((m.reconcile unitId facts₂ policy (m.reconcile unitId facts₁ policy s).2).1.planned,
        (m.reconcile unitId facts₂ policy (m.reconcile unitId facts₁ policy s).2).1.actions) =
      if spec₂.source = spec₁.source then (.mounted, [])
      else (.needsRemount, [.unmount spec₂.target, .mount spec₂]) := by
  set s₁ := (m.reconcile unitId facts₁ policy s).2
  set previous := m.previous unitId s₁
  obtain ⟨p, rfl, ht₁, ho₁⟩ := MountSpec.ofInputs?_some h₁
  obtain ⟨p', hp', ht₂, ho₂⟩ := MountSpec.ofInputs?_some h₂
  obtain rfl := Option.some.inj hp'
  -- Both passes probe the policy's mountpoint, and the stale one the record names.
  have hplan : ∀ (facts : Option ConnectionFacts) (spec : MountSpec),
      MountSpec.ofInputs? facts (some p) = some spec → spec.target = p.mountpoint →
        (m.planFor (some spec) (some p) previous s₁).1 =
          plan (some spec) (some ((mounts s₁).observe p.mountpoint))
            ((stalePath (some p.mountpoint) previous).map (mounts s₁).observe) := by
    intro facts spec _ ht
    rw [m.planFor_of_readable hm hread (some spec) (some p) previous s₁, target_of_desired, ht]
    rfl
  have hfirst : plan (some spec₁) (some ((mounts s₁).observe p.mountpoint))
      ((stalePath (some p.mountpoint) previous).map (mounts s₁).observe) = ⟨.mounted, []⟩ := by
    rw [← hplan facts₁ spec₁ h₁ ht₁, ← h₁]
    exact m.planFor_after_mounted hm hread unitId facts₁ (some p) _ s hmounted
  have hsecond := plan_other_spec hfirst (ho₂.trans ho₁.symm)
  rw [← hplan facts₂ spec₂ h₂ ht₂] at hsecond
  simp only [Machine.reconcile]
  rw [Machine.run_planned, Machine.run_actions, h₂, hsecond]
  split <;> rfl

/-- The unit mounts `/data` on an empty host, then its share moves to another export path. -/
theorem reconcile_after_mounted_fakeHost :
    FakeHost.machine.MapHost FakeHost.table ∧
      (∀ p s, ∃ o, FakeHost.machine.observe p s = .ok o) ∧
      MountSpec.ofInputs? (some FakeHost.shareFacts) (some { mountpoint := "/data", options := {} }) =
        some
          { source := "10.0.0.1:6789:/export/data", target := "/data", fstype := "ceph", options := {},
            connection :=
              { name := "admin", secret := "AQBsecret==", fsid := "abc", mdsNamespace := none } } ∧
      MountSpec.ofInputs? (some { FakeHost.shareFacts with exportPath := "/moved" })
          (some { mountpoint := "/data", options := {} }) =
        some
          { source := "10.0.0.1:6789:/moved", target := "/data", fstype := "ceph", options := {},
            connection :=
              { name := "admin", secret := "AQBsecret==", fsid := "abc", mdsNamespace := none } } ∧
      (FakeHost.machine.reconcile "app/0" (some FakeHost.shareFacts)
        (some { mountpoint := "/data", options := {} }) { table := .empty }).1.state = .mounted ∧
      ((FakeHost.machine.reconcile "app/0" (some { FakeHost.shareFacts with exportPath := "/moved" })
          (some { mountpoint := "/data", options := {} })
          (FakeHost.machine.reconcile "app/0" (some FakeHost.shareFacts)
            (some { mountpoint := "/data", options := {} }) { table := .empty }).2).1.planned,
        (FakeHost.machine.reconcile "app/0" (some { FakeHost.shareFacts with exportPath := "/moved" })
          (some { mountpoint := "/data", options := {} })
          (FakeHost.machine.reconcile "app/0" (some FakeHost.shareFacts)
            (some { mountpoint := "/data", options := {} }) { table := .empty }).2).1.actions) =
        if "10.0.0.1:6789:/moved" = "10.0.0.1:6789:/export/data" then (.mounted, [])
        else (.needsRemount, [.unmount "/data", .mount
          { source := "10.0.0.1:6789:/moved", target := "/data", fstype := "ceph", options := {},
            connection :=
              { name := "admin", secret := "AQBsecret==", fsid := "abc", mdsNamespace := none } }]) :=
  have h₁ : MountSpec.ofInputs? (some FakeHost.shareFacts)
      (some { mountpoint := "/data", options := {} }) =
        some
          { source := "10.0.0.1:6789:/export/data", target := "/data", fstype := "ceph", options := {},
            connection :=
              { name := "admin", secret := "AQBsecret==", fsid := "abc", mdsNamespace := none } } := by
    decide
  have h₂ : MountSpec.ofInputs? (some { FakeHost.shareFacts with exportPath := "/moved" })
      (some { mountpoint := "/data", options := {} }) =
        some
          { source := "10.0.0.1:6789:/moved", target := "/data", fstype := "ceph", options := {},
            connection :=
              { name := "admin", secret := "AQBsecret==", fsid := "abc", mdsNamespace := none } } := by
    decide
  have hmounted : (FakeHost.machine.reconcile "app/0" (some FakeHost.shareFacts)
      (some { mountpoint := "/data", options := {} }) { table := .empty }).1.state = .mounted := by
    decide
  ⟨FakeHost.machine_mapHost, fun _ _ => ⟨_, rfl⟩, h₁, h₂, hmounted,
    reconcile_after_mounted FakeHost.machine_mapHost (fun _ _ => ⟨_, rfl⟩) "app/0" h₁ h₂
      { table := .empty } hmounted⟩

/-- A new client name alone does not replace the mount: after the unit mounted `/data` as client
`admin`, the pass wanting it as client `other` plans nothing and reports it mounted, while the
mount of client `admin` stays. -/
theorem reconcile_keeps_mount_of_other_client :
    (FakeHost.machine.reconcile "app/0" (some FakeHost.shareFacts)
        (some { mountpoint := "/data", options := {} }) { table := .empty }).1.state = .mounted ∧
      MountSpec.ofInputs? (some { FakeHost.shareFacts with authUser := "other" })
          (some { mountpoint := "/data", options := {} }) ≠
        MountSpec.ofInputs? (some FakeHost.shareFacts) (some { mountpoint := "/data", options := {} }) ∧
      (FakeHost.machine.reconcile "app/0" (some { FakeHost.shareFacts with authUser := "other" })
          (some { mountpoint := "/data", options := {} })
          (FakeHost.machine.reconcile "app/0" (some FakeHost.shareFacts)
            (some { mountpoint := "/data", options := {} }) { table := .empty }).2).1.actions = [] ∧
      (FakeHost.machine.reconcile "app/0" (some { FakeHost.shareFacts with authUser := "other" })
          (some { mountpoint := "/data", options := {} })
          (FakeHost.machine.reconcile "app/0" (some FakeHost.shareFacts)
            (some { mountpoint := "/data", options := {} }) { table := .empty }).2).1.state =
        .mounted := by
  decide

end CephMount
