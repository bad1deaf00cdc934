import CephMount.Proofs.CallLog
import CephMount.Proofs.PlanShape
import CephMount.SimHost
import CephMount.Host.Mounter
import Mathlib.Tactic.Set

/-!
What a pass may do to the host. On every host whose probe reads its mount table, the calls of a
reconcile or teardown pass are safe (`CallsSafe`): a foreign filesystem on top of a path is never
unmounted or mounted over, nothing follows a mount, and a teardown never mounts.
-/
namespace CephMount

variable {σ : Type}

/-- A host whose probe reads the mount table `table` gives in each state. -/
def Machine.ProbesTable (m : Machine σ) (table : σ → Except Error (List MountEntry)) : Prop :=
  ∀ p s, m.observe p s = (table s).map (MountTable.observe · p)

theorem Host.Shell.machine_probesTable (sh : Host.Shell σ) (mt : Host.Mounter) (tablePath : String)
    (store : PeerStore) :
    (sh.machine mt tablePath store).ProbesTable
      fun s => MountTable.load tablePath ((sh.files s).readFile tablePath) :=
  fun _ _ => rfl

theorem SimHost.machine_probesTable : SimHost.machine.ProbesTable SimHost.table :=
  fun _ _ => rfl

/-- The calls one pass may make, given the mount table `table` shows in the state `s` it starts
from, its desired mount, and its report `r`. -/
structure CallsSafe (table : σ → Except Error (List MountEntry)) (s : σ)
    (desired : Option MountSpec) (r : Report) (calls : List (Action × Bool)) : Prop where
  /-- Each unmounted path showed a CephFS mount on top when the pass began. -/
  unmount_ceph : ∀ p ok, (.unmount p, ok) ∈ calls →
    ∃ es, table s = .ok es ∧ (MountTable.observe es p).isCeph = true
  /-- No path is unmounted twice. -/
  unmount_once : calls.Pairwise fun c d =>
    ∀ p q, c.1 = .unmount p → d.1 = .unmount q → Path.same p q = false
  /-- A mount is of the desired spec, at a target that was free when the pass began, or whose
  CephFS mount the pass unmounted. -/
  mount_desired : ∀ spec ok, (.mount spec, ok) ∈ calls → desired = some spec ∧
    ∃ es, table s = .ok es ∧ ((MountTable.observe es spec.target).mounted = false ∨
      ((MountTable.observe es spec.target).isCeph = true ∧ (.unmount spec.target, true) ∈ calls))
  /-- Nothing follows a mount. -/
  mount_last : calls.Pairwise fun c _ => c.1.isMount = false
  /-- The calls are the planned actions in order, each a success, up to the first failure. -/
  stops_at_failure : calls = issued r.actions r.executed
  /-- When the table cannot be read, nothing is called. -/
  unreadable : (∀ es, table s ≠ .ok es) → calls = []
  /-- A foreign filesystem on top of a path is neither unmounted nor mounted over. -/
  foreign_kept : ∀ es t, table s = .ok es → (MountTable.observe es t).mounted = true →
    (MountTable.observe es t).isCeph = false → ∀ c ∈ calls, Path.same c.1.mountpoint t = false

namespace CallsSafe

variable {table : σ → Except Error (List MountEntry)} {s : σ} {desired : Option MountSpec}
  {r : Report}

theorem of_actions_nil (h : r.actions = []) : CallsSafe table s desired r [] where
  unmount_ceph := by simp
  unmount_once := List.Pairwise.nil
  mount_desired := by simp
  mount_last := List.Pairwise.nil
  stops_at_failure := by rw [h, issued_nil]
  unreadable := fun _ => rfl
  foreign_kept := by simp

/-- The foreign filesystems are kept by any calls that unmount only CephFS mounts and mount
only on free targets or after unmounting. -/
theorem foreign_kept_of {es : List MountEntry} {calls : List (Action × Bool)}
    (hceph : ∀ p ok, (.unmount p, ok) ∈ calls → (MountTable.observe es p).isCeph = true)
    (hmount : ∀ spec ok, (.mount spec, ok) ∈ calls →
      (MountTable.observe es spec.target).mounted = false ∨
        (MountTable.observe es spec.target).isCeph = true)
    (t : String) (hmounted : (MountTable.observe es t).mounted = true)
    (hforeign : (MountTable.observe es t).isCeph = false) :
    ∀ c ∈ calls, Path.same c.1.mountpoint t = false := by
  have hcoh := MountTable.observe_coherent es
  rintro ⟨a, ok⟩ hc
  cases hsame : Path.same a.mountpoint t
  · rfl
  exfalso
  cases a with
  | mount spec =>
    -- A mount at a path the same as `t` would need `t` free or a CephFS mount.
    have hsame' : Path.same spec.target t = true := hsame
    rcases hmount spec ok hc with h | h
    · rw [hcoh.mounted_congr _ _ hsame', hmounted] at h
      cases h
    · rw [hcoh.isCeph_congr _ _ hsame', hforeign] at h
      cases h
  | unmount p =>
    have hsame' : Path.same p t = true := hsame
    have h := hceph p ok hc
    rw [hcoh.isCeph_congr _ _ hsame', hforeign] at h
    cases h

end CallsSafe

namespace Machine

variable (m : Machine σ) {table : σ → Except Error (List MountEntry)}

/-- On a host that reads its table, the calls of a pass are safe. -/
theorem run_calls_safe (hm : m.ProbesTable table) (unitId : String)
    (facts : Option ConnectionFacts) (policy : Option MountPolicy) (reason : String) (s : σ) :
    CallsSafe table s (MountSpec.ofInputs? facts policy) (m.run unitId facts policy reason s).1
      (m.recorded.run unitId facts policy reason (s, [])).2.2 := by
  rw [run_recorded, List.nil_append]
  set desired := MountSpec.ofInputs? facts policy
  set previous := m.previous unitId s
  set r := (m.run unitId facts policy reason s).1
  have hactions : r.actions = (m.planFor desired policy previous s).1.actions := rfl
  rcases htable : table s with e | es
  · -- An unreadable table fails every probe, so nothing is planned.
    have hnil : r.actions = [] := by
      rw [hactions]
      exact m.planFor_actions_of_unreadable (fun p => ⟨e, by rw [hm, htable]; rfl⟩) _ _ _
    rw [hnil, issued_nil]
    exact CallsSafe.of_actions_nil hnil
  set look := MountTable.observe es
  have hcoh : Coherent look := MountTable.observe_coherent es
  set t := target desired policy previous
  have hplan : r.actions = (plan desired (t.map look) ((stalePath t previous).map look)).actions := by
    rw [hactions]
    simp only [planFor, m.survey_eq look (fun p => by rw [hm, htable]; rfl)]
    rfl
  have hd : ∀ spec, desired = some spec → t = some spec.target := by
    intro spec h
    simp only [t, h, target_of_desired]
  have hceph : ∀ p ok, (.unmount p, ok) ∈ issued r.actions r.executed → (look p).isCeph = true :=
    fun p ok h => plan_unmount_ceph hcoh hd (hplan ▸ mem_of_mem_issued h)
  have hmount : ∀ spec ok, (.mount spec, ok) ∈ issued r.actions r.executed →
      desired = some spec ∧ ((look spec.target).mounted = false ∨
        ((look spec.target).isCeph = true ∧
          (.unmount spec.target, true) ∈ issued r.actions r.executed)) := by
    intro spec ok h
    obtain ⟨hs, hfree | ⟨hc, l, hl, hu⟩⟩ := plan_mount_desired hd (hplan ▸ mem_of_mem_issued h)
    · exact ⟨hs, .inl hfree⟩
    have hlast : (plan desired (t.map look) ((stalePath t previous).map look)).actions.Pairwise
        fun x _ => x.isMount = false :=
      plan_mount_last _ _
    rw [hl, List.pairwise_append] at hlast
    have hnot : Action.mount spec ∉ l := fun hin => by
      have := hlast.2.2 _ hin _ (List.mem_singleton_self _)
      simp [Action.isMount] at this
    exact ⟨hs, .inr ⟨hc, mem_issued_of_before
      (show r.actions = l ++ .mount spec :: [] from hplan.trans hl) hnot hu h⟩⟩
  refine ⟨fun p ok h => ⟨es, htable, hceph p ok h⟩, ?_, fun spec ok h => ⟨(hmount spec ok h).1, es,
    htable, (hmount spec ok h).2⟩, ?_, rfl, fun h => absurd htable (h es), ?_⟩
  · exact pairwise_issued (hplan ▸ plan_unmount_once hcoh hd
      (fun a b ha hb => stalePath_not_same ha hb)) _
  · exact pairwise_issued (hplan ▸ plan_mount_last _ _) _
  · intro es' t' hes'
    rw [htable, Except.ok.injEq] at hes'
    subst hes'
    exact CallsSafe.foreign_kept_of hceph
      (fun spec ok h => (hmount spec ok h).2.imp id And.left) t'

end Machine

variable (m : Machine σ) {table : σ → Except Error (List MountEntry)}

/-- On every host whose probe reads its mount table, whatever its table, the unit's previous
record and the inputs, the calls of a reconcile pass and of a teardown are safe; a teardown,
desiring nothing, never mounts. -/
theorem pass_calls_safe (hm : m.ProbesTable table) (unitId : String)
    (facts : Option ConnectionFacts) (policy : Option MountPolicy) (s : σ) :
    CallsSafe table s (MountSpec.ofInputs? facts policy) (m.reconcile unitId facts policy s).1
        (m.recorded.reconcile unitId facts policy (s, [])).2.2 ∧
      CallsSafe table s none (m.teardown unitId policy s).1.1
        (m.recorded.teardown unitId policy (s, [])).2.2 :=
  ⟨m.run_calls_safe hm unitId facts policy _ s, m.run_calls_safe hm unitId none policy _ s⟩

/-- On the simulated host with a CephFS mount and an ext4 mount in its table, a pass wanting the
CephFS mount gone and a teardown make only safe calls. -/
theorem pass_calls_safe_simHost :
    SimHost.machine.ProbesTable SimHost.table ∧
      CallsSafe SimHost.table
          (SimHost.ofLines ["10.0.0.1:6789:/ /data ceph rw 0 0", "/dev/sdb1 /srv ext4 rw 0 0"])
          (MountSpec.ofInputs? none (some { mountpoint := "/data", options := {} }))
          (SimHost.machine.reconcile "app/0" none (some { mountpoint := "/data", options := {} })
            (SimHost.ofLines ["10.0.0.1:6789:/ /data ceph rw 0 0",
              "/dev/sdb1 /srv ext4 rw 0 0"])).1
          (SimHost.machine.recorded.reconcile "app/0" none
            (some { mountpoint := "/data", options := {} })
            (SimHost.ofLines ["10.0.0.1:6789:/ /data ceph rw 0 0", "/dev/sdb1 /srv ext4 rw 0 0"],
              [])).2.2 ∧
      CallsSafe SimHost.table
          (SimHost.ofLines ["10.0.0.1:6789:/ /data ceph rw 0 0", "/dev/sdb1 /srv ext4 rw 0 0"])
          none
          (SimHost.machine.teardown "app/0" (some { mountpoint := "/srv", options := {} })
            (SimHost.ofLines ["10.0.0.1:6789:/ /data ceph rw 0 0",
              "/dev/sdb1 /srv ext4 rw 0 0"])).1.1
          (SimHost.machine.recorded.teardown "app/0" (some { mountpoint := "/srv", options := {} })
            (SimHost.ofLines ["10.0.0.1:6789:/ /data ceph rw 0 0", "/dev/sdb1 /srv ext4 rw 0 0"],
              [])).2.2 :=
  ⟨SimHost.machine_probesTable,
    (pass_calls_safe SimHost.machine SimHost.machine_probesTable "app/0" none
      (some { mountpoint := "/data", options := {} })
      (SimHost.ofLines ["10.0.0.1:6789:/ /data ceph rw 0 0", "/dev/sdb1 /srv ext4 rw 0 0"])).1,
    (pass_calls_safe SimHost.machine SimHost.machine_probesTable "app/0" none
      (some { mountpoint := "/srv", options := {} })
      (SimHost.ofLines ["10.0.0.1:6789:/ /data ceph rw 0 0", "/dev/sdb1 /srv ext4 rw 0 0"])).2⟩

end CephMount
