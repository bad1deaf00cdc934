import CephMount.Proofs.CommandLog
import CephMount.Cli.Run

/-!
Removing the helper packages: `stop` and `remove` start the package manager only as their last
program, and exactly when their read of the host's CephFS mounts succeeded and listed none.
-/
namespace CephMount

namespace Host

namespace Packages

def removeCommand (esc : Escalation) : List String :=
  esc.commandLine "apt-get" (["-q", "-y", "remove"] ++ helpers)

theorem remove_logged {σ : Type} (sh : Shell σ) (esc : Escalation) (s : σ)
    (log : List (List String)) :
    remove sh.logged esc (s, log) =
      ((remove sh esc s).1, (remove sh esc s).2, log ++ [removeCommand esc]) := by
  unfold remove
  rw [Shell.runChecked_logged]
  rcases sh.runChecked esc "apt-get" (["-q", "-y", "remove"] ++ helpers) s with ⟨_ | out, s'⟩
  · -- Only an exit of the package manager can say that the helpers are not there.
    cases ‹Error›
    case commandExit _ _ stderr =>
      dsimp only
      split_ifs <;> rfl
    all_goals rfl
  · rfl

end Packages

end Host

namespace Cli

open Host

/-- Command lines that start the package manager only at their end, there to remove the helpers,
and that exactly when `removes` holds. -/
def RemovesLast (esc : Escalation) (removes : Prop) (cs : List (List String)) : Prop :=
  ∃ before, (∀ c ∈ before, ¬ Runs c "apt-get") ∧
    (removes ∧ cs = before ++ [Packages.removeCommand esc] ∨ ¬ removes ∧ cs = before)

theorem RemovesLast.of_not {esc : Escalation} {removes : Prop} {cs : List (List String)}
    (hcs : ∀ c ∈ cs, ¬ Runs c "apt-get") (h : ¬ removes) : RemovesLast esc removes cs :=
  ⟨cs, hcs, .inr ⟨h, rfl⟩⟩

theorem RemovesLast.of_removes {esc : Escalation} {removes : Prop} {cs : List (List String)}
    (hcs : ∀ c ∈ cs, ¬ Runs c "apt-get") (h : removes) :
    RemovesLast esc removes (cs ++ [Packages.removeCommand esc]) :=
  ⟨cs, hcs, .inl ⟨h, rfl⟩⟩

theorem RemovesLast.runs_iff {esc : Escalation} {removes : Prop} {cs : List (List String)}
    (h : RemovesLast esc removes cs) : (∃ c ∈ cs, Runs c "apt-get") ↔ removes := by
  obtain ⟨before, hbefore, ⟨hremoves, rfl⟩ | ⟨hremoves, rfl⟩⟩ := h
  · exact ⟨fun _ => hremoves, fun _ => ⟨Packages.removeCommand esc, by simp, esc, _, rfl⟩⟩
  · exact ⟨fun ⟨c, hc, hruns⟩ => absurd hruns (hbefore c hc), fun h => absurd h hremoves⟩

theorem not_runs_apt_get {c : List String} (hc : Mounter.IsCommand c) : ¬ Runs c "apt-get" :=
  Mounter.not_runs_of_isCommand hc (by simp [Mounter.programs]) (by simp)

variable {σ : Type} (sh : Shell σ) (r : Request) (a : Account) (s : σ) (log : List (List String))

theorem machine_logs : (r.machine sh.logged a).Logs (r.machine sh a) Mounter.IsCommand :=
  Shell.machine_logs sh _ _ _

/-- `stop` starts the package manager only after its teardown, to remove the helpers, and exactly
when the policy is read, the read of the CephFS mounts after the teardown lists none and the
helpers are not to be kept. -/
theorem execute_stop_logs :
    ∃ cs, execute sh.logged a r .stop (s, log) =
        ((execute sh a r .stop s).1, (execute sh a r .stop s).2, log ++ cs) ∧
      RemovesLast (r.escalationOrDefault a)
        (∃ policy, r.policy (sh.files s) = .ok policy ∧
          (r.machine sh a).cephMounts ((r.machine sh a).teardown r.unit policy s).2 = .ok [] ∧
          r.keepPackages = false) cs := by
  unfold execute
  rw [Shell.files_logged]
  rcases hpolicy : r.policy (sh.files s) with e | policy
  · -- A policy that cannot be read stops the command before anything runs.
    exact ⟨[], by simp, .of_not (by simp) (by simp)⟩
  · dsimp only
    obtain ⟨cs, hteardown, hcs⟩ := (machine_logs sh r a).teardown s log r.unit policy
    have hbefore : ∀ c ∈ cs, ¬ Runs c "apt-get" := fun c hc => not_runs_apt_get (hcs c hc)
    have hread := (r.machine sh a).teardown_removable_iff r.unit policy s
    rw [hteardown]
    rcases ht : (r.machine sh a).teardown r.unit policy s with ⟨⟨report, removable⟩, s₁⟩
    rw [ht] at hread
    dsimp only at hread ⊢
    by_cases hgo : removable = true ∧ r.keepPackages = false
    · obtain ⟨hremovable, hkeep⟩ := hgo
      have hgo : (removable && !r.keepPackages) = true := by simp [hremovable, hkeep]
      rw [if_pos hgo, if_pos hgo, Packages.remove_logged]
      refine ⟨cs ++ [Packages.removeCommand (r.escalationOrDefault a)], ?_,
        .of_removes hbefore ⟨policy, rfl, by rw [ht]; exact hread.1 hremovable, hkeep⟩⟩
      rcases Packages.remove sh (r.escalationOrDefault a) s₁ with ⟨_ | ⟨⟩, s₂⟩ <;> simp
    · have hstay : (removable && !r.keepPackages) = false :=
        Bool.eq_false_iff.2 fun h => hgo (by simpa using h)
      rw [if_neg (by simp [hstay]), if_neg (by simp [hstay])]
      refine ⟨cs, rfl, .of_not hbefore ?_⟩
      rintro ⟨p, hp, hempty, hkeep⟩
      cases hp
      rw [ht] at hempty
      exact hgo ⟨hread.2 hempty, hkeep⟩

/-- `remove` starts the package manager only after its read of the CephFS mounts, to remove the
helpers, and exactly when that read lists none. -/
theorem execute_remove_logs :
    ∃ cs, execute sh.logged a r .remove (s, log) =
        ((execute sh a r .remove s).1, (execute sh a r .remove s).2, log ++ cs) ∧
      RemovesLast (r.escalationOrDefault a) ((r.machine sh a).cephMounts s = .ok []) cs := by
  unfold execute
  dsimp only
  rw [(machine_logs sh r a).cephMounts]
  rcases hread : (r.machine sh a).cephMounts s with e | mounts
  · exact ⟨[], by simp, .of_not (by simp) (by simp)⟩
  · dsimp only
    rcases mounts with _ | ⟨entry, rest⟩
    · rw [if_pos List.isEmpty_nil, if_pos List.isEmpty_nil, Packages.remove_logged]
      refine ⟨[] ++ [Packages.removeCommand (r.escalationOrDefault a)], ?_, .of_removes (by simp) rfl⟩
      rcases Packages.remove sh (r.escalationOrDefault a) s with ⟨_ | ⟨⟩, s'⟩ <;> rfl
    · simp only [List.isEmpty_cons, Bool.false_eq_true, if_false]
      exact ⟨[], by simp, .of_not (by simp) (by simp)⟩

end Cli

/-- On a host whose mounts form a map, whose probes succeed and which lists its CephFS mounts, a
teardown whose actions all succeed leaves no CephFS mount on the configured mountpoint nor on the
recorded one, publishes a record that names no mountpoint and the state idle, shows the unit idle
as stopping, and lets the helpers go exactly when no CephFS mount is left on the host. On every
host driven through a shell, `stop` and `remove` start the package manager only as their last
program, to remove the helpers, and exactly when the read of the CephFS mounts before it
succeeded and listed none. -/
theorem teardown_clears_before_helper_removal :
    (∀ {σ : Type} (m : Machine σ) (mounts : σ → MountMap), m.MapHost mounts →
      (∀ p s, ∃ o, m.observe p s = .ok o) → m.ListsCeph mounts →
      ∀ (unitId : String) (policy : Option MountPolicy) (s : σ),
        (m.teardown unitId policy s).1.1.executed =
            (m.teardown unitId policy s).1.1.actions.length →
          TornDown mounts policy (m.previous unitId s) (m.teardown unitId policy s).1.1
            (m.teardown unitId policy s).1.2 (m.teardown unitId policy s).2) ∧
    (∀ {σ : Type} (sh : Host.Shell σ) (r : Cli.Request) (a : Cli.Account) (s : σ)
      (log : List (List String)),
      (∃ cs, Cli.execute sh.logged a r .stop (s, log) =
          ((Cli.execute sh a r .stop s).1, (Cli.execute sh a r .stop s).2, log ++ cs) ∧
        Cli.RemovesLast (r.escalationOrDefault a)
          (∃ policy, r.policy (sh.files s) = .ok policy ∧
            (r.machine sh a).cephMounts ((r.machine sh a).teardown r.unit policy s).2 = .ok [] ∧
            r.keepPackages = false) cs) ∧
      (∃ cs, Cli.execute sh.logged a r .remove (s, log) =
          ((Cli.execute sh a r .remove s).1, (Cli.execute sh a r .remove s).2, log ++ cs) ∧
        Cli.RemovesLast (r.escalationOrDefault a) ((r.machine sh a).cephMounts s = .ok []) cs)) :=
  ⟨fun m _ hm hread hlist unitId policy s hall =>
      m.teardown_tornDown hm hread hlist unitId policy s hall,
    fun sh r a s log => ⟨Cli.execute_stop_logs sh r a s log, Cli.execute_remove_logs sh r a s log⟩⟩

namespace FakeHost

def dataMount : Observation :=
  { mountpoint := "/data", mounted := true, source := "10.0.0.1:6789:/", fstype := "ceph",
    options := ["rw", "relatime"] }

/-- A host whose only mount is the CephFS mount on `/data`, with no unit records. -/
def cephOnData : FakeHost := { table := MountMap.empty.put ⟨dataMount, true⟩ }

end FakeHost

/-- Stopping a unit configured for `/data` on a host whose only mount is a CephFS mount there:
the unmount succeeds, so nothing is left on `/data` and the helpers may go. -/
theorem teardown_clears_before_helper_removal_cephOnData :
    FakeHost.machine.MapHost FakeHost.table ∧
      (∀ p s, ∃ o, FakeHost.machine.observe p s = .ok o) ∧
      FakeHost.machine.ListsCeph FakeHost.table ∧
      (FakeHost.machine.teardown "app/0" (some { mountpoint := "/data", options := {} })
          FakeHost.cephOnData).1.1.executed =
        (FakeHost.machine.teardown "app/0" (some { mountpoint := "/data", options := {} })
          FakeHost.cephOnData).1.1.actions.length ∧
      TornDown FakeHost.table (some { mountpoint := "/data", options := {} })
        (FakeHost.machine.previous "app/0" FakeHost.cephOnData)
        (FakeHost.machine.teardown "app/0" (some { mountpoint := "/data", options := {} })
          FakeHost.cephOnData).1.1
        (FakeHost.machine.teardown "app/0" (some { mountpoint := "/data", options := {} })
          FakeHost.cephOnData).1.2
        (FakeHost.machine.teardown "app/0" (some { mountpoint := "/data", options := {} })
          FakeHost.cephOnData).2 := by
  have hall : (FakeHost.machine.teardown "app/0" (some { mountpoint := "/data", options := {} })
        FakeHost.cephOnData).1.1.executed =
      (FakeHost.machine.teardown "app/0" (some { mountpoint := "/data", options := {} })
        FakeHost.cephOnData).1.1.actions.length := by
    decide +kernel
  exact ⟨FakeHost.machine_mapHost, fun _ _ => ⟨_, rfl⟩, FakeHost.machine_listsCeph, hall,
    teardown_clears_before_helper_removal.1 FakeHost.machine FakeHost.table
      FakeHost.machine_mapHost (fun _ _ => ⟨_, rfl⟩) FakeHost.machine_listsCeph "app/0" _ _ hall⟩

end CephMount
