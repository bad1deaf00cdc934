import CephMount.Proofs.Teardown
import CephMount.Host.Mounter

/-!
The command lines a host is asked to start. On a logged shell everything built on shells does what
it does on the shell underneath, and the mounter starts only its own programs, each through an
escalation (`Shell.machine_logs`).
-/
namespace CephMount

/-- Run from the state `s` with the log `log`, a step ends as `plain` ends from `s`, with the same
result and the same state, and adds to the log entries that `ok` accepts. -/
def LogsOnly {α σ β : Type} (ok : β → Prop) (log : List β) (plain : α × σ)
    (logged : α × σ × List β) : Prop :=
  ∃ cs, logged = (plain.1, plain.2, log ++ cs) ∧ ∀ c ∈ cs, ok c

namespace LogsOnly

variable {α σ β : Type} {ok : β → Prop} {log : List β}

theorem of_eq {plain : α × σ} {logged : α × σ × List β}
    (h : logged = (plain.1, plain.2, log)) : LogsOnly ok log plain logged :=
  ⟨[], by simpa using h, by simp⟩

theorem append {plain : α × σ} {logged : α × σ × List β} {cs : List β}
    (h : LogsOnly ok (log ++ cs) plain logged) (hcs : ∀ c ∈ cs, ok c) :
    LogsOnly ok log plain logged := by
  obtain ⟨cs', rfl, hok⟩ := h
  refine ⟨cs ++ cs', by simp, ?_⟩
  intro c hc
  rcases List.mem_append.1 hc with hc | hc
  · exact hcs c hc
  · exact hok c hc

theorem single {plain : α × σ} {logged : α × σ × List β} {c : β}
    (h : logged = (plain.1, plain.2, log ++ [c])) (hc : ok c) : LogsOnly ok log plain logged :=
  ⟨[c], h, by simpa using hc⟩

end LogsOnly

namespace Host

/-- The command line a shell starts to run a program through an escalation: the program itself,
or the wrapper given the program. -/
def Escalation.commandLine (esc : Escalation) (program : String) (args : List String) :
    List String :=
  match esc.wrapper? with
  | none => program :: args
  | some w => w :: program :: args

def Escalation.IsWrapper (p : String) : Prop := ∃ e : Escalation, e.wrapper? = some p

@[simp] theorem Escalation.isWrapper_iff (p : String) :
    Escalation.IsWrapper p ↔ p = "pkexec" ∨ p = "sudo" := by
  constructor
  · rintro ⟨e, he⟩
    cases e <;> simp_all [Escalation.wrapper?, eq_comm]
  · rintro (rfl | rfl)
    · exact ⟨.viaPkexec, rfl⟩
    · exact ⟨.viaSudo, rfl⟩

theorem Escalation.program_eq_of_commandLine_eq {e e' : Escalation} {p q : String}
    {args args' : List String} (hp : ¬ Escalation.IsWrapper p) (hq : ¬ Escalation.IsWrapper q)
    (h : e.commandLine p args = e'.commandLine q args') : p = q := by
  simp only [isWrapper_iff, not_or] at hp hq
  cases e <;> cases e' <;>
    simp only [commandLine, wrapper?, List.cons.injEq] at h <;> simp_all

def Runs (c : List String) (program : String) : Prop :=
  ∃ (esc : Escalation) (args : List String), c = esc.commandLine program args

namespace Mounter

/-- The programs a mounter starts. -/
def programs : List String := ["mkdir", "mount", "umount", "rmdir", "systemd-detect-virt"]

def IsCommand (c : List String) : Prop := ∃ p ∈ programs, Runs c p

theorem isCommand_commandLine {p : String} (hp : p ∈ programs) (esc : Escalation)
    (args : List String) : IsCommand (esc.commandLine p args) :=
  ⟨p, hp, esc, args, rfl⟩

theorem not_runs_of_isCommand {c : List String} (hc : IsCommand c) {q : String}
    (hq : q ∉ programs) (hw : ¬ Escalation.IsWrapper q) : ¬ Runs c q := by
  rintro ⟨e', args', rfl⟩
  obtain ⟨p, hp, e, args, h⟩ := hc
  have hpw : ¬ Escalation.IsWrapper p := by
    simp only [programs, List.mem_cons, List.not_mem_nil, or_false] at hp
    rcases hp with rfl | rfl | rfl | rfl | rfl <;> simp
  exact hq (Escalation.program_eq_of_commandLine_eq hw hpw h ▸ hp)

end Mounter

namespace Shell

variable {σ : Type} (sh : Shell σ)

/-- The shell `sh` with a log of the command lines of the programs it started, in order. -/
def logged : Shell (σ × List (List String)) where
  files s := sh.files s.1
  withFiles t s := (sh.withFiles t s.1, s.2)
  exec program args s :=
    ((sh.exec program args s.1).1, (sh.exec program args s.1).2, s.2 ++ [program :: args])

variable (esc : Escalation) (s : σ) (log : List (List String))

@[simp] theorem files_logged : sh.logged.files (s, log) = sh.files s :=
  rfl

theorem run_logged (program : String) (args : List String) :
    sh.logged.run esc program args (s, log) =
      ((sh.run esc program args s).1, (sh.run esc program args s).2,
        log ++ [esc.commandLine program args]) := by
  unfold run
  rcases hw : esc.wrapper? with _ | w
  · rcases h : sh.exec program args s with ⟨_ | out, s'⟩ <;>
      simp [logged, Escalation.commandLine, hw, h]
  · rcases h : sh.exec w (program :: args) s with ⟨_ | out, s'⟩ <;>
      simp [logged, Escalation.commandLine, hw, h]

theorem runChecked_logged (program : String) (args : List String) :
    sh.logged.runChecked esc program args (s, log) =
      ((sh.runChecked esc program args s).1, (sh.runChecked esc program args s).2,
        log ++ [esc.commandLine program args]) := by
  unfold runChecked
  rw [run_logged]
  rcases sh.run esc program args s with ⟨_ | out, s'⟩
  · rfl
  · dsimp only
    split_ifs <;> rfl

theorem createDir_logged (path : String) :
    sh.logged.createDir esc path (s, log) =
      ((sh.createDir esc path s).1, (sh.createDir esc path s).2,
        log ++ [esc.commandLine "mkdir" ["-p", path]]) := by
  unfold createDir
  rw [runChecked_logged]

theorem removeDir_logged (path : String) :
    sh.logged.removeDir esc path (s, log) =
      ((sh.removeDir esc path s).1, (sh.removeDir esc path s).2,
        log ++ [esc.commandLine "rmdir" [path]]) := by
  unfold removeDir
  rw [runChecked_logged]

theorem insideContainer_logged :
    sh.logged.insideContainer (s, log) =
      ((sh.insideContainer s).1, (sh.insideContainer s).2,
        log ++ [Escalation.unwrapped.commandLine "systemd-detect-virt" ["--container"]]) := by
  unfold insideContainer
  rw [run_logged]
  rcases sh.run .unwrapped "systemd-detect-virt" ["--container"] s with ⟨_ | out, s'⟩ <;> rfl

theorem onFiles_logged (f : FileTree → Except OsError FileTree) :
    sh.logged.onFiles f (s, log) = ((sh.onFiles f s).1, (sh.onFiles f s).2, log) := by
  unfold onFiles
  rw [files_logged]
  rcases f (sh.files s) with e | t <;> rfl

theorem onFilesPartly_logged (f : FileTree → Except OsError Unit × FileTree) :
    sh.logged.onFilesPartly f (s, log) =
      ((sh.onFilesPartly f s).1, (sh.onFilesPartly f s).2, log) :=
  rfl

end Shell

namespace Mounter

variable {σ : Type} (sh : Shell σ) (mt : Mounter) (s : σ) (log : List (List String))

theorem createMountPoint_logs (path : String) :
    LogsOnly IsCommand log (createMountPoint sh mt path s)
      (createMountPoint sh.logged mt path (s, log)) := by
  unfold createMountPoint
  rw [Shell.files_logged]
  split_ifs
  · exact .of_eq rfl
  · rw [Shell.onFilesPartly_logged]
    rcases sh.onFilesPartly (·.createDirAll path) s with ⟨_ | ⟨⟩, s'⟩ <;> exact .of_eq rfl
  · rw [Shell.createDir_logged]
    exact .single rfl (isCommand_commandLine (by simp [programs]) _ _)

theorem writeSecretFile_logged (spec : MountSpec) :
    writeSecretFile sh.logged mt spec (s, log) =
      ((writeSecretFile sh mt spec s).1, (writeSecretFile sh mt spec s).2, log) := by
  unfold writeSecretFile
  rw [Shell.onFilesPartly_logged]
  rcases sh.onFilesPartly (·.createDirAllWith mt.secretDir secretDirMode) s with ⟨_ | ⟨⟩, s'⟩
  · rfl
  · extract_lets path write
    dsimp only
    rw [Shell.onFiles_logged]
    rcases sh.onFiles write s' with ⟨_ | ⟨⟩, s''⟩ <;> rfl

theorem removeSecretFile_logged (path : String) :
    removeSecretFile sh.logged path (s, log) = (removeSecretFile sh path s, log) := by
  unfold removeSecretFile
  rw [Shell.onFiles_logged]

theorem runMount_logs (spec : MountSpec) (file : String) :
    LogsOnly IsCommand log (runMount sh mt spec file s)
      (runMount sh.logged mt spec file (s, log)) := by
  have hmount : IsCommand (mt.escalation.commandLine "mount"
      ["-t", spec.fstype, spec.source, spec.target, "-o", spec.mountData file]) :=
    isCommand_commandLine (by simp [programs]) _ _
  have hdetect : IsCommand (Escalation.unwrapped.commandLine "systemd-detect-virt" ["--container"]) :=
    isCommand_commandLine (by simp [programs]) _ _
  unfold runMount
  rw [Shell.run_logged]
  refine LogsOnly.append ?_ (List.forall_mem_singleton.2 hmount)
  rcases sh.run mt.escalation "mount"
      ["-t", spec.fstype, spec.source, spec.target, "-o", spec.mountData file] s with
    ⟨_ | out, s'⟩
  · exact .of_eq rfl
  · dsimp only
    split_ifs
    · exact .of_eq rfl
    · -- A refusal of permission makes the mounter ask whether it runs in a container.
      rw [Shell.insideContainer_logged]
      rcases sh.insideContainer s' with ⟨_ | _, s''⟩ <;> exact .single rfl hdetect
    · exact .of_eq rfl

/-- A mount through a shell starts only the mounter's programs. -/
theorem mount_logs (spec : MountSpec) :
    LogsOnly IsCommand log (mount sh mt spec s) (mount sh.logged mt spec (s, log)) := by
  unfold mount
  obtain ⟨cs, hcreate, hcs⟩ := createMountPoint_logs sh mt s log spec.target
  rw [hcreate]
  refine LogsOnly.append ?_ hcs
  rcases createMountPoint sh mt spec.target s with ⟨_ | ⟨⟩, s₁⟩
  · exact .of_eq rfl
  · dsimp only
    rw [writeSecretFile_logged]
    rcases writeSecretFile sh mt spec s₁ with ⟨_ | file, s₂⟩
    · exact .of_eq rfl
    · dsimp only
      obtain ⟨cs', hrun, hcs'⟩ := runMount_logs sh mt s₂ (log ++ cs) spec file
      rw [hrun]
      rcases runMount sh mt spec file s₂ with ⟨r, s₃⟩
      dsimp only
      rw [removeSecretFile_logged]
      exact ⟨cs', rfl, hcs'⟩

theorem removeMountPoint_logs (path : String) :
    ∃ cs, removeMountPoint sh.logged mt path (s, log) = (removeMountPoint sh mt path s, log ++ cs) ∧
      ∀ c ∈ cs, IsCommand c := by
  unfold removeMountPoint
  split_ifs
  · exact ⟨[], by rw [Shell.onFiles_logged, List.append_nil], by simp⟩
  · exact ⟨[mt.escalation.commandLine "rmdir" [path]], by rw [Shell.removeDir_logged],
      List.forall_mem_singleton.2 (isCommand_commandLine (by simp [programs]) _ _)⟩

/-- An unmount through a shell starts only the mounter's programs. -/
theorem unmount_logs (path : String) :
    LogsOnly IsCommand log (unmount sh mt path s) (unmount sh.logged mt path (s, log)) := by
  have humount : IsCommand (mt.escalation.commandLine "umount" [path]) :=
    isCommand_commandLine (by simp [programs]) _ _
  unfold unmount
  rw [Shell.run_logged]
  refine LogsOnly.append ?_ (List.forall_mem_singleton.2 humount)
  rcases sh.run mt.escalation "umount" [path] s with ⟨_ | out, s'⟩
  · exact .of_eq rfl
  · dsimp only
    split_ifs
    · obtain ⟨cs, hremove, hcs⟩ :=
        removeMountPoint_logs sh mt s' (log ++ [mt.escalation.commandLine "umount" [path]]) path
      rw [hremove]
      exact ⟨cs, rfl, hcs⟩
    · exact .of_eq rfl

end Mounter

end Host

namespace Machine

variable {σ β : Type}

/-- `m'` is the machine `m` with a log beside its state: its reads and its record store are
those of `m`, and each of its actions does what the action of `m` does, adding to the log entries
that `ok` accepts. -/
structure Logs (m' : Machine (σ × List β)) (m : Machine σ) (ok : β → Prop) : Prop where
  observe : ∀ p s log, m'.observe p (s, log) = m.observe p s
  cephMounts : ∀ s log, m'.cephMounts (s, log) = m.cephMounts s
  readRecord : ∀ u s log, m'.readRecord u (s, log) = m.readRecord u s
  readAll : ∀ s log, m'.readAll (s, log) = m.readAll s
  publish : ∀ r s log, m'.publish r (s, log) = ((m.publish r s).1, (m.publish r s).2, log)
  perform : ∀ a s log, LogsOnly ok log (m.perform a s) (m'.perform a (s, log))

namespace Logs

variable {m' : Machine (σ × List β)} {m : Machine σ} {ok : β → Prop} (h : m'.Logs m ok)
include h

theorem executeFrom (planned : UnitState) (as : List Action) :
    ∀ (done : Nat) (s : σ) (log : List β),
      LogsOnly ok log (m.executeFrom planned as done s) (m'.executeFrom planned as done (s, log)) := by
  induction as with
  | nil => exact fun _ _ _ => .of_eq rfl
  | cons a rest ih =>
    intro done s log
    obtain ⟨cs, hperform, hcs⟩ := h.perform a s log
    simp only [Machine.executeFrom]
    rw [hperform]
    refine LogsOnly.append ?_ hcs
    rcases m.perform a s with ⟨_ | ⟨⟩, s'⟩
    · exact .of_eq rfl
    · exact ih (done + 1) s' (log ++ cs)

variable (s : σ) (log : List β) (unitId : String)

theorem previous : m'.previous unitId (s, log) = m.previous unitId s := by
  simp only [Machine.previous, h.readRecord]

theorem planFor (desired : Option MountSpec) (policy : Option MountPolicy)
    (previous : Option UnitRecord) :
    m'.planFor desired policy previous (s, log) = m.planFor desired policy previous s := by
  simp only [Machine.planFor, survey, h.observe]

theorem managed (desired : Option MountSpec) (previous : Option UnitRecord) (acted : Bool)
    (probed : Option (Option Observation × Option Observation)) :
    m'.managed desired previous acted probed (s, log) = m.managed desired previous acted probed s := by
  simp only [Machine.managed, reobserve, h.observe]

theorem divergent (hash : Option String) :
    m'.divergent unitId hash (s, log) = m.divergent unitId hash s := by
  simp only [Machine.divergent, h.readAll]

theorem record (r : UnitRecord) :
    m'.record unitId r (s, log) = ((m.record unitId r s).1, (m.record unitId r s).2, log) := by
  simp only [record_eq, h.previous, h.publish]

/-- A pass adds to the log only what its actions add. -/
theorem run (facts : Option ConnectionFacts) (policy : Option MountPolicy) (reason : String) :
    LogsOnly ok log (m.run unitId facts policy reason s) (m'.run unitId facts policy reason (s, log)) := by
  obtain ⟨cs, hexec, hcs⟩ := h.executeFrom
    (m.planFor (MountSpec.ofInputs? facts policy) policy (m.previous unitId s) s).1.state
    (m.planFor (MountSpec.ofInputs? facts policy) policy (m.previous unitId s) s).1.actions 0 s log
  refine ⟨cs, ?_, hcs⟩
  simp only [Machine.run, Machine.execute, h.previous, h.planFor, hexec, h.managed, h.record,
    h.divergent]

theorem teardown (policy : Option MountPolicy) :
    LogsOnly ok log (m.teardown unitId policy s) (m'.teardown unitId policy (s, log)) := by
  obtain ⟨cs, hrun, hcs⟩ := h.run s log unitId none policy Reason.stopping
  refine ⟨cs, ?_, hcs⟩
  simp only [Machine.teardown, hrun, h.cephMounts]

theorem reconcile (facts : Option ConnectionFacts) (policy : Option MountPolicy) :
    LogsOnly ok log (m.reconcile unitId facts policy s) (m'.reconcile unitId facts policy (s, log)) :=
  h.run s log unitId facts policy _

theorem status (facts : Option ConnectionFacts) (policy : Option MountPolicy) :
    m'.status unitId facts policy (s, log) = m.status unitId facts policy s := by
  simp only [Machine.status, h.previous, h.planFor]

end Logs

end Machine

namespace Host

/-- A host driven through the logged shell is the host driven through the shell, whose actions
start only the mounter's programs. -/
theorem Shell.machine_logs {σ : Type} (sh : Shell σ) (mt : Mounter) (tablePath : String)
    (store : PeerStore) :
    (sh.logged.machine mt tablePath store).Logs (sh.machine mt tablePath store) Mounter.IsCommand where
  observe _ _ _ := rfl
  cephMounts _ _ := rfl
  readRecord _ _ _ := rfl
  readAll _ _ := rfl
  publish _ _ _ := rfl
  perform a s log := by
    cases a with
    | mount spec => exact Mounter.mount_logs sh mt s log spec
    | unmount p => exact Mounter.unmount_logs sh mt s log p

end Host

end CephMount
