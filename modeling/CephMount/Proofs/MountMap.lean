import CephMount.Proofs.PlanShape
import CephMount.Error
import Mathlib.Data.List.Find
import Mathlib.Data.List.Pairwise

/-!
Hosts whose mounts form a map: at most one mount on each mountpoint, changed by each successful
call as `MountMap.After` says. `Machine.MapHost` says a machine is such a host, and `FakeHost` is
one.
-/
namespace CephMount

/-- A mount on a host, and whether the unit's own mount call made it. -/
structure HostMount where
  obs : Observation
  own : Bool
  deriving DecidableEq, Repr

/-- The mounts of a host: at most one on each mountpoint. -/
structure MountMap where
  mounts : List HostMount
  one_each : mounts.Pairwise fun a b => Path.same a.obs.mountpoint b.obs.mountpoint = false

namespace MountMap

def empty : MountMap := ⟨[], .nil⟩

def at? (T : MountMap) (p : String) : Option HostMount :=
  T.mounts.find? fun h => Path.same h.obs.mountpoint p

def observe (T : MountMap) (p : String) : Observation :=
  match T.at? p with
  | some h => h.obs
  | none => Observation.unmounted p

def erase (T : MountMap) (p : String) : MountMap :=
  ⟨T.mounts.filter fun h => !Path.same h.obs.mountpoint p, T.one_each.filter _⟩

theorem not_same_of_mem_erase {T : MountMap} {p : String} {h : HostMount}
    (hh : h ∈ (T.erase p).mounts) : Path.same h.obs.mountpoint p = false := by
  simpa [erase] using (List.mem_filter.1 hh).2

/-- The mounts with `h` on its mountpoint, in place of any mount there. -/
def put (T : MountMap) (h : HostMount) : MountMap :=
  ⟨h :: (T.erase h.obs.mountpoint).mounts,
    .cons (fun b hb => by rw [Path.same_comm]; exact not_same_of_mem_erase hb)
      (T.erase h.obs.mountpoint).one_each⟩

theorem at?_congr (T : MountMap) {x y : String} (h : Path.same x y = true) :
    T.at? x = T.at? y := by
  simp only [at?, Path.same_congr_right _ h]

theorem same_of_at? {T : MountMap} {x : String} {h : HostMount} (hx : T.at? x = some h) :
    Path.same h.obs.mountpoint x = true := by
  unfold at? at hx
  simpa using List.find?_some hx

theorem mem_of_at? {T : MountMap} {x : String} {h : HostMount} (hx : T.at? x = some h) :
    h ∈ T.mounts := by
  unfold at? at hx
  exact List.mem_of_find?_eq_some hx

theorem at?_of_mem {T : MountMap} {h : HostMount} (hm : h ∈ T.mounts) {x : String}
    (hx : Path.same h.obs.mountpoint x = true) : T.at? x = some h := by
  obtain ⟨h', hfound⟩ : ∃ h', T.at? x = some h' := by
    rcases hf : T.at? x with _ | h'
    · exact absurd hx (List.find?_eq_none.1 hf h hm)
    · exact ⟨h', rfl⟩
  rw [hfound]
  -- Two mounts on paths the same as `x` are on the same path, so they are one.
  by_cases he : h' = h
  · rw [he]
  have hsame : Path.same h'.obs.mountpoint h.obs.mountpoint = true := by
    rw [Path.same_congr_right _ hx]
    exact same_of_at? hfound
  have : Std.Symm fun a b : HostMount => Path.same a.obs.mountpoint b.obs.mountpoint = false :=
    ⟨fun a b hab => (Path.same_comm _ _).trans hab⟩
  have hdiff := T.one_each.forall (mem_of_at? hfound) hm he
  rw [hsame] at hdiff
  cases hdiff

@[simp] theorem at?_erase (T : MountMap) (p x : String) :
    (T.erase p).at? x = if Path.same x p then none else T.at? x := by
  unfold at? erase
  rw [List.find?_filter]
  split_ifs with hx
  · rw [List.find?_eq_none]
    intro h _ hh
    simp only [Bool.not_eq_true', decide_eq_true_eq] at hh
    rw [Path.same_trans hh.2 hx] at hh
    cases hh.1
  · apply List.find?_congr
    intro h _
    cases hhx : Path.same h.obs.mountpoint x
    · simp
    · have hhp : Path.same h.obs.mountpoint p = false := by
        cases hp : Path.same h.obs.mountpoint p
        · rfl
        · exact absurd (Path.same_trans ((Path.same_comm _ _).trans hhx) hp) hx
      simp [hhp]

@[simp] theorem at?_put (T : MountMap) (h : HostMount) (x : String) :
    (T.put h).at? x = if Path.same x h.obs.mountpoint then some h else T.at? x := by
  have hcons : (T.put h).at? x =
      if Path.same h.obs.mountpoint x then some h else (T.erase h.obs.mountpoint).at? x := by
    unfold put at?
    rw [List.find?_cons]
    split <;> simp_all
  rw [hcons, at?_erase, Path.same_comm h.obs.mountpoint x]
  split_ifs <;> rfl

theorem observe_of_at? {T : MountMap} {x : String} {h : HostMount} (hx : T.at? x = some h) :
    T.observe x = h.obs := by
  simp [observe, hx]

theorem observe_of_at?_none {T : MountMap} {x : String} (hx : T.at? x = none) :
    T.observe x = Observation.unmounted x := by
  simp [observe, hx]

@[simp] theorem observe_erase (T : MountMap) (p x : String) :
    (T.erase p).observe x = if Path.same x p then Observation.unmounted x else T.observe x := by
  unfold observe
  rw [at?_erase]
  split_ifs <;> rfl

@[simp] theorem observe_put (T : MountMap) (h : HostMount) (x : String) :
    (T.put h).observe x = if Path.same x h.obs.mountpoint then h.obs else T.observe x := by
  unfold observe
  rw [at?_put]
  split_ifs <;> rfl

theorem observe_put_self (T : MountMap) (h : HostMount) :
    (T.put h).observe h.obs.mountpoint = h.obs := by
  simp [Path.same_refl]

theorem observe_coherent (T : MountMap) : Coherent T.observe := by
  refine ⟨fun p => ?_, fun p q h => ?_, fun p q h => ?_⟩
  · rcases hp : T.at? p with _ | m
    · rw [observe_of_at?_none hp]
      exact Path.same_refl p
    · rw [observe_of_at? hp]
      exact same_of_at? hp
  all_goals
    unfold observe
    rw [T.at?_congr h]
    split <;> rfl

theorem isCeph_of_satisfiedBy {spec : MountSpec} {o : Observation}
    (h : spec.satisfiedBy o = true) : o.isCeph = true := by
  simp only [MountSpec.satisfiedBy, Bool.and_eq_true] at h
  exact h.1.1

/-- How an action that succeeded changes a host's mounts: an unmount removes the mount on its
path; a mount puts on the desired target a mount of the unit's own that satisfies the desired
mount. -/
inductive After : MountMap → Action → MountMap → Prop
  | unmount (T : MountMap) (p : String) : After T (.unmount p) (T.erase p)
  | mount (T : MountMap) (spec : MountSpec) (o : Observation) (hp : o.mountpoint = spec.target)
      (hs : spec.satisfiedBy o = true) : After T (.mount spec) (T.put ⟨o, true⟩)

theorem After.subset_of_unmount {T T' : MountMap} {p : String}
    (h : T.After (.unmount p) T') : T'.mounts ⊆ T.mounts := by
  cases h
  exact List.filter_sublist.subset

end MountMap

namespace Machine

variable {σ : Type} (m : Machine σ)

/-- A machine whose mounts, as `mounts` shows them in each state, form a map that its probe
reads and its actions change as `MountMap.After` says, a failed action changing nothing; and
whose record store publishes every record, keeping it for the next read of its unit. -/
structure MapHost (mounts : σ → MountMap) : Prop where
  observe_ok : ∀ p s o, m.observe p s = .ok o → o = (mounts s).observe p
  perform_ok : ∀ a s, (m.perform a s).1 = .ok () → (mounts s).After a (mounts (m.perform a s).2)
  perform_error : ∀ a s e, (m.perform a s).1 = .error e → mounts (m.perform a s).2 = mounts s
  publish_ok : ∀ r s, (m.publish r s).1 = .ok ()
  read_published : ∀ r s, m.readRecord r.unitId (m.publish r s).2 = .ok (some r)
  publish_mounts : ∀ r s, mounts (m.publish r s).2 = mounts s

end Machine

/-- A host of the map model with a probe that never fails: its mounts, the unit records it
stores, and failure messages queued for the next mount and unmount calls. -/
structure FakeHost where
  table : MountMap
  records : List UnitRecord := []
  mountFailures : List String := []
  unmountFailures : List String := []

namespace FakeHost

/-- The CephFS mount a mount call makes: the desired source on the desired target, with the
desired flags, `rw` unless read-only, and `relatime`. -/
def made (spec : MountSpec) : Observation :=
  { mountpoint := spec.target, mounted := true, source := spec.source,
    fstype := MountSpec.cephType,
    options := spec.options.flags ++ (if spec.options.readOnly then [] else ["rw"]) ++
      ["relatime"] }

theorem ofKernel_made (o : MountOptions) :
    MountOptions.ofKernel (o.flags ++ (if o.readOnly then [] else ["rw"]) ++ ["relatime"]) = o := by
  rcases o with ⟨_ | _, _ | _, _ | _, _ | _⟩ <;> decide

theorem made_satisfies (spec : MountSpec) : spec.satisfiedBy (made spec) = true := by
  have hopts : (made spec).policyOptions = spec.options := ofKernel_made spec.options
  rw [MountSpec.satisfiedBy, hopts]
  simp [made, Observation.isCeph, isCephType, MountSpec.cephType]

/-- The host as a machine. A mount call takes a queued failure first; an unmount call too, and
fails when nothing is mounted on its path. -/
def machine : Machine FakeHost where
  observe p h := .ok (h.table.observe p)
  cephMounts h := .ok ((h.table.mounts.filter (·.obs.isCeph)).map fun m =>
    ⟨m.obs.source, m.obs.mountpoint, m.obs.fstype, m.obs.options⟩)
  mount spec h :=
    match h.mountFailures with
    | msg :: rest =>
      (.error (.mount spec.target (FailureKind.classify msg) msg), { h with mountFailures := rest })
    | [] => (.ok (), { h with table := h.table.put ⟨made spec, true⟩ })
  unmount p h :=
    match h.unmountFailures with
    | msg :: rest =>
      (.error (.unmount p (FailureKind.classify msg) msg), { h with unmountFailures := rest })
    | [] =>
      match h.table.at? p with
      | some _ => (.ok (), { h with table := h.table.erase p })
      | none => (.error (.unmount p .notMounted "not mounted"), h)
  readRecord u h := .ok (h.records.find? (·.unitId == u))
  readAll h := .ok h.records
  publish r h := (.ok (), { h with records := r :: h.records.filter (·.unitId != r.unitId) })

theorem machine_mapHost : machine.MapHost table := by
  refine ⟨fun p s o h => ?_, fun a s h => ?_, fun a s e h => ?_, fun _ _ => rfl,
    fun r s => ?_, fun _ _ => rfl⟩
  · simp only [machine, Except.ok.injEq] at h
    exact h.symm
  · cases a with
    | mount spec =>
      simp only [Machine.perform, machine] at h ⊢
      split at h
      · cases h
      · exact .mount _ spec _ rfl (made_satisfies spec)
    | unmount p =>
      simp only [Machine.perform, machine] at h ⊢
      split at h
      · cases h
      · split at h
        · exact .unmount _ p
        · cases h
  · cases a with
    | mount spec =>
      simp only [Machine.perform, machine] at h ⊢
      split at h
      · rfl
      · cases h
    | unmount p =>
      simp only [Machine.perform, machine] at h ⊢
      split at h
      · rfl
      · split at h
        · cases h
        · rfl
  · simp [machine]

end FakeHost

end CephMount
