import CephMount.Proofs.PlanShape
import CephMount.Proofs.Fingerprint
import Mathlib.Tactic.Set

/-!
Normalised mountpoints: a validated mountpoint is the same path as the configuration, keeps what
the checks asked for, and validates to itself (`validateMountpoint_normal`).
-/

namespace CephMount

namespace Path

open List

theorem not_mem_of_mem_splitOn {α : Type} [BEq α] [LawfulBEq α] {x : α} {xs l : List α}
    (hl : l ∈ xs.splitOn x) : x ∉ l := by
  induction xs generalizing l with
  | nil =>
    rw [splitOn_nil, List.mem_singleton] at hl
    subst hl
    exact List.not_mem_nil
  | cons y ys ih =>
    rw [splitOn_cons_eq_if_modifyHead] at hl
    split at hl
    · rcases List.mem_cons.1 hl with rfl | hl
      · exact List.not_mem_nil
      · exact ih hl
    · next hy =>
      obtain ⟨h, t, ht⟩ := List.exists_cons_of_ne_nil (splitOn_ne_nil x ys)
      rw [ht, modifyHead_cons] at hl
      rcases List.mem_cons.1 hl with rfl | hl
      · rw [List.mem_cons, not_or]
        exact ⟨fun hxy => hy (by rw [hxy]; exact beq_self_eq_true y),
          ih (by rw [ht]; exact List.mem_cons_self)⟩
      · exact ih (by rw [ht]; exact List.mem_cons_of_mem _ hl)

theorem components_of_slash {s : String} {rest : List Char} (h : s.toList = '/' :: rest) :
    components s = .root :: (rest.splitOn '/').filterMap Component.ofPiece := by
  simp [components, h, splitOn_cons_eq_if_modifyHead]

theorem toList_ofComponents_root (cs : List Component) :
    (ofComponents (.root :: cs)).toList =
      '/' :: ['/'].intercalate (cs.map fun c => c.text.toList) := by
  simp [ofComponents, String.toList_intercalate, Function.comp_def]

theorem filterMap_ofPiece_texts {cs : List Component}
    (h : ∀ c ∈ cs, Component.ofPiece c.text.toList = some c) :
    (cs.map fun c => c.text.toList).filterMap Component.ofPiece = cs := by
  induction cs with
  | nil => rfl
  | cons c cs ih =>
    rw [List.map_cons, List.filterMap_cons_some (h c List.mem_cons_self),
      ih fun d hd => h d (List.mem_cons_of_mem c hd)]

theorem components_ofComponents {cs : List Component}
    (hcs : ∀ c ∈ cs, '/' ∉ c.text.toList ∧ Component.ofPiece c.text.toList = some c) :
    components (ofComponents (.root :: cs)) = .root :: cs := by
  rw [components_of_slash (toList_ofComponents_root cs)]
  congr 1
  rcases cs with _ | ⟨c, cs'⟩
  · rfl
  · have hsep : ∀ l ∈ (c :: cs').map fun c => c.text.toList, '/' ∉ l := by
      simpa using fun d hd => (hcs d hd).1
    rw [splitOn_intercalate '/' hsep (by simp)]
    exact filterMap_ofPiece_texts fun d hd => (hcs d hd).2

theorem components_tail {rest : List Char} {c : Component}
    (hc : c ∈ (rest.splitOn '/').filterMap Component.ofPiece) :
    '/' ∉ c.text.toList ∧ Component.ofPiece c.text.toList = some c := by
  obtain ⟨piece, hpiece, hof⟩ := List.mem_filterMap.1 hc
  rw [ofPiece_text hof]
  exact ⟨not_mem_of_mem_splitOn hpiece, hof⟩

theorem current_not_mem_components {s : String} {rest : List Char} (h : s.toList = '/' :: rest) :
    Component.current ∉ components s := by
  rw [components_of_slash h, List.mem_cons, not_or]
  refine ⟨by simp, fun hc => ?_⟩
  -- The current directory's text is `.`, which names nothing.
  have hof := (components_tail hc).2
  simp [Component.text, Component.ofPiece] at hof

end Path

/-- The checks on a mountpoint pass exactly when it opens with a slash, holds no blank or
control character and no `..` component, and its text rebuilt from its components is not the
root alone; that text is the result. -/
theorem validateMountpoint_eq_ok_iff {raw p : String} :
    validateMountpoint raw = .ok p ↔
      (∃ rest, raw.toList = '/' :: rest) ∧
        (∀ c ∈ raw.toList, Text.isBlank c = false ∧ Text.isControl c = false) ∧
        Component.parent ∉ Path.components raw ∧
        p = Path.ofComponents (Path.components raw) ∧ p ≠ "/" := by
  have hfilter : ∀ rest, raw.toList = '/' :: rest →
      (Path.components raw).filter (· != .current) = Path.components raw := fun rest h =>
    List.filter_eq_self.2 fun c hc => by
      simpa using fun he : c = .current => Path.current_not_mem_components h (he ▸ hc)
  unfold validateMountpoint
  dsimp only
  constructor
  · intro h
    split_ifs at h with h1 h2 h3 h4 h5
    cases h
    simp only [bne_iff_ne, ne_eq, Decidable.not_not] at h2
    obtain ⟨rest, hrest⟩ := List.head?_eq_some_iff.1 h2
    rw [hfilter rest hrest] at h5 ⊢
    refine ⟨⟨rest, hrest⟩, fun c hc => ?_, by simpa using h4, rfl, h5⟩
    have hc' := List.any_eq_false.1 (Bool.eq_false_iff.2 h3) c hc
    simpa using hc'
  · rintro ⟨⟨rest, hrest⟩, hchars, hpar, rfl, hroot⟩
    have h1 : raw.isEmpty = false := by simp [← String.toList_inj, hrest]
    have h3 : (raw.toList.any fun c => Text.isBlank c || Text.isControl c) = false :=
      List.any_eq_false.2 fun c hc => by simp [(hchars c hc).1, (hchars c hc).2]
    rw [hfilter rest hrest, if_neg (by simp [h1]), if_neg (by simp [hrest]), if_neg (by simp [h3]),
      if_neg (by simpa using hpar), if_neg hroot]

theorem MountTable.observe_of_same (entries : List MountEntry) {x y : String}
    (h : Path.same x y = true) :
    MountTable.observe entries x = MountTable.observe entries y ∨
      ((MountTable.observe entries x).mounted = false ∧
        (MountTable.observe entries y).mounted = false) := by
  unfold MountTable.observe
  simp only [Path.same_congr_right _ h]
  split
  · exact .inl rfl
  · exact .inr ⟨rfl, rfl⟩

/-- What checking the configured mountpoint `raw` guarantees of its result `p`. -/
structure NormalMountpoint (raw p : String) : Prop where
  opens_with_slash : p.toList.head? = some '/'
  not_root : p ≠ "/"
  no_blank_or_control : ∀ c ∈ p.toList, Text.isBlank c = false ∧ Text.isControl c = false
  no_parent : Component.parent ∉ Path.components p
  /-- The result is the configured path, component by component. -/
  same : Path.same p raw = true
  /-- Probing either text finds the same mount, or nothing at both. -/
  probes_agree : ∀ entries, MountTable.observe entries p = MountTable.observe entries raw ∨
    ((MountTable.observe entries p).mounted = false ∧
      (MountTable.observe entries raw).mounted = false)
  /-- Checking the result again gives it back. -/
  idempotent : validateMountpoint p = .ok p

/-- A mountpoint that passes the checks comes back as a text that opens with a slash, is not the
root alone, holds no blank or control character and no `..` component; it is the same path as
the one configured, so probing either finds the same mount; and it passes the checks again,
unchanged. -/
theorem validateMountpoint_normal {raw p : String} (h : validateMountpoint raw = .ok p) :
    NormalMountpoint raw p := by
  obtain ⟨⟨rest, hraw⟩, -, hpar, hp, hroot⟩ := validateMountpoint_eq_ok_iff.1 h
  have hcomp := Path.components_of_slash hraw
  set cs := (rest.splitOn '/').filterMap Component.ofPiece
  have hsame : Path.components p = Path.components raw := by
    rw [hp, hcomp]
    exact Path.components_ofComponents fun c hc => Path.components_tail hc
  have htext : p.toList = '/' :: ['/'].intercalate (cs.map fun c => c.text.toList) := by
    rw [hp, hcomp]
    exact Path.toList_ofComponents_root cs
  have hpchars : ∀ c ∈ p.toList, Text.isBlank c = false ∧ Text.isControl c = false :=
    fun c hc => (validateMountpoint_chars h c hc).2
  have hsamePath : Path.same p raw = true := Path.same_iff.2 hsame
  refine ⟨by simp [htext], hroot, hpchars, hsame ▸ hpar, hsamePath,
    fun entries => MountTable.observe_of_same entries hsamePath, ?_⟩
  exact validateMountpoint_eq_ok_iff.2
    ⟨⟨_, htext⟩, hpchars, hsame ▸ hpar, by rw [hsame]; exact hp, hroot⟩

/-- Repeated and trailing slashes and a `.` inside are dropped: `/srv//./share/` is
`/srv/share`. -/
theorem validateMountpoint_normal_share :
    validateMountpoint "/srv//./share/" = .ok "/srv/share" ∧
      NormalMountpoint "/srv//./share/" "/srv/share" :=
  ⟨by rfl, validateMountpoint_normal (by rfl)⟩

end CephMount
