import CephMount.PeerStore
import CephMount.Proofs.TreeRename

/-!
The files of unit records: a record's name is one plain entry of the directory, with the
extension `json`, and it is first written under the extension `tmp`.
-/
namespace CephMount

namespace Path

theorem join_eq_append (dir : String) {name : String} (hstart : name.startsWith "/" = false) :
    join dir name = join dir "" ++ name := by
  unfold join
  have hempty : ("" : String).startsWith "/" = false := by decide
  simp only [hstart, hempty, Bool.false_eq_true, ↓reduceIte]
  split_ifs <;> simp [String.append_assoc]

theorem join_empty_cases (dir : String) :
    (join dir "").toList = [] ∨ ∃ xs, (join dir "").toList = xs ++ ['/'] := by
  unfold join
  have hempty : ("" : String).startsWith "/" = false := by decide
  simp only [hempty, Bool.false_eq_true, ↓reduceIte, String.append_empty]
  split_ifs with hend
  · rcases Bool.or_eq_true_iff.1 hend with hdir | hslash
    · exact .inl (by simpa using String.isEmpty_iff.1 hdir)
    · right
      rw [String.endsWith_eq_endsWith_toSlice, String.Slice.endsWith_string_iff,
        String.copy_toSlice] at hslash
      obtain ⟨xs, hxs⟩ := hslash
      exact ⟨xs, by simpa using hxs.symm⟩
  · exact .inr ⟨dir.toList, by simp [String.toList_append]⟩

theorem splitOn_join (dir : String) {name : String} (hslash : '/' ∉ name.toList) :
    ∃ pieces, (join dir name).toList.splitOn '/' = pieces ++ [name.toList] := by
  have hstart : name.startsWith "/" = false := by
    rw [String.startsWith_string_eq_false_iff]
    intro h
    exact hslash (h.subset (by simp))
  rw [join_eq_append dir hstart, String.toList_append]
  rcases join_empty_cases dir with hnil | ⟨xs, hxs⟩
  · exact ⟨[], by rw [hnil, List.nil_append, List.splitOn_eq_singleton hslash]; rfl⟩
  · exact ⟨xs.splitOn '/', by rw [hxs, List.append_assoc, List.singleton_append,
      FileTree.splitOn_slash_of_not_mem hslash]⟩

theorem fileNameEnd?_join (dir : String) {name : String} (hslash : '/' ∉ name.toList)
    (hne : name ≠ "") (hcur : name ≠ ".") :
    fileNameEnd? (join dir name) = if name = ".." then none else some ((join dir name).toList, name) := by
  obtain ⟨pieces, hpieces⟩ := splitOn_join dir hslash
  have hkeep : ¬(name.toList = [] ∨ name.toList = ['.']) := by
    rintro (h | h)
    · exact hne (by simpa using h)
    · exact hcur (by rw [← String.toList_inj, h]; rfl)
  -- The last piece is the name itself, so no piece is dropped from the end.
  have hkept : ((pieces ++ [name.toList]).reverse.dropWhile
      fun p => decide (p = [] ∨ p = ['.'])).reverse = pieces ++ [name.toList] := by
    rw [List.reverse_append, List.reverse_singleton, List.singleton_append,
      List.dropWhile_cons_of_neg (by simpa using hkeep), List.reverse_cons, List.reverse_reverse]
  have hsep : "/".toList = ['/'] := rfl
  unfold fileNameEnd?
  simp only [hpieces, hkept, List.getLast?_concat]
  by_cases hpar : name = ".."
  · subst hpar
    rfl
  · have hpar' : name.toList ≠ ['.', '.'] := fun h => hpar (by rw [← String.toList_inj, h]; rfl)
    rw [if_neg hpar]
    split
    · next heq => cases heq
    · next heq => exact absurd (Option.some.inj heq) hpar'
    · next last heq =>
      cases heq
      rw [← hpieces, hsep, List.intercalate_splitOn, String.ofList_toList]

theorem splitExtension_append_dot (stem ext : String) (hext : '.' ∉ ext.toList)
    (hstem : stem ≠ "") (hpar : stem ++ "." ++ ext ≠ "..") :
    splitExtension (stem ++ "." ++ ext) = (stem, some ext) := by
  have hrev : (stem ++ "." ++ ext).toList.reverse =
      ext.toList.reverse ++ '.' :: stem.toList.reverse := by
    simp [String.toList_append]
  have hpos : ∀ c ∈ ext.toList.reverse, decide (c ≠ '.') = true := by
    intro c hc
    simp only [decide_eq_true_eq]
    rintro rfl
    exact hext (List.mem_reverse.1 hc)
  have hafter : (ext.toList.reverse ++ '.' :: stem.toList.reverse).takeWhile (· ≠ '.') =
      ext.toList.reverse := by
    rw [List.takeWhile_append_of_pos hpos]
    simp
  have hbefore : (ext.toList.reverse ++ '.' :: stem.toList.reverse).drop
      (ext.toList.reverse.length + 1) = stem.toList.reverse := by
    rw [← List.drop_drop, List.drop_left]
    rfl
  have hne : stem.toList ≠ [] := by simpa using hstem
  unfold splitExtension
  simp only [hrev, hafter, hbefore]
  simp [hpar, hne]

theorem extension?_append_dot (stem ext : String) (hext : '.' ∉ ext.toList)
    (hstem : stem ≠ "") (hpar : stem ++ "." ++ ext ≠ "..") :
    extension? (stem ++ "." ++ ext) = some ext := by
  rw [extension?, splitExtension_append_dot stem ext hext hstem hpar]

end Path

namespace PeerStore

open FileTree

def recordName (unitId : String) : String := fileStem unitId ++ ".json"

def tmpName (unitId : String) : String := fileStem unitId ++ ".json.tmp"

theorem recordPath_eq (s : PeerStore) (unitId : String) :
    s.recordPath unitId = Path.join s.dir (recordName unitId) := rfl

theorem toList_fileStem (unitId : String) :
    (fileStem unitId).toList = unitId.toList.map fun c => if keepsChar c then c else '-' := by
  simp [fileStem]

theorem slash_not_mem_fileStem (unitId : String) : '/' ∉ (fileStem unitId).toList := by
  rw [toList_fileStem]
  intro h
  obtain ⟨c, -, hc⟩ := List.mem_map.1 h
  split_ifs at hc with hkeep
  · subst hc
    exact absurd hkeep (by decide)
  · exact absurd hc (by decide)

theorem fileStem_ne_empty {unitId : String} (h : unitId ≠ "") : fileStem unitId ≠ "" := by
  intro hstem
  have hlen := congrArg (fun s : String => s.toList.length) hstem
  simp only [toList_fileStem, List.length_map] at hlen
  exact h (by simpa using hlen)

theorem plainName_append {x suffix : String} (hx : '/' ∉ x.toList) (hs : '/' ∉ suffix.toList)
    (hlen : 3 ≤ suffix.length) : PlainName (x ++ suffix) := by
  have hlong : ∀ y : String, x ++ suffix = y → 3 ≤ y.toList.length := by
    rintro y rfl
    simp only [String.toList_append, List.length_append, String.length_toList]
    omega
  refine ⟨by simp [String.toList_append, hx, hs], ?_, ?_, ?_⟩
  · intro h
    exact absurd (hlong _ h) (by decide)
  · intro h
    exact absurd (hlong _ h) (by decide)
  · intro h
    exact absurd (hlong _ h) (by decide)

theorem plainName_recordName (unitId : String) : PlainName (recordName unitId) :=
  plainName_append (slash_not_mem_fileStem unitId) (by decide) (by decide)

theorem plainName_tmpName (unitId : String) : PlainName (tmpName unitId) :=
  plainName_append (slash_not_mem_fileStem unitId) (by decide) (by decide)

theorem recordName_eq_append_dot (unitId : String) :
    recordName unitId = fileStem unitId ++ "." ++ "json" := by
  rw [recordName, String.append_assoc]
  rfl

theorem tmpName_eq_append_dot (unitId : String) :
    tmpName unitId = recordName unitId ++ "." ++ "tmp" := by
  rw [tmpName, recordName, String.append_assoc, String.append_assoc]
  rfl

/-- A record's file has the extension `json`, unless the unit's identifier is empty. -/
theorem extension?_recordName {unitId : String} (h : unitId ≠ "") :
    Path.extension? (recordName unitId) = some "json" := by
  rw [recordName_eq_append_dot]
  exact Path.extension?_append_dot _ _ (by decide) (fileStem_ne_empty h)
    (recordName_eq_append_dot unitId ▸ (plainName_recordName unitId).ne_parent)

theorem extension?_tmpName (unitId : String) : Path.extension? (tmpName unitId) = some "tmp" := by
  rw [tmpName_eq_append_dot]
  exact Path.extension?_append_dot _ _ (by decide) (plainName_recordName unitId).ne_empty
    (tmpName_eq_append_dot unitId ▸ (plainName_tmpName unitId).ne_parent)

theorem tmpName_ne_recordName (u v : String) : tmpName u ≠ recordName v := by
  intro h
  have hlast := congrArg (fun s : String => s.toList.getLast?) h
  simp [tmpName, recordName, String.toList_append] at hlast

theorem fileStem_eq_of_recordName {u v : String} (h : recordName u = recordName v) :
    fileStem u = fileStem v := by
  rw [← String.toList_inj]
  have h' := congrArg String.toList h
  simp only [recordName, String.toList_append] at h'
  exact List.append_cancel_right h'

theorem fileStem_eq_dot {unitId : String} : fileStem unitId = "." ↔ unitId = "." := by
  constructor
  · intro h
    have hl := congrArg String.toList h
    rw [toList_fileStem] at hl
    obtain ⟨c, hc, hdot⟩ := List.map_eq_singleton_iff.1 hl
    have hc' : c = '.' := by
      split_ifs at hdot with hkeep
      · exact hdot
      · exact absurd hdot (by decide)
    rw [← String.toList_inj, hc, hc']
    rfl
  · rintro rfl
    rfl

theorem startsWith_fileStem {unitId : String} (h : unitId ≠ "") (x : String) :
    (fileStem unitId ++ x).startsWith "/" = false := by
  have hstem : (fileStem unitId).toList ≠ [] := by simpa using fileStem_ne_empty h
  obtain ⟨c, cs, hc⟩ := List.exists_cons_of_ne_nil hstem
  rw [String.startsWith_string_eq_false_iff]
  intro hpre
  have hc' : '/' = c := by simpa [String.toList_append, hc] using hpre
  exact slash_not_mem_fileStem unitId (by rw [hc, ← hc']; exact List.mem_cons_self ..)

theorem cut_recordPath (dir : String) {unitId : String} (h : unitId ≠ "") :
    String.ofList ((Path.join dir (recordName unitId)).toList.take
      ((Path.join dir (recordName unitId)).length - "json".length)) =
      Path.join dir (fileStem unitId ++ ".") := by
  rw [recordName, Path.join_eq_append dir (startsWith_fileStem h _),
    Path.join_eq_append dir (startsWith_fileStem h _), ← String.toList_inj, String.toList_ofList,
    ← String.length_toList]
  have hsplit : (Path.join dir "" ++ (fileStem unitId ++ ".json")).toList =
      (Path.join dir "" ++ (fileStem unitId ++ ".")).toList ++ ['j', 's', 'o', 'n'] := by
    simp [String.toList_append]
  have hlen : (Path.join dir "" ++ (fileStem unitId ++ ".json")).toList.length - "json".length =
      (Path.join dir "" ++ (fileStem unitId ++ ".")).toList.length := by
    rw [hsplit, List.length_append]
    rfl
  rw [hlen, hsplit, List.take_left]

theorem setExtension_stem_dot (dir : String) {unitId : String} (h : unitId ≠ "")
    (hcur : fileStem unitId ≠ ".") :
    Path.setExtension (Path.join dir (fileStem unitId ++ ".")) "json.tmp" =
      Path.join dir (tmpName unitId) := by
  have hstem : (fileStem unitId).toList ≠ [] := by simpa using fileStem_ne_empty h
  have hslash : '/' ∉ (fileStem unitId ++ ".").toList := by
    simp [String.toList_append, slash_not_mem_fileStem]
  have hne : fileStem unitId ++ "." ≠ "" := by
    intro hd
    have := congrArg (fun s : String => s.toList.length) hd
    simp [String.toList_append] at this
  have hdot : fileStem unitId ++ "." ≠ "." := by
    intro hd
    have h' : (fileStem unitId).toList ++ ['.'] = [] ++ ['.'] := by
      simpa [String.toList_append] using congrArg String.toList hd
    exact hstem (List.append_cancel_right h')
  have hpar : fileStem unitId ++ "." ≠ ".." := by
    intro hd
    have h' : (fileStem unitId).toList ++ ['.'] = ['.'] ++ ['.'] := by
      simpa [String.toList_append] using congrArg String.toList hd
    exact hcur (by rw [← String.toList_inj]; exact List.append_cancel_right h')
  have hempty : fileStem unitId ++ "." = fileStem unitId ++ "." ++ "" := by
    rw [String.append_empty]
  unfold Path.setExtension
  rw [Path.fileNameEnd?_join dir hslash hne hdot, if_neg hpar]
  dsimp only
  rw [hempty, Path.splitExtension_append_dot _ "" (by simp) (fileStem_ne_empty h) (hempty ▸ hpar),
    ← hempty]
  dsimp only
  rw [if_neg (by decide), tmpName, Path.join_eq_append dir (startsWith_fileStem h _),
    Path.join_eq_append dir (startsWith_fileStem h _), ← String.toList_inj]
  have hsplit : (Path.join dir "" ++ (fileStem unitId ++ ".")).toList =
      (Path.join dir "" ++ fileStem unitId).toList ++ ['.'] := by
    simp [String.toList_append]
  have hlen : (Path.join dir "" ++ (fileStem unitId ++ ".")).toList.length -
      ((fileStem unitId ++ ".").length - (fileStem unitId).length) =
      (Path.join dir "" ++ fileStem unitId).toList.length := by
    rw [hsplit, List.length_append, String.length_append, show ".".length = 1 from rfl]
    simp
  rw [hlen, hsplit, List.take_left]
  simp [String.toList_append]

/-- The temporary file of a record sits beside it under the name `<stem>.json.tmp`; for the stem
`.` the path is `<dir>/..`. -/
theorem withExtension_recordPath (s : PeerStore) {unitId : String} (h : unitId ≠ "") :
    Path.withExtension (s.recordPath unitId) "json.tmp" =
      if fileStem unitId = "." then Path.join s.dir ".." else Path.join s.dir (tmpName unitId) := by
  have hplain := plainName_recordName unitId
  unfold Path.withExtension
  rw [recordPath_eq, Path.fileNameEnd?_join s.dir hplain.no_slash hplain.ne_empty hplain.ne_current,
    if_neg hplain.ne_parent]
  dsimp only
  rw [extension?_recordName h]
  dsimp only
  rw [cut_recordPath s.dir h]
  split_ifs with hcur
  · -- The stem's dot makes the last piece `..`, which names no file, so nothing is set.
    have hpar : fileStem unitId ++ "." = ".." := by rw [hcur]; rfl
    unfold Path.setExtension
    rw [hpar, Path.fileNameEnd?_join s.dir (by decide) (by decide) (by decide), if_pos rfl]
  · exact setExtension_stem_dot s.dir h hcur

end PeerStore

end CephMount
