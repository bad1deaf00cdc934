import CephMount.FileTree
import CephMount.Proofs.MountData
import Mathlib.Tactic.SplitIfs

/-!
Where a tree's operations act, and what they leave alone: paths resolve alike in trees with the
same directories, and a file written or removed changes only its own key.
-/
namespace CephMount

namespace FileTree

/-! ### Path text -/

theorem names_eq (path : String) :
    names path = ((path.toList.splitOn '/').map String.ofList).filter (· ≠ "") := rfl

theorem splitOn_slash_of_not_mem {ys : List Char} (hys : '/' ∉ ys) (xs : List Char) :
    (xs ++ '/' :: ys).splitOn '/' = xs.splitOn '/' ++ [ys] := by
  rw [List.splitOn_append_cons_self, List.splitOn_eq_singleton hys]

theorem names_join (dir : String) {name : String} (hslash : '/' ∉ name.toList) (hne : name ≠ "") :
    names (Path.join dir name) = names dir ++ [name] := by
  have hstart : name.startsWith "/" = false := by
    rw [String.startsWith_string_eq_false_iff]
    intro h
    exact hslash (h.subset (by simp))
  by_cases hend : dir.isEmpty || dir.endsWith "/"
  · simp only [Path.join, hstart, hend, Bool.false_eq_true, ↓reduceIte, names_eq, String.toList_append]
    rcases Bool.or_eq_true_iff.1 hend with hempty | hslash'
    · rw [String.isEmpty_iff.1 hempty]
      simp [List.splitOn_eq_singleton hslash, hne]
    · -- The directory's last piece is the empty one after its final slash.
      obtain ⟨xs, hxs⟩ : ∃ xs, dir.toList = xs ++ ['/'] := by
        rw [String.endsWith_eq_endsWith_toSlice, String.Slice.endsWith_string_iff,
          String.copy_toSlice] at hslash'
        obtain ⟨xs, hxs⟩ := hslash'
        exact ⟨xs, by simpa using hxs.symm⟩
      rw [hxs, List.append_assoc, List.singleton_append, splitOn_slash_of_not_mem hslash,
        splitOn_slash_of_not_mem (List.not_mem_nil)]
      simp [hne]
  · simp only [Path.join, hstart, Bool.false_eq_true, ↓reduceIte, hend, names_eq,
      String.toList_append]
    have hsep : "/".toList = ['/'] := rfl
    rw [hsep, List.append_assoc, List.singleton_append, splitOn_slash_of_not_mem hslash]
    simp [hne]

theorem endsWith_slash_append (x : String) {name : String} (hslash : '/' ∉ name.toList)
    (hne : name ≠ "") : (x ++ name).endsWith "/" = false := by
  rw [String.endsWith_eq_endsWith_toSlice, String.Slice.endsWith_string_eq_false_iff,
    String.copy_toSlice]
  rintro ⟨ys, hys⟩
  -- The path would end in the last character of the name, which is no slash.
  have hne' : name.toList ≠ [] := by simpa using hne
  obtain ⟨zs, c, hzs⟩ : ∃ zs c, name.toList = zs ++ [c] :=
    ⟨name.toList.dropLast, name.toList.getLast hne', (List.dropLast_append_getLast hne').symm⟩
  have hslash' : "/".toList = ['/'] := rfl
  rw [String.toList_append, hzs, ← List.append_assoc, hslash'] at hys
  obtain rfl : c = '/' := by simpa using (List.append_inj' hys rfl).2.symm
  exact hslash (by simp [hzs])

/-- A name that stands for one entry of a directory: no slash, and neither `.` nor `..`. -/
structure PlainName (name : String) : Prop where
  no_slash : '/' ∉ name.toList
  ne_empty : name ≠ ""
  ne_current : name ≠ "."
  ne_parent : name ≠ ".."

theorem PlainName.startsWith {name : String} (h : PlainName name) : name.startsWith "/" = false := by
  rw [String.startsWith_string_eq_false_iff]
  intro hpre
  exact h.no_slash (hpre.subset (by simp))

theorem trailing_join (dir : String) {name : String} (h : PlainName name) :
    trailing (Path.join dir name) = false := by
  have hend : ∀ x : String, (x ++ name).endsWith "/" = false :=
    fun x => endsWith_slash_append x h.no_slash h.ne_empty
  unfold trailing Path.join
  split_ifs with hslash hsep
  · exact absurd hslash (by simp [h.startsWith])
  · simp [hend dir]
  · simp [hend (dir ++ "/")]

theorem getLast?_names_join (dir : String) {name : String} (h : PlainName name) :
    (names (Path.join dir name)).getLast? = some name := by
  rw [names_join dir h.no_slash h.ne_empty, List.getLast?_concat]

/-! ### Walks -/

def isDirAt (t : FileTree) (k : List String) : Bool := (t.find? k).any Node.isDir

theorem enter_eq_ok {t : FileTree} {k : List String} : t.enter k = .ok () ↔ t.isDirAt k = true := by
  unfold enter isDirAt
  cases t.find? k with
  | none => exact ⟨fun h => (nomatch h), fun h => (nomatch h)⟩
  | some n =>
    cases n with
    | dir m => exact ⟨fun _ => rfl, fun _ => rfl⟩
    | file c m => exact ⟨fun h => (nomatch h), fun h => (nomatch h)⟩

theorem walk_append (t : FileTree) (acc ns ms : List String) :
    t.walk acc (ns ++ ms) = (t.walk acc ns >>= fun k => t.walk k ms) := by
  induction ns generalizing acc with
  | nil => rfl
  | cons c ns ih =>
    simp only [List.cons_append, walk]
    cases t.enter acc with
    | error e => rfl
    | ok u =>
      split_ifs
      · exact ih acc
      · exact ih (parentKey acc)
      · cases checkName c with
        | error e => rfl
        | ok u => exact ih (acc ++ [c])

theorem walk_last (t : FileTree) (acc : List String) {n : String} (hcur : n ≠ ".") (hpar : n ≠ "..") :
    t.walk acc [n] = (t.enter acc >>= fun _ => checkName n >>= fun _ => pure (acc ++ [n])) := by
  simp only [walk, hcur, hpar, ↓reduceIte]

/-- Two trees with the same directories. -/
def SameDirs (t t' : FileTree) : Prop := ∀ k, t'.isDirAt k = t.isDirAt k

theorem SameDirs.enter {t t' : FileTree} (h : SameDirs t t') {k : List String}
    (hk : t.enter k = .ok ()) : t'.enter k = .ok () := by
  rw [enter_eq_ok, h k]
  exact enter_eq_ok.1 hk

theorem SameDirs.walk {t t' : FileTree} (h : SameDirs t t') :
    ∀ {acc : List String} {ns : List String} {k : List String},
      t.walk acc ns = .ok k → t'.walk acc ns = .ok k
  | acc, [], k, hw => hw
  | acc, c :: ns, k, hw => by
    simp only [FileTree.walk] at hw ⊢
    obtain ⟨u, henter, hw⟩ := except_bind_eq_ok.1 hw
    rw [h.enter henter]
    split_ifs at hw ⊢
    · exact h.walk hw
    · exact h.walk hw
    · obtain ⟨u', hname, hw⟩ := except_bind_eq_ok.1 hw
      show (checkName c >>= fun _ => t'.walk (acc ++ [c]) ns) = _
      rw [hname]
      exact h.walk hw

theorem locate_eq_ok {t : FileTree} {path : String} {k : List String} :
    t.locate path = .ok k ↔ checkPath path = .ok () ∧ path.isEmpty = false ∧
      t.walk (start path) (names path) = .ok k ∧
      (trailing path = true → ∀ c m, t.find? k ≠ some (.file c m)) := by
  unfold locate
  cases hc : checkPath path with
  | error e => simp [bind, Except.bind]
  | ok u =>
    by_cases he : path.isEmpty = true
    · simp [he, bind, Except.bind, throw, throwThe, MonadExceptOf.throw]
    · cases hw : t.walk (start path) (names path) with
      | error e => simp [he, bind, Except.bind]
      | ok k' =>
        by_cases htr : trailing path = true
        · cases hf : t.find? k' with
          | none =>
            simp [he, htr, hf, bind, Except.bind, pure, Except.pure]
            rintro rfl
            simp [hf]
          | some n =>
            cases n with
            | file c m =>
              simp [he, htr, hf, bind, Except.bind, throw, throwThe, MonadExceptOf.throw]
              rintro rfl
              exact ⟨c, m, hf⟩
            | dir m =>
              simp [he, htr, hf, bind, Except.bind, pure, Except.pure]
              rintro rfl
              simp [hf]
        · simp [he, htr, bind, Except.bind, pure, Except.pure]

/-- A path that does not end in a slash resolves alike in a tree with the same directories. -/
theorem SameDirs.locate {t t' : FileTree} (h : SameDirs t t') {path : String}
    (htr : trailing path = false) {k : List String} (hloc : t.locate path = .ok k) :
    t'.locate path = .ok k := by
  obtain ⟨hcheck, hempty, hwalk, -⟩ := locate_eq_ok.1 hloc
  exact locate_eq_ok.2 ⟨hcheck, hempty, h.walk hwalk, fun htr' => absurd htr' (by simp [htr])⟩

theorem stat?_of_locate {t : FileTree} {path : String} {k : List String}
    (h : t.locate path = .ok k) : t.stat? path = t.find? k := by
  simp [stat?, h]

/-! ### The last step of a path -/

theorem names_empty : names "" = [] := rfl

theorem walk_concat_eq_ok {t : FileTree} {acc ns : List String} {n : String} (hcur : n ≠ ".")
    (hpar : n ≠ "..") {k : List String} :
    t.walk acc (ns ++ [n]) = .ok k ↔
      ∃ d, t.walk acc ns = .ok d ∧ t.enter d = .ok () ∧ checkName n = .ok () ∧ k = d ++ [n] := by
  rw [walk_append]
  constructor
  · intro h
    obtain ⟨d, hd, h⟩ := except_bind_eq_ok.1 h
    rw [walk_last t d hcur hpar] at h
    obtain ⟨⟨⟩, henter, h⟩ := except_bind_eq_ok.1 h
    obtain ⟨⟨⟩, hname, h⟩ := except_bind_eq_ok.1 h
    cases h
    exact ⟨d, hd, henter, hname, rfl⟩
  · rintro ⟨d, hd, henter, hname, rfl⟩
    rw [hd]
    show t.walk d [n] = _
    rw [walk_last t d hcur hpar, henter]
    show (checkName n >>= fun _ => pure (d ++ [n])) = _
    rw [hname]
    rfl

theorem lastStep_eq_name {t : FileTree} {path : String} {d : List String} {n : String} :
    t.lastStep path = .ok (d, .name n) ↔
      checkPath path = .ok () ∧ (names path).getLast? = some n ∧
        t.walk (start path) (names path).dropLast = .ok d ∧ t.enter d = .ok () ∧
        n ≠ "." ∧ n ≠ ".." ∧ checkName n = .ok () := by
  unfold lastStep
  constructor
  · intro h
    obtain ⟨⟨⟩, hcheck, h⟩ := except_bind_eq_ok.1 h
    cases hlast : (names path).getLast? with
    | none =>
      rw [hlast] at h
      dsimp only at h
      split_ifs at h
      cases h
    | some m =>
      rw [hlast] at h
      dsimp only at h
      obtain ⟨d', hwalk, h⟩ := except_bind_eq_ok.1 h
      obtain ⟨⟨⟩, henter, h⟩ := except_bind_eq_ok.1 h
      split_ifs at h with hcur hpar
      · cases h
      · cases h
      · obtain ⟨⟨⟩, hname, h⟩ := except_bind_eq_ok.1 h
        cases h
        exact ⟨hcheck, rfl, hwalk, henter, hcur, hpar, hname⟩
  · rintro ⟨hcheck, hlast, hwalk, henter, hcur, hpar, hname⟩
    simp only [hcheck, hlast, hwalk, henter, hcur, hpar, hname, bind, Except.bind, ↓reduceIte,
      pure, Except.pure]

/-- Where the last step of a path reaches a name, the path, read in full, names the entry of that
name in the directory the step reached, unless the path ends in a slash and a file stands there. -/
theorem locate_of_lastStep_of_not_file {t : FileTree} {path : String} {d : List String} {n : String}
    (h : t.lastStep path = .ok (d, .name n))
    (hnf : trailing path = true → ∀ c m, t.find? (d ++ [n]) ≠ some (.file c m)) :
    t.locate path = .ok (d ++ [n]) := by
  obtain ⟨hcheck, hlast, hwalk, henter, hcur, hpar, hname⟩ := lastStep_eq_name.1 h
  have hsplit : names path = (names path).dropLast ++ [n] :=
    (List.dropLast_append_getLast? n hlast).symm
  have hne : path.isEmpty = false := by
    cases hp : path.isEmpty
    · rfl
    · rw [String.isEmpty_iff.1 hp, names_empty] at hlast
      cases hlast
  refine locate_eq_ok.2 ⟨hcheck, hne, ?_, hnf⟩
  rw [hsplit]
  exact (walk_concat_eq_ok hcur hpar).2 ⟨d, hwalk, henter, hname, rfl⟩

theorem locate_of_lastStep {t : FileTree} {path : String} {d : List String} {n : String}
    (h : t.lastStep path = .ok (d, .name n)) (htr : trailing path = false) :
    t.locate path = .ok (d ++ [n]) :=
  locate_of_lastStep_of_not_file h fun htr' => absurd htr' (by simp [htr])

/-- Where a path's last name is neither `.` nor `..`, the key it names is the key of the
directory its last step reaches, followed by that name. -/
theorem lastStep_of_locate {t : FileTree} {path : String} {n : String}
    (hlast : (names path).getLast? = some n) (hcur : n ≠ ".") (hpar : n ≠ "..")
    {k : List String} (h : t.locate path = .ok k) :
    ∃ d, t.lastStep path = .ok (d, .name n) ∧ k = d ++ [n] := by
  obtain ⟨hcheck, -, hwalk, -⟩ := locate_eq_ok.1 h
  have hsplit : names path = (names path).dropLast ++ [n] :=
    (List.dropLast_append_getLast? n hlast).symm
  rw [hsplit] at hwalk
  obtain ⟨d, hd, henter, hname, rfl⟩ := (walk_concat_eq_ok hcur hpar).1 hwalk
  exact ⟨d, lastStep_eq_name.2 ⟨hcheck, hlast, hd, henter, hcur, hpar, hname⟩, rfl⟩

/-! ### Entries written and removed -/

section Lookup

variable {l : List (List String × Node)} {j : List String} {P : List String × Node → Bool}

theorem lookup_filter_of_pass (hP : ∀ e ∈ l, e.1 = j → P e = true) :
    (l.filter P).lookup j = l.lookup j := by
  induction l with
  | nil => rfl
  | cons e l ih =>
    obtain ⟨p, n⟩ := e
    have ih' := ih fun e he => hP e (List.mem_cons_of_mem _ he)
    by_cases hjp : j = p
    · subst hjp
      simp [hP (j, n) (List.mem_cons_self ..) rfl]
    · by_cases hpass : P (p, n) = true
      · simp [hpass, List.lookup_cons, beq_eq_false_iff_ne.2 hjp, ih']
      · simp [hpass, List.lookup_cons, beq_eq_false_iff_ne.2 hjp, ih']

theorem lookup_filter_of_fail (hP : ∀ e ∈ l, e.1 = j → P e = false) :
    (l.filter P).lookup j = none := by
  induction l with
  | nil => rfl
  | cons e l ih =>
    obtain ⟨p, n⟩ := e
    have ih' := ih fun e he => hP e (List.mem_cons_of_mem _ he)
    by_cases hjp : j = p
    · subst hjp
      simp [hP (j, n) (List.mem_cons_self ..) rfl, ih']
    · by_cases hpass : P (p, n) = true
      · simp [hpass, List.lookup_cons, beq_eq_false_iff_ne.2 hjp, ih']
      · simp [hpass, ih']

end Lookup

theorem find?_erase (t : FileTree) (k j : List String) :
    (t.erase k).find? j = if isFixed j then some (.dir dirMode) else if j = k then none else t.find? j := by
  unfold find? erase
  split_ifs with hfix hjk
  · rfl
  · subst hjk
    exact lookup_filter_of_fail fun e _ he => by simp [he]
  · exact lookup_filter_of_pass fun e _ he => by simp [he, hjk]

theorem find?_put (t : FileTree) (k : List String) (n : Node) (j : List String) :
    (t.put k n).find? j =
      if isFixed j then some (.dir dirMode) else if j = k then some n else t.find? j := by
  unfold find? put erase
  split_ifs with hfix hjk
  · rfl
  · subst hjk
    rw [List.lookup_append, lookup_filter_of_fail (fun e _ he => by simp [he])]
    simp
  · rw [List.lookup_append, lookup_filter_of_pass (fun e _ he => by simp [he, hjk])]
    simp [List.lookup_cons, beq_eq_false_iff_ne.2 hjk]

theorem isDirAt_of_isFixed {t : FileTree} {k : List String} (hk : isFixed k = true) :
    t.isDirAt k = true := by
  simp [isDirAt, find?, hk, Node.isDir]

theorem isFixed_eq_false {t : FileTree} {k : List String} (hk : t.isDirAt k = false) :
    isFixed k = false := by
  cases hfix : isFixed k
  · rfl
  · rw [isDirAt_of_isFixed hfix] at hk
    exact absurd hk (by decide)

/-- Putting a file where no directory is keeps the directories. -/
theorem sameDirs_put {t : FileTree} {k : List String} {n : Node} (hk : t.isDirAt k = false)
    (hn : n.isDir = false) : SameDirs t (t.put k n) := by
  intro j
  unfold isDirAt
  rw [find?_put]
  split_ifs with hfix hjk
  · exact (isDirAt_of_isFixed hfix).symm
  · subst hjk
    simp only [Option.any_some, hn]
    exact hk.symm
  · rfl

/-- Removing an entry that is no directory keeps the directories. -/
theorem sameDirs_erase {t : FileTree} {k : List String} (hk : t.isDirAt k = false) :
    SameDirs t (t.erase k) := by
  intro j
  unfold isDirAt
  rw [find?_erase]
  split_ifs with hfix hjk
  · exact (isDirAt_of_isFixed hfix).symm
  · subst hjk
    exact hk.symm
  · rfl

theorem isDirAt_of_file {t : FileTree} {k : List String} {c : String} {m : Nat}
    (h : t.find? k = some (.file c m)) : t.isDirAt k = false := by
  simp [isDirAt, h, Node.isDir]

theorem find?_put_self {t : FileTree} {k : List String} (hk : t.isDirAt k = false) (n : Node) :
    (t.put k n).find? k = some n := by
  rw [find?_put, isFixed_eq_false hk]
  simp

/-! ### Operations -/

theorem writeFileWith_eq_ok {t t' : FileTree} {path c : String} {mode : Nat}
    (h : t.writeFileWith path c mode = .ok t') :
    ∃ d n m, t.lastStep path = .ok (d, .name n) ∧ trailing path = false ∧
      t.isDirAt (d ++ [n]) = false ∧ t' = t.put (d ++ [n]) (.file c m) := by
  unfold writeFileWith at h
  obtain ⟨⟨d, last⟩, hstep, h⟩ := except_bind_eq_ok.1 h
  cases last with
  | name n =>
    refine ⟨d, n, ?_⟩
    dsimp only at h
    cases hf : t.find? (d ++ [n]) with
    | none =>
      rw [hf] at h
      split_ifs at h with htr
      cases h
      exact ⟨mode, hstep, by simpa using htr, by simp [isDirAt, hf], rfl⟩
    | some node =>
      rw [hf] at h
      cases node with
      | dir m => cases h
      | file c' m =>
        split_ifs at h with htr
        cases h
        exact ⟨m, hstep, by simpa using htr, isDirAt_of_file hf, rfl⟩
  | current => cases h
  | parent => cases h
  | root => cases h

theorem setMode_of_file {t : FileTree} {path : String} {k : List String} {c : String} {m' : Nat}
    (hloc : t.locate path = .ok k) (hf : t.find? k = some (.file c m')) (mode : Nat) :
    t.setMode path mode = .ok (t.put k (.file c mode)) := by
  unfold setMode
  rw [hloc]
  simp only [bind, Except.bind]
  rw [hf]
  rfl

/-- A file written at a path and then given a mode is found at that path, with its text and that
mode. -/
theorem stat?_setMode_writeFileWith {t t₁ t₂ : FileTree} {path c : String} {m₀ mode : Nat}
    (hw : t.writeFileWith path c m₀ = .ok t₁) (hs : t₁.setMode path mode = .ok t₂) :
    t₂.stat? path = some (.file c mode) := by
  obtain ⟨d, n, m, hstep, htr, hdir, rfl⟩ := writeFileWith_eq_ok hw
  have hloc : (t.put (d ++ [n]) (.file c m)).locate path = .ok (d ++ [n]) :=
    (sameDirs_put hdir rfl).locate htr (locate_of_lastStep hstep htr)
  have hfile : (t.put (d ++ [n]) (.file c m)).find? (d ++ [n]) = some (.file c m) :=
    find?_put_self hdir _
  rw [setMode_of_file hloc hfile mode] at hs
  cases hs
  -- Setting the mode put a file again where a file was.
  have hdir' := isDirAt_of_file hfile
  rw [stat?_of_locate ((sameDirs_put hdir' rfl).locate htr hloc), find?_put_self hdir']

theorem removeFile_eq_ok {t t' : FileTree} {path : String} (h : t.removeFile path = .ok t') :
    ∃ d n c m, t.lastStep path = .ok (d, .name n) ∧ trailing path = false ∧
      t.find? (d ++ [n]) = some (.file c m) ∧ t' = t.erase (d ++ [n]) := by
  unfold removeFile at h
  obtain ⟨⟨d, last⟩, hstep, h⟩ := except_bind_eq_ok.1 h
  cases last with
  | name n =>
    dsimp only at h
    cases hf : t.find? (d ++ [n]) with
    | none =>
      rw [hf] at h
      cases h
    | some node =>
      rw [hf] at h
      cases node with
      | dir m => cases h
      | file c m =>
        split_ifs at h with htr
        cases h
        exact ⟨d, n, c, m, hstep, by simpa using htr, hf, rfl⟩
  | current => cases h
  | parent => cases h
  | root => cases h

theorem removeFile_of_file {t : FileTree} {path : String} {d : List String} {n : String}
    (hstep : t.lastStep path = .ok (d, .name n)) (htr : trailing path = false) {c : String} {m : Nat}
    (hf : t.find? (d ++ [n]) = some (.file c m)) :
    t.removeFile path = .ok (t.erase (d ++ [n])) := by
  unfold removeFile
  rw [hstep]
  simp only [bind, Except.bind]
  rw [hf]
  simp [htr, pure, Except.pure]

/-- After a removal that succeeds, no file is found at the path. -/
theorem isFile_of_removeFile_ok {t t' : FileTree} {path : String} (h : t.removeFile path = .ok t') :
    t'.isFile path = false := by
  obtain ⟨d, n, c, m, hstep, htr, hf, rfl⟩ := removeFile_eq_ok h
  have hdir := isDirAt_of_file hf
  have hloc := (sameDirs_erase hdir).locate htr (locate_of_lastStep hstep htr)
  simp [isFile, stat?_of_locate hloc, find?_erase, isFixed_eq_false hdir]

/-- A removal fails only where no file is found at the path, when its last name is plain. -/
theorem isFile_of_removeFile_error {t : FileTree} {path : String} {n : String}
    (hlast : (names path).getLast? = some n) (hn : PlainName n) (htr : trailing path = false)
    {e : OsError} (h : t.removeFile path = .error e) : t.isFile path = false := by
  cases hloc : t.locate path with
  | error e' => simp [isFile, stat?, hloc]
  | ok k =>
    obtain ⟨d, hstep, rfl⟩ := lastStep_of_locate hlast hn.ne_current hn.ne_parent hloc
    cases hf : t.find? (d ++ [n]) with
    | none => simp [isFile, stat?_of_locate hloc, hf]
    | some node =>
      cases node with
      | dir m => simp [isFile, stat?_of_locate hloc, hf, Node.isDir]
      | file c m =>
        rw [removeFile_of_file hstep htr hf] at h
        cases h

theorem createDirWith_eq_ok {t t' : FileTree} {path : String} {mode : Nat}
    (h : t.createDirWith path mode = .ok t') :
    ∃ k, t.find? k = none ∧ t' = t.put k (.dir mode) := by
  unfold createDirWith at h
  obtain ⟨⟨d, last⟩, -, h⟩ := except_bind_eq_ok.1 h
  cases last with
  | name n =>
    dsimp only at h
    cases hf : t.find? (d ++ [n]) with
    | none =>
      rw [hf] at h
      cases h
      exact ⟨d ++ [n], hf, rfl⟩
    | some node =>
      rw [hf] at h
      cases h
  | current => cases h
  | parent => cases h
  | root => cases h

theorem find?_file_createDirWith {t t' : FileTree} {path : String} {mode : Nat}
    (h : t.createDirWith path mode = .ok t') (k : List String) (c : String) (m : Nat) :
    t'.find? k = some (.file c m) ↔ t.find? k = some (.file c m) := by
  obtain ⟨j, hj, rfl⟩ := createDirWith_eq_ok h
  rw [find?_put]
  split_ifs with hfix hkj
  · simp [find?, hfix]
  · subst hkj
    simp [hj]
  · rfl

theorem find?_file_createDirChain (t : FileTree) (mode : Nat) (path : String)
    (cs : List Component) (k : List String) (c : String) (m : Nat) :
    (t.createDirChain mode path cs).2.find? k = some (.file c m) ↔ t.find? k = some (.file c m) := by
  fun_induction t.createDirChain mode path cs with
  | case1 => rfl
  | case2 path comp cs t' hdir => exact find?_file_createDirWith hdir k c m
  | case3 path comp cs hnf parent e t' hrec ih =>
    rw [hrec] at ih
    exact ih
  | case4 path comp cs hnf parent t₁ hrec t₂ hdir ih =>
    rw [hrec] at ih
    exact (find?_file_createDirWith hdir k c m).trans ih
  | case5 path comp cs hnf parent t₁ hrec e hdir ih =>
    rw [hrec] at ih
    exact ih
  | case6 => rfl

end FileTree

end CephMount
