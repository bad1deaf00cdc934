import CephMount.Proofs.TreeFrame

/-!
Moving entries, and trees kept as the system keeps them (`WellFormed`): renames move one entry,
and a directory is made empty where nothing was.
-/
namespace CephMount

namespace FileTree

/-! ### Path text -/

theorem start_join (dir : String) {name : String} (hstart : name.startsWith "/" = false) :
    start (Path.join dir name) = start dir := by
  by_cases hempty : dir.isEmpty
  · have hdir : dir = "" := String.isEmpty_iff.1 hempty
    subst hdir
    simp [Path.join, start, hstart]
  · have hne : dir.toList ≠ [] := by simpa [String.isEmpty_iff] using hempty
    have hhead : ∀ ys : List Char, (['/'] <+: dir.toList ++ ys ↔ ['/'] <+: dir.toList) := by
      intro ys
      obtain ⟨c, cs, hc⟩ := List.exists_cons_of_ne_nil hne
      simp [hc]
    have hslash : "/".toList = ['/'] := rfl
    unfold start
    by_cases hend : dir.endsWith "/"
    · simp only [Path.join, hstart, hempty, hend, Bool.false_eq_true, ↓reduceIte, Bool.or_true]
      congr 1
      apply propext
      rw [String.startsWith_string_iff, String.startsWith_string_iff, hslash, String.toList_append]
      exact hhead _
    · simp only [Path.join, hstart, hempty, hend, Bool.false_eq_true, ↓reduceIte, Bool.or_false]
      congr 1
      apply propext
      rw [String.startsWith_string_iff, String.startsWith_string_iff, hslash, String.toList_append,
        String.toList_append, List.append_assoc]
      exact hhead _

theorem join_ne_empty (dir : String) {name : String} (h : PlainName name) :
    (Path.join dir name).isEmpty = false := by
  unfold Path.join
  split_ifs <;> simp [h.ne_empty]

/-! ### Walks -/

theorem SameDirs.refl (t : FileTree) : SameDirs t t := fun _ => rfl

theorem SameDirs.symm {t t' : FileTree} (h : SameDirs t t') : SameDirs t' t := fun k => (h k).symm

theorem SameDirs.trans {t t' t'' : FileTree} (h : SameDirs t t') (h' : SameDirs t' t'') :
    SameDirs t t'' := fun k => (h' k).trans (h k)

theorem walk_of_locate {t : FileTree} {path : String} {k : List String}
    (h : t.locate path = .ok k) : t.walk (start path) (names path) = .ok k :=
  (locate_eq_ok.1 h).2.2.1

theorem SameDirs.locate_eq {t t' : FileTree} (h : SameDirs t t') {path : String} {k : List String}
    (hloc : t.locate path = .ok k) (hk : t.isDirAt k = true) : t'.locate path = .ok k := by
  obtain ⟨hcheck, hempty, hwalk, -⟩ := locate_eq_ok.1 hloc
  refine locate_eq_ok.2 ⟨hcheck, hempty, h.walk hwalk, fun _ c m hf => ?_⟩
  -- The key is a directory in the new tree too, so no file stands there.
  have hk' := h k
  rw [hk, isDirAt, hf] at hk'
  simp [Node.isDir] at hk'

/-- A plain name inside a directory resolves to the directory's key and the name. -/
theorem locate_join {t : FileTree} {dir : String} {kd : List String} (hdir : t.locate dir = .ok kd)
    (hkd : t.isDirAt kd = true) {name : String} (h : PlainName name) :
    t.locate (Path.join dir name) =
      (checkPath (Path.join dir name) >>= fun _ => checkName name >>= fun _ => pure (kd ++ [name])) := by
  unfold locate
  rw [join_ne_empty dir h, start_join dir h.startsWith, names_join dir h.no_slash h.ne_empty,
    walk_append, walk_of_locate hdir, trailing_join dir h]
  cases checkPath (Path.join dir name) with
  | error e => rfl
  | ok u =>
    show (t.walk kd [name] >>= fun k => pure k) = _
    rw [walk_last t kd h.ne_current h.ne_parent, enter_eq_ok.2 hkd]
    cases checkName name with
    | error e => rfl
    | ok u => rfl

/-- The last step of a plain name inside a directory starts from the directory's key. -/
theorem lastStep_join {t : FileTree} {dir : String} {kd : List String} (hdir : t.locate dir = .ok kd)
    (hkd : t.isDirAt kd = true) {name : String} (h : PlainName name) :
    t.lastStep (Path.join dir name) =
      (checkPath (Path.join dir name) >>= fun _ => checkName name >>= fun _ => pure (kd, .name name)) := by
  unfold lastStep
  rw [start_join dir h.startsWith, names_join dir h.no_slash h.ne_empty, List.getLast?_concat,
    List.dropLast_concat, walk_of_locate hdir]
  cases checkPath (Path.join dir name) with
  | error e => rfl
  | ok u =>
    show (t.enter kd >>= fun _ => _) = _
    rw [enter_eq_ok.2 hkd]
    simp only [h.ne_current, h.ne_parent, ↓reduceIte]

/-! ### Well-formed trees -/

/-- Every entry of the tree sits inside directories. -/
def WellFormed (t : FileTree) : Prop :=
  ∀ e ∈ t.nodes, ∀ i < e.1.length, t.isDirAt (e.1.take i) = true

/-- Every directory of one tree is a directory of the other. -/
def DirsGrow (t t' : FileTree) : Prop := ∀ k, t.isDirAt k = true → t'.isDirAt k = true

theorem SameDirs.dirsGrow {t t' : FileTree} (h : SameDirs t t') : DirsGrow t t' :=
  fun k hk => (h k).trans hk

theorem mem_nodes_put {t : FileTree} {k : List String} {n : Node} {e : List String × Node} :
    e ∈ (t.put k n).nodes ↔ e ∈ t.nodes ∧ e.1 ≠ k ∨ e = (k, n) := by
  simp [FileTree.put, erase]

/-- An entry put inside directories keeps a tree well-formed, as long as no directory goes. -/
theorem WellFormed.put_of_dirsGrow {t : FileTree} (hwf : t.WellFormed) {k : List String} {n : Node}
    (hgrow : DirsGrow t (t.put k n)) (hup : ∀ i < k.length, t.isDirAt (k.take i) = true) :
    (t.put k n).WellFormed := by
  intro e he i hi
  apply hgrow
  rcases mem_nodes_put.1 he with ⟨he, -⟩ | rfl
  · exact hwf e he i hi
  · exact hup i hi

theorem WellFormed.put {t : FileTree} (hwf : t.WellFormed) {k : List String} {n : Node}
    (hk : t.isDirAt k = false) (hn : n.isDir = false)
    (hup : ∀ i < k.length, t.isDirAt (k.take i) = true) : (t.put k n).WellFormed :=
  hwf.put_of_dirsGrow (sameDirs_put hk hn).dirsGrow hup

theorem WellFormed.eq_of_prefix {t : FileTree} (hwf : t.WellFormed) {k : List String}
    (hk : t.isDirAt k = false) {e : List String × Node} (he : e ∈ t.nodes) (hpre : k <+: e.1) :
    e.1 = k := by
  obtain ⟨rest, hrest⟩ := hpre
  cases rest with
  | nil => simpa using hrest.symm
  | cons r rest =>
    have hlt : k.length < e.1.length := by rw [← hrest]; simp
    have hdir := hwf e he k.length hlt
    rw [← hrest, List.take_left] at hdir
    rw [hk] at hdir
    exact absurd hdir (by decide)

theorem isFixed_take {k : List String} (hk : isFixed k = true) (i : Nat) :
    isFixed (k.take i) = true := by
  unfold isFixed at hk ⊢
  rcases Bool.or_eq_true_iff.1 hk with hall | hroot
  · rw [List.all_eq_true] at hall
    simp only [Bool.or_eq_true, List.all_eq_true]
    exact .inl fun x hx => hall x (List.mem_of_mem_take hx)
  · have hroot' : k = ["/"] := by simpa using hroot
    subst hroot'
    cases i with
    | zero => rfl
    | succ i => simp

theorem WellFormed.dirs_above {t : FileTree} (hwf : t.WellFormed) {k : List String}
    (hk : t.isDirAt k = true) : ∀ i ≤ k.length, t.isDirAt (k.take i) = true := by
  intro i hi
  cases hfix : isFixed k
  · obtain ⟨n, hn, hdir⟩ : ∃ n, t.nodes.lookup k = some n ∧ n.isDir = true := by
      unfold isDirAt find? at hk
      rw [hfix] at hk
      cases hl : t.nodes.lookup k with
      | none => simp [hl] at hk
      | some n => exact ⟨n, rfl, by simpa [hl] using hk⟩
    have hmem : (k, n) ∈ t.nodes := by
      obtain ⟨l₁, l₂, hl, -⟩ := List.lookup_eq_some_iff.1 hn
      simp [hl]
    rcases Nat.lt_or_eq_of_le hi with hlt | rfl
    · exact hwf (k, n) hmem i hlt
    · rw [List.take_length]
      exact hk
  · exact isDirAt_of_isFixed (isFixed_take hfix i)

theorem WellFormed.dirs_above_child {t : FileTree} (hwf : t.WellFormed) {k : List String}
    (hk : t.isDirAt k = true) (n : String) :
    ∀ i < (k ++ [n]).length, t.isDirAt ((k ++ [n]).take i) = true := by
  intro i hi
  have hle : i ≤ k.length := by simpa using Nat.le_of_lt_succ (by simpa using hi)
  rw [List.take_append_of_le_length hle]
  exact hwf.dirs_above hk i hle

/-! ### Moving an entry -/

section Move

variable {t : FileTree} {ks kd : List String}

theorem lookup_rekey (l : List (List String × Node)) (ks kd j : List String) :
    ((l.filter (·.1 == ks)).map fun e => (kd, e.2)).lookup j =
      if j = kd then l.lookup ks else none := by
  induction l with
  | nil => split_ifs <;> rfl
  | cons e l ih =>
    obtain ⟨p, n⟩ := e
    by_cases hp : p = ks
    · subst hp
      by_cases hjk : j = kd
      · subst hjk
        simp
      · simp [hjk]
    · simp [hp, List.lookup_cons, beq_eq_false_iff_ne.2 (Ne.symm hp), ih]

theorem filterMap_rekey (l : List (List String × Node)) (ks kd : List String) :
    l.filterMap (fun e => if e.1 == ks then some (kd, e.2) else none) =
      (l.filter (·.1 == ks)).map fun e => (kd, e.2) := by
  induction l with
  | nil => rfl
  | cons e l ih =>
    rw [List.filterMap_cons, List.filter_cons]
    by_cases he : e.1 == ks
    · simp only [he, ↓reduceIte, ih, List.map_cons]
    · simp only [he, Bool.false_eq_true, ↓reduceIte, ih]

theorem nodes_move (hwf : t.WellFormed) (hks : t.isDirAt ks = false) (hkd : t.isDirAt kd = false)
    (hne : ks ≠ kd) :
    (t.move ks kd).nodes = t.nodes.filter (fun e => e.1 != ks && e.1 != kd) ++
      (t.nodes.filter (·.1 == ks)).map fun e => (kd, e.2) := by
  -- A key that starts with either key is that key: nothing is stored below them.
  have hbelow : ∀ e ∈ t.nodes, ∀ k, t.isDirAt k = false → k.isPrefixOf e.1 = (e.1 == k) := by
    intro e he k hk
    apply Bool.eq_iff_iff.2
    rw [List.isPrefixOf_iff_prefix, beq_iff_eq]
    exact ⟨hwf.eq_of_prefix hk he, fun h => h ▸ List.prefix_refl _⟩
  simp only [move, if_neg hne]
  congr 1
  · apply List.filter_congr
    intro e he
    obtain ⟨p, n⟩ := e
    simp only
    rw [hbelow (p, n) he ks hks, hbelow (p, n) he kd hkd]
    simp [bne]
  · calc List.filterMap _ t.nodes
        = t.nodes.filterMap (fun e => if e.1 == ks then some (kd, e.2) else none) := by
          apply List.filterMap_congr
          intro e he
          obtain ⟨p, n⟩ := e
          simp only
          rw [hbelow (p, n) he ks hks]
          by_cases hp : p = ks
          · subst hp
            simp
          · simp [hp]
      _ = _ := filterMap_rekey t.nodes ks kd

theorem find?_move (hwf : t.WellFormed) (hks : t.isDirAt ks = false) (hkd : t.isDirAt kd = false)
    (hne : ks ≠ kd) (j : List String) :
    (t.move ks kd).find? j = if j = kd then t.find? ks else if j = ks then none else t.find? j := by
  have hfks := isFixed_eq_false hks
  have hfkd := isFixed_eq_false hkd
  unfold find?
  rw [nodes_move hwf hks hkd hne, List.lookup_append, lookup_rekey]
  by_cases hfix : isFixed j = true
  · have hjks : j ≠ ks := fun h => by rw [h, hfks] at hfix; exact absurd hfix (by decide)
    have hjkd : j ≠ kd := fun h => by rw [h, hfkd] at hfix; exact absurd hfix (by decide)
    simp [hfix, hjks, hjkd]
  · simp only [hfix, Bool.false_eq_true, ↓reduceIte, hfks]
    by_cases hjkd : j = kd
    · subst hjkd
      rw [lookup_filter_of_fail (fun e _ he => by simp [he])]
      simp
    · by_cases hjks : j = ks
      · subst hjks
        rw [lookup_filter_of_fail (fun e _ he => by simp [he])]
        simp [hjkd]
      · rw [lookup_filter_of_pass (fun e _ he => by simp [he, hjks, hjkd])]
        simp [hjkd, hjks]

theorem sameDirs_move (hwf : t.WellFormed) (hks : t.isDirAt ks = false)
    (hkd : t.isDirAt kd = false) (hne : ks ≠ kd) : SameDirs t (t.move ks kd) := by
  intro j
  unfold isDirAt
  rw [find?_move hwf hks hkd hne]
  split_ifs with hjkd hjks
  · subst hjkd
    exact hks.trans hkd.symm
  · subst hjks
    exact hks.symm
  · rfl

theorem WellFormed.move (hwf : t.WellFormed) (hks : t.isDirAt ks = false)
    (hkd : t.isDirAt kd = false) (hne : ks ≠ kd)
    (hup : ∀ i < kd.length, t.isDirAt (kd.take i) = true) : (t.move ks kd).WellFormed := by
  intro e he i hi
  rw [sameDirs_move hwf hks hkd hne]
  rw [nodes_move hwf hks hkd hne, List.mem_append] at he
  rcases he with he | he
  · exact hwf e (List.mem_filter.1 he).1 i hi
  · obtain ⟨e', -, rfl⟩ := List.mem_map.1 he
    exact hup i hi

end Move

/-! ### Operations -/

/-- A rename that succeeds moves the source's entry to the target's key; a file never replaces a
directory. -/
theorem rename_eq_ok {t t' : FileTree} {src dst : String} (h : t.rename src dst = .ok t') :
    ∃ sd a dd b n, t.lastStep src = .ok (sd, .name a) ∧ t.lastStep dst = .ok (dd, .name b) ∧
      t.find? (sd ++ [a]) = some n ∧ (n.isDir = false → t.isDirAt (dd ++ [b]) = false) ∧
      t' = t.move (sd ++ [a]) (dd ++ [b]) := by
  unfold rename at h
  obtain ⟨⟨sd, slast⟩, hs, h⟩ := except_bind_eq_ok.1 h
  dsimp only at h
  obtain ⟨⟨dd, dlast⟩, hd, h⟩ := except_bind_eq_ok.1 h
  dsimp only at h
  obtain ⟨a, rfl⟩ : ∃ a, slast = .name a := by
    cases slast with
    | name a => exact ⟨a, rfl⟩
    | _ => cases dlast <;> cases h
  obtain ⟨b, rfl⟩ : ∃ b, dlast = .name b := by
    cases dlast with
    | name b => exact ⟨b, rfl⟩
    | _ => cases h
  dsimp only at h
  cases hf : t.find? (sd ++ [a]) with
  | none =>
    rw [hf] at h
    cases h
  | some n =>
    rw [hf] at h
    refine ⟨sd, a, dd, b, n, hs, hd, hf, ?_⟩
    dsimp only [bind, Except.bind, pure, Except.pure] at h
    by_cases hcond : (!n.isDir && (trailing src || trailing dst)) = true
    · rw [if_pos hcond] at h
      cases h
    rw [if_neg hcond] at h
    cases n with
    | file c m =>
      cases hk : t.find? (dd ++ [b]) with
      | none =>
        rw [hk] at h
        cases h
        exact ⟨fun _ => by simp [isDirAt, hk], rfl⟩
      | some node =>
        rw [hk] at h
        cases node with
        | dir m' => cases h
        | file c' m' =>
          cases h
          exact ⟨fun _ => by simp [isDirAt, hk, Node.isDir], rfl⟩
    | dir m =>
      refine ⟨fun hn => absurd hn (by simp [Node.isDir]), ?_⟩
      -- A directory moves onto nothing or onto a directory; the guards only refuse.
      cases hk : t.find? (dd ++ [b]) with
      | none =>
        simp only [hk] at h
        split_ifs at h
        cases h
        rfl
      | some node =>
        cases node with
        | dir m' =>
          simp only [hk] at h
          split_ifs at h
          cases h
          rfl
        | file c' m' =>
          rw [hk] at h
          cases h

theorem rename_of_file {t : FileTree} {src dst : String} {sd dd : List String} {a b : String}
    (hs : t.lastStep src = .ok (sd, .name a)) (hd : t.lastStep dst = .ok (dd, .name b))
    (hstr : trailing src = false) (hdtr : trailing dst = false) {c : String} {m : Nat}
    (hf : t.find? (sd ++ [a]) = some (.file c m)) (hnd : t.isDirAt (dd ++ [b]) = false) :
    t.rename src dst = .ok (t.move (sd ++ [a]) (dd ++ [b])) := by
  unfold rename
  rw [hs, hd]
  simp only [bind, Except.bind, hf, hstr, hdtr]
  cases hk : t.find? (dd ++ [b]) with
  | none => rfl
  | some node =>
    cases node with
    | dir m' => simp [isDirAt, hk, Node.isDir] at hnd
    | file c' m' => rfl

theorem find?_put_of_ne (t : FileTree) {k j : List String} (hjk : j ≠ k) (n : Node) :
    (t.put k n).find? j = t.find? j := by
  rw [find?_put, if_neg hjk]
  split_ifs with hfix
  · simp [find?, hfix]
  · rfl

theorem readFile_of_file {t : FileTree} {path : String} {k : List String} {c : String} {m : Nat}
    (hloc : t.locate path = .ok k) (hf : t.find? k = some (.file c m)) : t.readFile path = .ok c := by
  simp only [readFile, hloc, hf, bind, Except.bind]
  rfl

theorem readFile_of_none {t : FileTree} {path : String} {k : List String}
    (hloc : t.locate path = .ok k) (hf : t.find? k = none) : t.readFile path = .error .notFound := by
  simp only [readFile, hloc, hf, bind, Except.bind]
  rfl

theorem readDir_of_isDirAt {t : FileTree} {path : String} {k : List String}
    (hloc : t.locate path = .ok k) (hk : t.isDirAt k = true) :
    t.readDir path = .ok (t.childNames k) := by
  obtain ⟨m, hm⟩ : ∃ m, t.find? k = some (.dir m) := by
    unfold isDirAt at hk
    cases hf : t.find? k with
    | none => simp [hf] at hk
    | some node =>
      cases node with
      | dir m => exact ⟨m, rfl⟩
      | file c m => simp [hf, Node.isDir] at hk
  simp only [readDir, hloc, hm, bind, Except.bind]
  rfl

theorem readDir_eq_ok {t : FileTree} {path : String} {names : List String} :
    t.readDir path = .ok names ↔
      ∃ k, t.locate path = .ok k ∧ t.isDirAt k = true ∧ t.childNames k = names := by
  constructor
  · intro h
    unfold readDir at h
    obtain ⟨k, hloc, h⟩ := except_bind_eq_ok.1 h
    refine ⟨k, hloc, ?_⟩
    cases hf : t.find? k with
    | none =>
      rw [hf] at h
      cases h
    | some node =>
      rw [hf] at h
      cases node with
      | dir m =>
        cases h
        exact ⟨by simp [isDirAt, hf, Node.isDir], rfl⟩
      | file c m => cases h
  · rintro ⟨k, hloc, hk, rfl⟩
    exact readDir_of_isDirAt hloc hk

theorem lastStep_join_eq {t : FileTree} {dir : String} {kd : List String}
    (hdir : t.locate dir = .ok kd) (hkd : t.isDirAt kd = true) {name : String} (h : PlainName name)
    {d : List String} {n : String} (hstep : t.lastStep (Path.join dir name) = .ok (d, .name n)) :
    d = kd ∧ n = name := by
  rw [lastStep_join hdir hkd h] at hstep
  obtain ⟨⟨⟩, -, hstep⟩ := except_bind_eq_ok.1 hstep
  obtain ⟨⟨⟩, -, hstep⟩ := except_bind_eq_ok.1 hstep
  cases hstep
  exact ⟨rfl, rfl⟩

theorem lastStep_join_ok {t : FileTree} {dir : String} {kd : List String}
    (hdir : t.locate dir = .ok kd) (hkd : t.isDirAt kd = true) {name : String} (h : PlainName name)
    (hpath : checkPath (Path.join dir name) = .ok ()) (hname : checkName name = .ok ()) :
    t.lastStep (Path.join dir name) = .ok (kd, .name name) := by
  rw [lastStep_join hdir hkd h, hpath]
  show (checkName name >>= fun _ => pure _) = _
  rw [hname]
  rfl

theorem writeFileWith_of_lastStep {t : FileTree} {path : String} {d : List String} {n : String}
    (hstep : t.lastStep path = .ok (d, .name n)) (htr : trailing path = false)
    (hnd : t.isDirAt (d ++ [n]) = false) (c : String) (mode : Nat) :
    ∃ m, t.writeFileWith path c mode = .ok (t.put (d ++ [n]) (.file c m)) := by
  unfold writeFileWith
  rw [hstep]
  simp only [bind, Except.bind]
  cases hf : t.find? (d ++ [n]) with
  | none => exact ⟨mode, by simp [htr, pure, Except.pure]⟩
  | some node =>
    cases node with
    | dir m => simp [isDirAt, hf, Node.isDir] at hnd
    | file c' m => exact ⟨m, by simp [htr, pure, Except.pure]⟩

theorem writeFileWith_of_parent {t t' : FileTree} {path c : String} {mode : Nat}
    (hlast : (names path).getLast? = some "..") : t.writeFileWith path c mode ≠ .ok t' := by
  intro h
  obtain ⟨d, n, m, hstep, -⟩ := writeFileWith_eq_ok h
  obtain ⟨-, hn, -, -, -, hpar, -⟩ := lastStep_eq_name.1 hstep
  rw [hlast] at hn
  cases hn
  exact hpar rfl

/-! ### The names in a directory -/

theorem mem_childNames {t : FileTree} {k : List String} {n : String} :
    n ∈ t.childNames k ↔ ∃ node, (k ++ [n], node) ∈ t.nodes := by
  unfold childNames
  rw [List.mem_mergeSort, List.mem_filterMap]
  constructor
  · rintro ⟨⟨p, node⟩, hp, hsome⟩
    dsimp only at hsome
    split_ifs at hsome with hkey
    obtain ⟨hlen, hpre⟩ := hkey
    obtain ⟨rest, rfl⟩ := List.isPrefixOf_iff_prefix.1 hpre
    obtain ⟨x, rfl⟩ : ∃ x, rest = [x] := by
      rw [List.length_append] at hlen
      exact List.length_eq_one_iff.1 (by omega)
    rw [List.getLast?_concat] at hsome
    cases hsome
    exact ⟨node, hp⟩
  · rintro ⟨node, hmem⟩
    exact ⟨(k ++ [n], node), hmem, by simp [List.isPrefixOf_iff_prefix]⟩

theorem isSome_find?_of_mem_childNames {t : FileTree} {k : List String} {n : String}
    (h : n ∈ t.childNames k) : (t.find? (k ++ [n])).isSome := by
  obtain ⟨node, hmem⟩ := mem_childNames.1 h
  unfold find?
  split_ifs
  · rfl
  · rw [List.lookup_isSome_iff]
    exact ⟨_, hmem, by simp⟩

theorem isFixed_append_eq_false {k : List String} {n : String} (hpar : n ≠ "..") (hroot : n ≠ "/") :
    isFixed (k ++ [n]) = false := by
  unfold isFixed
  have hall : (k ++ [n]).all (· == "..") = false := by
    simp [hpar]
  have hkey : ((k ++ [n]) == ["/"]) = false := by
    cases k with
    | nil => simpa using hroot
    | cons a k => simp
  rw [hall, hkey]
  rfl

theorem PlainName.isFixed_append {n : String} (h : PlainName n) (k : List String) :
    isFixed (k ++ [n]) = false :=
  isFixed_append_eq_false h.ne_parent fun hroot => h.no_slash (by rw [hroot]; decide)

theorem mem_childNames_of_find? {t : FileTree} {k : List String} {n : String}
    (hfix : isFixed (k ++ [n]) = false) (h : (t.find? (k ++ [n])).isSome) :
    n ∈ t.childNames k := by
  unfold find? at h
  rw [hfix, if_neg (by decide), List.lookup_isSome_iff] at h
  obtain ⟨⟨p, node⟩, hmem, hp⟩ := h
  have hp' : k ++ [n] = p := by simpa using hp
  exact mem_childNames.2 ⟨node, hp' ▸ hmem⟩

theorem startsWith_of_names_eq_nil {path : String} (h : names path = []) (hne : path.isEmpty = false) :
    path.startsWith "/" = true := by
  rw [String.startsWith_string_iff]
  obtain ⟨c, cs, hcs⟩ : ∃ c cs, path.toList = c :: cs := by
    cases hp : path.toList with
    | nil => simp [← String.toList_inj, hp] at hne
    | cons c cs => exact ⟨c, cs, rfl⟩
  rw [hcs]
  by_cases hc : c = '/'
  · subst hc
    exact ⟨cs, rfl⟩
  · exfalso
    rw [names_eq, hcs, List.splitOn_cons_eq_if_modifyHead] at h
    have hbeq : (c == '/') = false := beq_eq_false_iff_ne.2 hc
    rw [hbeq] at h
    obtain ⟨p, ps, hps⟩ := List.exists_cons_of_ne_nil (List.splitOn_ne_nil '/' cs)
    simp [hps] at h

theorem isDir_eq_true {t : FileTree} {path : String} :
    t.isDir path = true ↔ ∃ k, t.locate path = .ok k ∧ t.isDirAt k = true := by
  unfold isDir stat? isDirAt
  cases hloc : t.locate path with
  | error e => simp
  | ok k => simp

theorem lastStep_of_locate_any {t : FileTree} {path : String} {k : List String}
    (hloc : t.locate path = .ok k) :
    ∃ d last, t.lastStep path = .ok (d, last) ∧ ∀ n, last = .name n → k = d ++ [n] := by
  obtain ⟨hcheck, hne, hwalk, -⟩ := locate_eq_ok.1 hloc
  cases hlast : (names path).getLast? with
  | none =>
    -- A path of slashes alone is the root.
    have hroot := startsWith_of_names_eq_nil (List.getLast?_eq_none_iff.1 hlast) hne
    refine ⟨["/"], .root, ?_, fun n h => nomatch h⟩
    simp only [lastStep, hcheck, hlast, hroot, bind, Except.bind, ↓reduceIte, pure, Except.pure]
  | some n =>
    have hsplit : names path = (names path).dropLast ++ [n] :=
      (List.dropLast_append_getLast? n hlast).symm
    rw [hsplit, walk_append] at hwalk
    obtain ⟨d, hd, hstep⟩ := except_bind_eq_ok.1 hwalk
    obtain ⟨⟨⟩, henter, -⟩ := except_bind_eq_ok.1 hstep
    by_cases hcur : n = "."
    · refine ⟨d, .current, ?_, fun n h => nomatch h⟩
      simp only [lastStep, hcheck, hlast, hd, henter, hcur, bind, Except.bind, ↓reduceIte,
        pure, Except.pure]
    · by_cases hpar : n = ".."
      · refine ⟨d, .parent, ?_, fun n h => nomatch h⟩
        simp only [lastStep, hcheck, hlast, hd, henter, hpar, bind, Except.bind, ↓reduceIte,
          pure, Except.pure, String.reduceEq]
      · obtain ⟨d', hstep', rfl⟩ := lastStep_of_locate hlast hcur hpar hloc
        exact ⟨d', .name n, hstep', fun m h => by cases h; rfl⟩

theorem createDirWith_of_locate {t : FileTree} {path : String} {k : List String}
    (hloc : t.locate path = .ok k) (hk : t.isDirAt k = true) (mode : Nat) :
    t.createDirWith path mode = .error .alreadyExists := by
  obtain ⟨d, last, hstep, hname⟩ := lastStep_of_locate_any hloc
  unfold createDirWith
  rw [hstep]
  cases last with
  | name n =>
    obtain ⟨node, hnode⟩ : ∃ node, t.find? k = some node := by
      unfold isDirAt at hk
      cases hf : t.find? k with
      | none => simp [hf] at hk
      | some node => exact ⟨node, rfl⟩
    rw [hname n rfl] at hnode
    simp only [bind, Except.bind, hnode]
    rfl
  | current => rfl
  | parent => rfl
  | root => rfl

theorem createDirAll_of_isDir {t : FileTree} {path : String} (h : t.isDir path = true) :
    t.createDirAll path = (.ok (), t) := by
  obtain ⟨k, hloc, hk⟩ := isDir_eq_true.1 h
  unfold createDirAll createDirAllWith
  cases hc : Path.components path with
  | nil => rw [createDirChain]
  | cons c cs =>
    rw [createDirChain, createDirWith_of_locate hloc hk]
    simp [h]

/-! ### Making a directory -/

theorem DirsGrow.walk {t t' : FileTree} (h : DirsGrow t t') :
    ∀ {acc : List String} {ns : List String} {k : List String},
      t.walk acc ns = .ok k → t'.walk acc ns = .ok k
  | acc, [], k, hw => hw
  | acc, c :: ns, k, hw => by
    simp only [FileTree.walk] at hw ⊢
    obtain ⟨u, henter, hw⟩ := except_bind_eq_ok.1 hw
    rw [enter_eq_ok.2 (h acc (enter_eq_ok.1 henter))]
    split_ifs at hw ⊢
    · exact h.walk hw
    · exact h.walk hw
    · obtain ⟨v, hname, hw⟩ := except_bind_eq_ok.1 hw
      rw [hname]
      exact h.walk hw

theorem DirsGrow.lastStep {t t' : FileTree} (h : DirsGrow t t') {path : String} {d : List String}
    {n : String} (hstep : t.lastStep path = .ok (d, .name n)) : t'.lastStep path = .ok (d, .name n) := by
  obtain ⟨hcheck, hlast, hwalk, henter, hcur, hpar, hname⟩ := lastStep_eq_name.1 hstep
  exact lastStep_eq_name.2 ⟨hcheck, hlast, h.walk hwalk,
    enter_eq_ok.2 (h d (enter_eq_ok.1 henter)), hcur, hpar, hname⟩

theorem dirsGrow_put_dir (t : FileTree) (k : List String) (m : Nat) :
    DirsGrow t (t.put k (.dir m)) := by
  intro j hj
  unfold isDirAt at hj ⊢
  rw [find?_put]
  split_ifs
  · rfl
  · rfl
  · exact hj

theorem WellFormed.put_dir {t : FileTree} (hwf : t.WellFormed) {k : List String}
    (hup : ∀ i < k.length, t.isDirAt (k.take i) = true) (m : Nat) : (t.put k (.dir m)).WellFormed :=
  hwf.put_of_dirsGrow (dirsGrow_put_dir t k m) hup

theorem WellFormed.not_mem_child {t : FileTree} (hwf : t.WellFormed) {k : List String}
    (hk : t.find? k = none) (c : String) (node : Node) : (k ++ [c], node) ∉ t.nodes := by
  intro hmem
  have hdir := hwf _ hmem k.length (by simp)
  rw [List.take_left] at hdir
  simp [isDirAt, hk] at hdir

/-- A directory made where nothing was is empty. -/
theorem childNames_put_dir {t : FileTree} (hwf : t.WellFormed) {k : List String}
    (hk : t.find? k = none) (m : Nat) : (t.put k (.dir m)).childNames k = [] := by
  refine List.eq_nil_iff_forall_not_mem.2 fun c hc => ?_
  obtain ⟨node, hmem⟩ := mem_childNames.1 hc
  rcases mem_nodes_put.1 hmem with ⟨hmem, -⟩ | heq
  · exact hwf.not_mem_child hk c node hmem
  · -- The key made is not one of its own children.
    have hlen := congrArg (fun e => e.1.length) heq
    simp at hlen

theorem isDirAt_put_dir {t : FileTree} {k : List String} (hk : t.find? k = none) (m : Nat) :
    (t.put k (.dir m)).isDirAt k = true := by
  have hnd : t.isDirAt k = false := by simp [isDirAt, hk]
  simp [isDirAt, find?_put_self hnd, Node.isDir]

theorem locate_join_of_none {t : FileTree} {dir : String} {kd : List String}
    (hdir : t.locate dir = .ok kd) (hkd : t.find? kd = none) {name : String} (h : PlainName name)
    (hpath : checkPath (Path.join dir name) = .ok ()) :
    t.locate (Path.join dir name) = .error .notFound := by
  unfold locate
  rw [join_ne_empty dir h, start_join dir h.startsWith, names_join dir h.no_slash h.ne_empty,
    walk_append, walk_of_locate hdir, trailing_join dir h, hpath]
  show (t.walk kd [name] >>= fun k => pure k) = _
  rw [walk_last t kd h.ne_current h.ne_parent]
  simp [enter, hkd, bind, Except.bind, throw, throwThe, MonadExceptOf.throw]

theorem components_ne_nil {path n : String} (hlast : (names path).getLast? = some n)
    (hcur : n ≠ ".") : Path.components path ≠ [] := by
  have hmem : n ∈ names path := List.mem_of_getLast? hlast
  simp only [names, List.mem_filter, List.mem_map, decide_eq_true_eq] at hmem
  obtain ⟨⟨p, hp, rfl⟩, hne⟩ := hmem
  obtain ⟨comp, hcomp⟩ : ∃ comp, Component.ofPiece p = some comp := by
    unfold Component.ofPiece
    split_ifs with h₁ h₂
    · rcases h₁ with rfl | rfl
      · exact absurd rfl hne
      · exact absurd rfl hcur
    · exact ⟨_, rfl⟩
    · exact ⟨_, rfl⟩
  unfold Path.components
  dsimp only
  split
  · simp
  · split
    · simp
    · intro hnil
      have hin := List.mem_filterMap.2 ⟨p, hp, hcomp⟩
      rw [hnil] at hin
      cases hin

theorem createDirWith_of_lastStep {t : FileTree} {path : String} {d : List String} {n : String}
    (hstep : t.lastStep path = .ok (d, .name n)) (hn : t.find? (d ++ [n]) = none) (mode : Nat) :
    t.createDirWith path mode = .ok (t.put (d ++ [n]) (.dir mode)) := by
  unfold createDirWith
  rw [hstep]
  simp only [bind, Except.bind]
  rw [hn]
  rfl

/-- Where the last step of a path reaches a name at which nothing is, making the directory and its
missing ancestors makes just that directory. -/
theorem createDirAll_of_lastStep {t : FileTree} {path : String} {d : List String} {n : String}
    (hstep : t.lastStep path = .ok (d, .name n)) (hn : t.find? (d ++ [n]) = none) :
    t.createDirAll path = (.ok (), t.put (d ++ [n]) (.dir dirMode)) := by
  obtain ⟨-, hlast, -, -, hcur, -⟩ := lastStep_eq_name.1 hstep
  unfold createDirAll createDirAllWith
  obtain ⟨c, cs, hc⟩ : ∃ c cs, Path.components path = c :: cs :=
    List.exists_cons_of_ne_nil (components_ne_nil hlast hcur)
  rw [hc, createDirChain, createDirWith_of_lastStep hstep hn]

end FileTree

end CephMount
