import CephMount.Proofs.RecordFiles
import CephMount.Proofs.RecordJson
import CephMount.Proofs.ProbeFailure
import Mathlib

/-!
Units sharing one record directory, empty or not yet made at the start: each reads back the last
record it published, and reading all records gives the units that published, sorted
(`shared_store_reads_latest`). The invariant is `PeerStore.Shared`, kept by every publication.
-/
namespace CephMount

namespace UnitRecord

/-- The latest record of a unit among records listed in the order they were published. -/
def latest (log : List UnitRecord) (unitId : String) : Option UnitRecord :=
  (log.filter (·.unitId = unitId)).getLast?

@[simp] theorem latest_nil (unitId : String) : latest [] unitId = none := rfl

theorem latest_concat (log : List UnitRecord) (r : UnitRecord) (unitId : String) :
    latest (log ++ [r]) unitId = if r.unitId = unitId then some r else latest log unitId := by
  unfold latest
  by_cases h : r.unitId = unitId <;> simp [List.filter_append, h]

theorem latest_mem {log : List UnitRecord} {unitId : String} {r : UnitRecord}
    (h : latest log unitId = some r) : r ∈ log ∧ r.unitId = unitId := by
  simpa using List.mem_filter.1 (List.mem_of_getLast? h)

/-- A record that its JSON text carries unchanged: each observed option list is a set. -/
def Faithful (r : UnitRecord) : Prop :=
  ∀ o, r.observed = some o → toSet o.options = o.options

theorem Faithful.ofJson {r : UnitRecord} (h : r.Faithful) : ofJson r.toJson.pretty = .ok r :=
  ofJson_pretty h

end UnitRecord

namespace PeerStore

open FileTree UnitRecord

/-! ### Reading all records -/

theorem mem_of_mem_insertRecord (r : UnitRecord) :
    ∀ {acc : List UnitRecord} {y : UnitRecord}, y ∈ insertRecord r acc → y = r ∨ y ∈ acc
  | [], y, hy => by simpa [insertRecord] using hy
  | q :: rest, y, hy => by
    unfold insertRecord at hy
    split_ifs at hy with hlt heq
    · simpa using hy
    · rcases List.mem_cons.1 hy with rfl | hy
      · exact .inl rfl
      · exact .inr (List.mem_cons_of_mem q hy)
    · rcases List.mem_cons.1 hy with rfl | hy
      · exact .inr (List.mem_cons_self ..)
      · exact (mem_of_mem_insertRecord r hy).imp_right (List.mem_cons_of_mem q)

theorem sorted_insertRecord (r : UnitRecord) :
    ∀ {acc : List UnitRecord}, acc.Pairwise (·.unitId < ·.unitId) →
      (insertRecord r acc).Pairwise (·.unitId < ·.unitId)
  | [], _ => by simp [insertRecord]
  | q :: rest, h => by
    obtain ⟨hq, hrest⟩ := List.pairwise_cons.1 h
    unfold insertRecord
    split_ifs with hlt heq
    · refine List.pairwise_cons.2 ⟨fun y hy => ?_, h⟩
      rcases List.mem_cons.1 hy with rfl | hy
      · exact hlt
      · exact lt_trans hlt (hq y hy)
    · exact List.pairwise_cons.2 ⟨fun y hy => heq ▸ hq y hy, hrest⟩
    · have hqr : q.unitId < r.unitId := lt_of_le_of_ne (not_lt.1 hlt) (Ne.symm heq)
      refine List.pairwise_cons.2 ⟨fun y hy => ?_, sorted_insertRecord r hrest⟩
      rcases mem_of_mem_insertRecord r hy with rfl | hy
      · exact hqr
      · exact hq y hy

theorem mem_insertRecord (r : UnitRecord) :
    ∀ {acc : List UnitRecord}, acc.Pairwise (·.unitId < ·.unitId) → ∀ x,
      x ∈ insertRecord r acc ↔ x = r ∨ (x ∈ acc ∧ x.unitId ≠ r.unitId)
  | [], _, x => by simp [insertRecord]
  | q :: rest, h, x => by
    obtain ⟨hq, hrest⟩ := List.pairwise_cons.1 h
    unfold insertRecord
    split_ifs with hlt heq
    · have hne : ∀ y ∈ q :: rest, y.unitId ≠ r.unitId := by
        intro y hy
        rcases List.mem_cons.1 hy with rfl | hy
        · exact (ne_of_lt hlt).symm
        · exact (ne_of_lt (lt_trans hlt (hq y hy))).symm
      rw [List.mem_cons]
      exact or_congr_right ⟨fun hx => ⟨hx, hne x hx⟩, And.left⟩
    · simp only [List.mem_cons]
      constructor
      · rintro (rfl | hx)
        · exact .inl rfl
        · exact .inr ⟨.inr hx, fun he => (ne_of_lt (hq x hx)) (he.trans heq).symm⟩
      · rintro (rfl | ⟨rfl | hx, hne⟩)
        · exact .inl rfl
        · exact absurd heq.symm hne
        · exact .inr hx
    · have hqr : q.unitId < r.unitId := lt_of_le_of_ne (not_lt.1 hlt) (Ne.symm heq)
      rw [List.mem_cons, List.mem_cons, mem_insertRecord r hrest x]
      constructor
      · rintro (rfl | rfl | ⟨hx, hne⟩)
        · exact .inr ⟨.inl rfl, (ne_of_lt hqr)⟩
        · exact .inl rfl
        · exact .inr ⟨.inr hx, hne⟩
      · rintro (rfl | ⟨rfl | hx, hne⟩)
        · exact .inr (.inl rfl)
        · exact .inl rfl
        · exact .inr (.inr ⟨hx, hne⟩)

theorem readAll_of_readDir {s : PeerStore} {t : FileTree} {names : List String}
    (h : t.readDir s.dir = .ok names) :
    s.readAll t = .ok ((names.filter (Path.extension? · == some "json")).foldl
      (fun acc name => ((readable t (Path.join s.dir name)).map (insertRecord · acc)).getD acc) []) := by
  simp only [readAll, h]
  congr 2
  funext acc name
  cases readable t (Path.join s.dir name) <;> rfl

/-- Inserting the records read from names, one name after another, into a list sorted by unit:
the list stays sorted, and when two records in play with the same unit are the same record, it
ends up holding exactly the records it held and the records read. -/
theorem foldl_insertRecord (g : String → Option UnitRecord) :
    ∀ (names : List String) (acc : List UnitRecord), acc.Pairwise (·.unitId < ·.unitId) →
      (∀ a b, (a ∈ acc ∨ ∃ n ∈ names, g n = some a) → (b ∈ acc ∨ ∃ n ∈ names, g n = some b) →
        a.unitId = b.unitId → a = b) →
      (names.foldl (fun acc n => ((g n).map (insertRecord · acc)).getD acc) acc).Pairwise
          (·.unitId < ·.unitId) ∧
        ∀ x, x ∈ names.foldl (fun acc n => ((g n).map (insertRecord · acc)).getD acc) acc ↔
          x ∈ acc ∨ ∃ n ∈ names, g n = some x
  | [], acc, hacc, _ => ⟨hacc, fun x => by simp⟩
  | n :: names, acc, hacc, hsame => by
    rw [List.foldl_cons]
    cases hg : g n with
    | none =>
      have hsame' : ∀ a b, (a ∈ acc ∨ ∃ n ∈ names, g n = some a) →
          (b ∈ acc ∨ ∃ n ∈ names, g n = some b) → a.unitId = b.unitId → a = b :=
        fun a b ha hb => hsame a b (ha.imp_right fun ⟨n', hn', h⟩ => ⟨n', .tail _ hn', h⟩)
          (hb.imp_right fun ⟨n', hn', h⟩ => ⟨n', .tail _ hn', h⟩)
      obtain ⟨hsorted, hmem⟩ := foldl_insertRecord g names acc hacc hsame'
      refine ⟨hsorted, fun x => (hmem x).trans (or_congr_right ⟨?_, ?_⟩)⟩
      · rintro ⟨n', hn', h⟩
        exact ⟨n', .tail _ hn', h⟩
      · rintro ⟨n', hn', h⟩
        rcases List.mem_cons.1 hn' with rfl | hn'
        · rw [hg] at h
          cases h
        · exact ⟨n', hn', h⟩
    | some r =>
      have hr : r ∈ acc ∨ ∃ n' ∈ n :: names, g n' = some r := .inr ⟨n, List.mem_cons_self .., hg⟩
      have hin : ∀ y ∈ insertRecord r acc, y ∈ acc ∨ ∃ n' ∈ n :: names, g n' = some y := by
        intro y hy
        rcases mem_of_mem_insertRecord r hy with rfl | hy
        · exact hr
        · exact .inl hy
      have hsame' : ∀ a b, (a ∈ insertRecord r acc ∨ ∃ n ∈ names, g n = some a) →
          (b ∈ insertRecord r acc ∨ ∃ n ∈ names, g n = some b) → a.unitId = b.unitId → a = b := by
        intro a b ha hb
        refine hsame a b (ha.elim (hin a) fun ⟨n', hn', h⟩ => .inr ⟨n', .tail _ hn', h⟩)
          (hb.elim (hin b) fun ⟨n', hn', h⟩ => .inr ⟨n', .tail _ hn', h⟩)
      obtain ⟨hsorted, hmem⟩ :=
        foldl_insertRecord g names (insertRecord r acc) (sorted_insertRecord r hacc) hsame'
      refine ⟨hsorted, fun x => (hmem x).trans ?_⟩
      rw [mem_insertRecord r hacc x]
      constructor
      · rintro ((rfl | ⟨hx, -⟩) | ⟨n', hn', h⟩)
        · exact .inr ⟨n, List.mem_cons_self .., hg⟩
        · exact .inl hx
        · exact .inr ⟨n', .tail _ hn', h⟩
      · rintro (hx | ⟨n', hn', h⟩)
        · by_cases hu : x.unitId = r.unitId
          · exact .inl (.inl (hsame x r (.inl hx) hr hu))
          · exact .inl (.inr ⟨hx, hu⟩)
        · rcases List.mem_cons.1 hn' with rfl | hn'
          · rw [hg] at h
            cases h
            exact .inl (.inl rfl)
          · exact .inr ⟨n', hn', h⟩

/-! ### Units sharing a directory -/

/-- A unit's record is read from the file its stem names, whatever unit wrote it: units whose
identifiers have one stem read one record. -/
theorem read_eq_of_fileStem_eq {u v : String} (h : fileStem u = fileStem v) (s : PeerStore)
    (t : FileTree) : s.read u t = s.read v t := by
  unfold read recordPath
  rw [h]

/-- Units whose records the store keeps apart: their identifiers are not empty and give
different file stems, and their record paths fit the system's limits. -/
structure Separate (s : PeerStore) (units : List String) : Prop where
  ne_empty : ∀ u ∈ units, u ≠ ""
  stem_inj : ∀ u ∈ units, ∀ v ∈ units, fileStem u = fileStem v → u = v
  path_fits : ∀ u ∈ units, checkPath (s.recordPath u) = .ok ()
  name_fits : ∀ u ∈ units, checkName (recordName u) = .ok ()

/-- A unit's temporary file can be written next to its record: the unit is not `.`, whose
temporary path is the store's parent directory, and the file's path and name fit the system's
limits. -/
structure TmpFits (s : PeerStore) (unitId : String) : Prop where
  ne_dot : unitId ≠ "."
  path_fits : checkPath (Path.join s.dir (tmpName unitId)) = .ok ()
  name_fits : checkName (tmpName unitId) = .ok ()

/-- How units sharing a store leave its directory, found at `kd` in a well-formed tree: each
unit's file holds the JSON text of its latest record, or is absent while the unit has published
none, no other entry of the directory has the extension `json`, and no unit's temporary file is
a directory. -/
structure Shared (s : PeerStore) (units : List String) (kd : List String) (t : FileTree)
    (log : List UnitRecord) : Prop where
  wellFormed : t.WellFormed
  locate_dir : t.locate s.dir = .ok kd
  isDir_dir : t.isDirAt kd = true
  absent : ∀ u ∈ units, latest log u = none → t.find? (kd ++ [recordName u]) = none
  stored : ∀ u ∈ units, ∀ r, latest log u = some r →
    ∃ m, t.find? (kd ++ [recordName u]) = some (.file r.toJson.pretty m)
  json_only : ∀ n, Path.extension? n = some "json" → (t.find? (kd ++ [n])).isSome →
    ∃ u ∈ units, n = recordName u
  tmp_free : ∀ u ∈ units, t.isDirAt (kd ++ [tmpName u]) = false
  faithful : ∀ r ∈ log, r.unitId ∈ units ∧ r.Faithful

section Shared

variable {s : PeerStore} {units : List String} {kd : List String} {t : FileTree}
  {log : List UnitRecord}

theorem Separate.recordName_eq_iff (hsep : s.Separate units) {u v : String} (hu : u ∈ units)
    (hv : v ∈ units) : recordName u = recordName v ↔ u = v :=
  ⟨fun h => hsep.stem_inj u hu v hv (fileStem_eq_of_recordName h), fun h => h ▸ rfl⟩

theorem isFixed_of_extension {k : List String} {n e : String} (h : Path.extension? n = some e) :
    isFixed (k ++ [n]) = false := by
  refine isFixed_append_eq_false ?_ ?_ <;> rintro rfl <;> cases h

theorem Shared.empty_at (hwf : t.WellFormed) (hloc : t.locate s.dir = .ok kd)
    (hdir : t.isDirAt kd = true) (hnames : t.childNames kd = []) : Shared s units kd t [] := by
  -- No entry at a key that is not fixed, as the directory lists nothing.
  have hnone : ∀ n, isFixed (kd ++ [n]) = false → t.find? (kd ++ [n]) = none := by
    intro n hfix
    cases hf : t.find? (kd ++ [n]) with
    | none => rfl
    | some node =>
      have hmem := mem_childNames_of_find? hfix (by rw [hf]; rfl)
      rw [hnames] at hmem
      cases hmem
  refine ⟨hwf, hloc, hdir, fun u _ _ => hnone _ ((plainName_recordName u).isFixed_append kd),
    fun u _ r h => (by cases h), fun n hn hsome => ?_,
    fun u _ => by simp [isDirAt, hnone _ ((plainName_tmpName u).isFixed_append kd)],
    fun r h => (by cases h)⟩
  rw [hnone n (isFixed_of_extension hn)] at hsome
  cases hsome

theorem Shared.empty (hwf : t.WellFormed) (hempty : t.readDir s.dir = .ok []) :
    ∃ kd, Shared s units kd t [] := by
  obtain ⟨kd, hloc, hdir, hnames⟩ := readDir_eq_ok.1 hempty
  exact ⟨kd, .empty_at hwf hloc hdir hnames⟩

theorem Shared.isDir (h : Shared s units kd t log) : t.isDir s.dir = true :=
  isDir_eq_true.2 ⟨kd, h.locate_dir, h.isDir_dir⟩

theorem Shared.not_dir (h : Shared s units kd t log) {u : String} (hu : u ∈ units) :
    t.isDirAt (kd ++ [recordName u]) = false := by
  cases hl : latest log u with
  | none => simp [isDirAt, h.absent u hu hl]
  | some r =>
    obtain ⟨m, hm⟩ := h.stored u hu r hl
    exact isDirAt_of_file hm

theorem Shared.locate_recordPath (h : Shared s units kd t log) (hsep : s.Separate units)
    {u : String} (hu : u ∈ units) : t.locate (s.recordPath u) = .ok (kd ++ [recordName u]) :=
  locate_of_lastStep (lastStep_join_ok h.locate_dir h.isDir_dir (plainName_recordName u)
    (hsep.path_fits u hu) (hsep.name_fits u hu)) (trailing_join _ (plainName_recordName u))

/-- A unit reads back its latest record, none while it has published none. -/
theorem Shared.read (h : Shared s units kd t log) (hsep : s.Separate units) {u : String}
    (hu : u ∈ units) : s.read u t = .ok (latest log u) := by
  have hloc := h.locate_recordPath hsep hu
  cases hl : latest log u with
  | none =>
    simp only [PeerStore.read, readFile_of_none hloc (h.absent u hu hl)]
  | some r =>
    obtain ⟨m, hm⟩ := h.stored u hu r hl
    have hfaith := (h.faithful r (latest_mem hl).1).2
    simp only [PeerStore.read, readFile_of_file hloc hm, hfaith.ofJson]

theorem Shared.readable_recordName (h : Shared s units kd t log) (hsep : s.Separate units) {u : String}
    (hu : u ∈ units) : readable t (Path.join s.dir (recordName u)) = latest log u := by
  have hloc := h.locate_recordPath hsep hu
  rw [recordPath_eq] at hloc
  cases hl : latest log u with
  | none =>
    simp only [PeerStore.readable, readFile_of_none hloc (h.absent u hu hl)]
  | some r =>
    obtain ⟨m, hm⟩ := h.stored u hu r hl
    have hfaith := (h.faithful r (latest_mem hl).1).2
    simp only [PeerStore.readable, readFile_of_file hloc hm, hfaith.ofJson]
    rfl

/-- Reading all records gives the latest record of every unit that published, sorted by unit. -/
theorem Shared.readAll (h : Shared s units kd t log) (hsep : s.Separate units) :
    ∃ rs, s.readAll t = .ok rs ∧ rs.Pairwise (·.unitId < ·.unitId) ∧
      ∀ r, r ∈ rs ↔ ∃ u ∈ units, latest log u = some r := by
  have hnames := readAll_of_readDir (readDir_of_isDirAt h.locate_dir h.isDir_dir)
  have hread : ∀ n ∈ (t.childNames kd).filter (Path.extension? · == some "json"),
      ∃ u ∈ units, n = recordName u := by
    intro n hn
    obtain ⟨hmem, hext⟩ := List.mem_filter.1 hn
    exact h.json_only n (by simpa using hext) (isSome_find?_of_mem_childNames hmem)
  have hsame : ∀ a b,
      (a ∈ ([] : List UnitRecord) ∨ ∃ n ∈ (t.childNames kd).filter (Path.extension? · == some "json"),
        PeerStore.readable t (Path.join s.dir n) = some a) →
      (b ∈ ([] : List UnitRecord) ∨ ∃ n ∈ (t.childNames kd).filter (Path.extension? · == some "json"),
        PeerStore.readable t (Path.join s.dir n) = some b) → a.unitId = b.unitId → a = b := by
    rintro a b (ha | ⟨na, hna, ha⟩) (hb | ⟨nb, hnb, hb⟩) hab
    · cases ha
    · cases ha
    · cases hb
    obtain ⟨u, hu, rfl⟩ := hread na hna
    obtain ⟨v, hv, rfl⟩ := hread nb hnb
    rw [h.readable_recordName hsep hu] at ha
    rw [h.readable_recordName hsep hv] at hb
    have huv : u = v := by rw [← (latest_mem ha).2, ← (latest_mem hb).2, hab]
    subst huv
    rw [ha] at hb
    exact Option.some.inj hb
  obtain ⟨hsorted, hmem⟩ := foldl_insertRecord _ _ [] List.Pairwise.nil hsame
  refine ⟨_, hnames, hsorted, fun r => (hmem r).trans ?_⟩
  constructor
  · rintro (hr | ⟨n, hn, hr⟩)
    · cases hr
    · obtain ⟨u, hu, rfl⟩ := hread n hn
      exact ⟨u, hu, (h.readable_recordName hsep hu) ▸ hr⟩
  · rintro ⟨u, hu, hr⟩
    obtain ⟨m, hm⟩ := h.stored u hu r hr
    have hlisted : recordName u ∈ t.childNames kd :=
      mem_childNames_of_find? ((plainName_recordName u).isFixed_append kd) (by rw [hm]; rfl)
    refine .inr ⟨recordName u, List.mem_filter.2 ⟨hlisted, ?_⟩, (h.readable_recordName hsep hu).trans hr⟩
    simp [extension?_recordName (hsep.ne_empty u hu)]

theorem key_ne {kd : List String} {a b : String} (h : a ≠ b) : kd ++ [a] ≠ kd ++ [b] := by
  simpa using h

theorem Shared.put_tmp (h : Shared s units kd t log) {u : String}
    (hnd : t.isDirAt (kd ++ [tmpName u]) = false) (c : String) (m : Nat) :
    Shared s units kd (t.put (kd ++ [tmpName u]) (.file c m)) log := by
  have hsame : SameDirs t (t.put (kd ++ [tmpName u]) (.file c m)) := sameDirs_put hnd rfl
  refine ⟨h.wellFormed.put hnd rfl (h.wellFormed.dirs_above_child h.isDir_dir _),
    hsame.locate_eq h.locate_dir h.isDir_dir, (hsame kd).trans h.isDir_dir, ?_, ?_, ?_,
    fun v hv => (hsame _).trans (h.tmp_free v hv), h.faithful⟩
  · intro v hv hl
    rw [find?_put_of_ne _ (key_ne (tmpName_ne_recordName u v)).symm]
    exact h.absent v hv hl
  · intro v hv r hl
    rw [find?_put_of_ne _ (key_ne (tmpName_ne_recordName u v)).symm]
    exact h.stored v hv r hl
  · intro n hn hsome
    have hne : n ≠ tmpName u := by
      rintro rfl
      rw [extension?_tmpName] at hn
      exact absurd hn (by decide)
    rw [find?_put_of_ne _ (key_ne hne)] at hsome
    exact h.json_only n hn hsome

/-- Moving a unit's temporary file, which holds its new record, onto its own file makes that
record its latest. -/
theorem Shared.move_tmp (h : Shared s units kd t log) (hsep : s.Separate units) {r : UnitRecord}
    (hu : r.unitId ∈ units) (hr : r.Faithful) {m : Nat}
    (htmp : t.find? (kd ++ [tmpName r.unitId]) = some (.file r.toJson.pretty m)) :
    Shared s units kd (t.move (kd ++ [tmpName r.unitId]) (kd ++ [recordName r.unitId]))
      (log ++ [r]) := by
  have hks := isDirAt_of_file htmp
  have hkd := h.not_dir hu
  have hne : kd ++ [tmpName r.unitId] ≠ kd ++ [recordName r.unitId] :=
    key_ne (tmpName_ne_recordName r.unitId r.unitId)
  have hsame := sameDirs_move h.wellFormed hks hkd hne
  have hfind := find?_move h.wellFormed hks hkd hne
  have hother : ∀ v ∈ units, v ≠ r.unitId →
      (t.move (kd ++ [tmpName r.unitId]) (kd ++ [recordName r.unitId])).find? (kd ++ [recordName v]) =
        t.find? (kd ++ [recordName v]) := by
    intro v hv hvu
    rw [hfind, if_neg (key_ne fun he => hvu ((hsep.recordName_eq_iff hv hu).1 he)),
      if_neg (key_ne (tmpName_ne_recordName r.unitId v)).symm]
  refine ⟨h.wellFormed.move hks hkd hne (h.wellFormed.dirs_above_child h.isDir_dir _),
    hsame.locate_eq h.locate_dir h.isDir_dir, (hsame kd).trans h.isDir_dir, ?_, ?_, ?_,
    fun v hv => (hsame _).trans (h.tmp_free v hv), ?_⟩
  · intro v hv hl
    rw [latest_concat] at hl
    split_ifs at hl with hvu
    rw [hother v hv (Ne.symm hvu)]
    exact h.absent v hv hl
  · intro v hv q hl
    rw [latest_concat] at hl
    split_ifs at hl with hvu
    · cases hl
      subst hvu
      rw [hfind, if_pos rfl]
      exact ⟨m, htmp⟩
    · rw [hother v hv (Ne.symm hvu)]
      exact h.stored v hv q hl
  · intro n hn hsome
    rw [hfind] at hsome
    split_ifs at hsome with hrec htmp'
    · exact ⟨r.unitId, hu, by simpa using hrec⟩
    · cases hsome
    · exact h.json_only n hn hsome
  · intro q hq
    rcases List.mem_append.1 hq with hq | hq
    · exact h.faithful q hq
    · rw [List.mem_singleton.1 hq]
      exact ⟨hu, hr⟩

/-- A publication keeps the directory shared: when it succeeds its record becomes the unit's
latest, and when it fails nothing is published. -/
theorem Shared.publish (h : Shared s units kd t log) (hsep : s.Separate units) {r : UnitRecord}
    (hu : r.unitId ∈ units) (hr : r.Faithful) :
    (s.publish r t).1 = .ok () ∧ Shared s units kd (s.publish r t).2 (log ++ [r]) ∨
      (s.publish r t).1 ≠ .ok () ∧ Shared s units kd (s.publish r t).2 log := by
  unfold PeerStore.publish
  rw [createDirAll_of_isDir h.isDir]
  dsimp only
  rw [withExtension_recordPath s (hsep.ne_empty _ hu)]
  by_cases hcur : fileStem r.unitId = "."
  · -- The temporary path ends in `..`, where no file is written.
    rw [if_pos hcur]
    cases hw : t.writeFile (Path.join s.dir "..") r.toJson.pretty with
    | error e => exact .inr ⟨(by intro he; cases he), h⟩
    | ok t₁ =>
      refine absurd hw (writeFileWith_of_parent ?_)
      rw [names_join s.dir (by decide) (by decide), List.getLast?_concat]
  · rw [if_neg hcur]
    cases hw : t.writeFile (Path.join s.dir (tmpName r.unitId)) r.toJson.pretty with
    | error e => exact .inr ⟨(by intro he; cases he), h⟩
    | ok t₁ =>
      obtain ⟨d, n, m, hstep, -, hnd, rfl⟩ := writeFileWith_eq_ok hw
      obtain ⟨hd, hn⟩ := lastStep_join_eq h.locate_dir h.isDir_dir (plainName_tmpName _) hstep
      subst d n
      have h₁ := h.put_tmp hnd r.toJson.pretty m
      dsimp only
      cases hren : (t.put (kd ++ [tmpName r.unitId]) (.file r.toJson.pretty m)).rename
          (Path.join s.dir (tmpName r.unitId)) (s.recordPath r.unitId) with
      | error e => exact .inr ⟨(by intro he; cases he), h₁⟩
      | ok t₂ =>
        obtain ⟨sd, a, dd, b, node, hs, hd, -, -, rfl⟩ := rename_eq_ok hren
        obtain ⟨hsd, ha⟩ := lastStep_join_eq h₁.locate_dir h₁.isDir_dir (plainName_tmpName _) hs
        rw [recordPath_eq] at hd
        obtain ⟨hdd, hb⟩ := lastStep_join_eq h₁.locate_dir h₁.isDir_dir (plainName_recordName _) hd
        subst sd a dd b
        exact .inl ⟨rfl, h₁.move_tmp hsep hu hr (find?_put_self hnd _)⟩

/-- A unit whose temporary file fits publishes its record: the directory is there, and no
directory stands at the temporary file's key or at the unit's own. -/
theorem Shared.publish_ok (h : Shared s units kd t log) (hsep : s.Separate units)
    {r : UnitRecord} (hu : r.unitId ∈ units) (hfits : s.TmpFits r.unitId) :
    (s.publish r t).1 = .ok () := by
  have htmp := plainName_tmpName r.unitId
  have hrec := plainName_recordName r.unitId
  have hstep := lastStep_join_ok h.locate_dir h.isDir_dir htmp hfits.path_fits hfits.name_fits
  obtain ⟨m, hw⟩ := writeFileWith_of_lastStep hstep (trailing_join _ htmp) (h.tmp_free _ hu)
    r.toJson.pretty fileMode
  have h₁ := h.put_tmp (h.tmp_free _ hu) r.toJson.pretty m
  have hs := lastStep_join_ok h₁.locate_dir h₁.isDir_dir htmp hfits.path_fits hfits.name_fits
  have hd := lastStep_join_ok h₁.locate_dir h₁.isDir_dir hrec (hsep.path_fits _ hu)
    (hsep.name_fits _ hu)
  have hren := rename_of_file hs hd (trailing_join _ htmp) (trailing_join _ hrec)
    (find?_put_self (h.tmp_free _ hu) _) (h₁.not_dir hu)
  unfold PeerStore.publish
  rw [createDirAll_of_isDir h.isDir]
  dsimp only
  rw [withExtension_recordPath s (hsep.ne_empty _ hu), if_neg (mt fileStem_eq_dot.1 hfits.ne_dot),
    writeFile, hw]
  dsimp only
  rw [recordPath_eq, hren]

/-! ### A directory not yet made -/

/-- A store whose directory is missing: the last step of its path reaches, in a directory of a
well-formed tree, the name of `kd`, where nothing is. -/
structure Missing (s : PeerStore) (kd : List String) (t : FileTree) : Prop where
  wellFormed : t.WellFormed
  lastStep_dir : ∃ kp n, t.lastStep s.dir = .ok (kp, .name n) ∧ kd = kp ++ [n]
  absent : t.find? kd = none

theorem Missing.locate_dir (h : Missing s kd t) : t.locate s.dir = .ok kd := by
  obtain ⟨kp, n, hstep, rfl⟩ := h.lastStep_dir
  exact locate_of_lastStep_of_not_file hstep fun _ c m hf => by simp [h.absent] at hf

/-- While the directory is missing, no unit has a record. -/
theorem Missing.read (h : Missing s kd t) (hsep : s.Separate units) {u : String}
    (hu : u ∈ units) : s.read u t = .ok none := by
  have hloc := locate_join_of_none h.locate_dir h.absent (plainName_recordName u)
    (hsep.path_fits u hu)
  simp only [PeerStore.read, recordPath_eq, readFile, hloc, bind, Except.bind]

theorem Missing.readAll (h : Missing s kd t) : s.readAll t = .ok [] := by
  simp only [PeerStore.readAll, readDir, h.locate_dir, h.absent, bind, Except.bind]
  rfl

theorem Missing.createDirAll (h : Missing s kd t) :
    t.createDirAll s.dir = (.ok (), t.put kd (.dir dirMode)) := by
  obtain ⟨kp, n, hstep, rfl⟩ := h.lastStep_dir
  exact createDirAll_of_lastStep hstep h.absent

theorem Missing.locate_put (h : Missing s kd t) :
    (t.put kd (.dir dirMode)).locate s.dir = .ok kd := by
  obtain ⟨kp, n, hstep, rfl⟩ := h.lastStep_dir
  have hnd : t.isDirAt (kp ++ [n]) = false := by simp [isDirAt, h.absent]
  refine locate_of_lastStep_of_not_file ((dirsGrow_put_dir t _ dirMode).lastStep hstep)
    fun _ c m hf => ?_
  rw [find?_put_self hnd] at hf
  cases hf

theorem Missing.shared (h : Missing s kd t) : Shared s units kd (t.put kd (.dir dirMode)) [] := by
  obtain ⟨kp, n, hstep, hkd⟩ := h.lastStep_dir
  have hkp : t.isDirAt kp = true := enter_eq_ok.1 (lastStep_eq_name.1 hstep).2.2.2.1
  have hup : ∀ i < kd.length, t.isDirAt (kd.take i) = true :=
    hkd ▸ h.wellFormed.dirs_above_child hkp n
  exact .empty_at (h.wellFormed.put_dir hup dirMode) h.locate_put (isDirAt_put_dir h.absent dirMode)
    (childNames_put_dir h.wellFormed h.absent dirMode)

/-- A publication into a store whose directory is missing makes the directory, then publishes
as into a store that had it. -/
theorem Missing.publish (h : Missing s kd t) (r : UnitRecord) :
    s.publish r t = s.publish r (t.put kd (.dir dirMode)) := by
  have hdir : (t.put kd (.dir dirMode)).isDir s.dir = true :=
    isDir_eq_true.2 ⟨kd, h.locate_put, isDirAt_put_dir h.absent dirMode⟩
  unfold PeerStore.publish
  rw [h.createDirAll, createDirAll_of_isDir hdir]

/-- The directory as units sharing it leave it: shared, or still missing while nothing is
published. -/
def Stored (s : PeerStore) (units : List String) (kd : List String) (t : FileTree)
    (log : List UnitRecord) : Prop :=
  Shared s units kd t log ∨ log = [] ∧ Missing s kd t

/-- A directory that is empty, or missing where the last step of its path reaches, starts the
store with nothing published. -/
theorem Stored.start (hwf : t.WellFormed)
    (hstart : t.readDir s.dir = .ok [] ∨
      ∃ kp n, t.lastStep s.dir = .ok (kp, .name n) ∧ t.find? (kp ++ [n]) = none) :
    ∃ kd, Stored s units kd t [] := by
  rcases hstart with hempty | ⟨kp, n, hstep, habsent⟩
  · obtain ⟨kd, h⟩ := Shared.empty hwf hempty
    exact ⟨kd, .inl h⟩
  · exact ⟨kp ++ [n], .inr ⟨rfl, hwf, ⟨kp, n, hstep, rfl⟩, habsent⟩⟩

theorem Stored.read (h : Stored s units kd t log) (hsep : s.Separate units) {u : String}
    (hu : u ∈ units) : s.read u t = .ok (latest log u) := by
  rcases h with h | ⟨rfl, h⟩
  · exact h.read hsep hu
  · exact h.read hsep hu

theorem Stored.readAll (h : Stored s units kd t log) (hsep : s.Separate units) :
    ∃ rs, s.readAll t = .ok rs ∧ rs.Pairwise (·.unitId < ·.unitId) ∧
      ∀ r, r ∈ rs ↔ ∃ u ∈ units, latest log u = some r := by
  rcases h with h | ⟨rfl, h⟩
  · exact h.readAll hsep
  · exact ⟨[], h.readAll, .nil, by simp⟩

theorem Stored.publish (h : Stored s units kd t log) (hsep : s.Separate units) {r : UnitRecord}
    (hu : r.unitId ∈ units) (hr : r.Faithful) :
    (s.publish r t).1 = .ok () ∧ Shared s units kd (s.publish r t).2 (log ++ [r]) ∨
      (s.publish r t).1 ≠ .ok () ∧ Shared s units kd (s.publish r t).2 log := by
  rcases h with h | ⟨rfl, h⟩
  · exact h.publish hsep hu hr
  · rw [h.publish]
    exact h.shared.publish hsep hu hr

theorem Stored.publish_ok (h : Stored s units kd t log) (hsep : s.Separate units)
    {r : UnitRecord} (hu : r.unitId ∈ units) (hfits : s.TmpFits r.unitId) :
    (s.publish r t).1 = .ok () := by
  rcases h with h | ⟨rfl, h⟩
  · exact h.publish_ok hsep hu hfits
  · rw [h.publish]
    exact h.shared.publish_ok hsep hu hfits

end Shared

end PeerStore

namespace Machine

open PeerStore UnitRecord

variable {σ : Type}

/-- A machine that keeps unit records in a store's directory among the files of its state. -/
structure RecordsIn (m : Machine σ) (s : PeerStore) (files : σ → FileTree) : Prop where
  readRecord_eq : ∀ u x, m.readRecord u x = s.read u (files x)
  readAll_eq : ∀ x, m.readAll x = s.readAll (files x)
  publish_fst : ∀ r x, (m.publish r x).1 = (s.publish r (files x)).1
  publish_files : ∀ r x, files (m.publish r x).2 = (s.publish r (files x)).2

/-- Units publish through their coordinators, one call after another: the host afterwards, and
the records published, in order; a call that fails publishes nothing. -/
def publishAll (m : Machine σ) : List (String × UnitRecord) → σ → σ × List UnitRecord
  | [], x => (x, [])
  | (u, r) :: calls, x =>
    match m.record u r x with
    | (.ok r', x') => ((m.publishAll calls x').1, r' :: (m.publishAll calls x').2)
    | (.error _, x') => m.publishAll calls x'

variable {m : Machine σ} {s : PeerStore} {files : σ → FileTree} {units : List String}
  {kd : List String}

theorem publishAll_cons_of_ok {u : String} {r r' : UnitRecord} {x : σ}
    (h : (m.record u r x).1 = .ok r') (calls : List (String × UnitRecord)) :
    m.publishAll ((u, r) :: calls) x =
      ((m.publishAll calls (m.record u r x).2).1, r' :: (m.publishAll calls (m.record u r x).2).2) := by
  rw [publishAll]
  cases hrec : m.record u r x with
  | mk res x' =>
    rw [hrec] at h
    cases h
    rfl

theorem publishAll_cons_of_error {u : String} {r : UnitRecord} {x : σ} {e : Error}
    (h : (m.record u r x).1 = .error e) (calls : List (String × UnitRecord)) :
    m.publishAll ((u, r) :: calls) x = m.publishAll calls (m.record u r x).2 := by
  rw [publishAll]
  cases hrec : m.record u r x with
  | mk res x' =>
    rw [hrec] at h
    cases h
    rfl

/-- One call through a coordinator publishes the unit's own record and keeps the directory
shared; a publication fails only when the unit's temporary file does not fit, and then logs
nothing. -/
theorem RecordsIn.record_step (hm : m.RecordsIn s files) (hsep : s.Separate units) {x : σ}
    {done : List UnitRecord} (h : Stored s units kd (files x) done) {u : String} {r : UnitRecord}
    (hu : u ∈ units) (hobs : ∀ o, r.observed = some o → toSet o.options = o.options) :
    ∃ r' : UnitRecord, r'.unitId = u ∧
      ((m.record u r x).1 = .ok r' ∧ Shared s units kd (files (m.record u r x).2) (done ++ [r']) ∨
        (∃ e, (m.record u r x).1 = .error e) ∧ ¬ s.TmpFits u ∧
          Shared s units kd (files (m.record u r x).2) done) := by
  have hprev : m.previous u x = latest done u := by
    simp only [Machine.previous, hm.readRecord_eq, h.read hsep hu]
  -- The coordinator's record: the unit's own, at the generation after its latest.
  obtain ⟨r', hr'⟩ : ∃ r' : UnitRecord,
      r' = { r with unitId := u, generation := ((latest done u).map (·.generation)).getD 0 + 1 } :=
    ⟨_, rfl⟩
  have hrec : m.record u r x = ((m.publish r' x).1.map fun _ => r', (m.publish r' x).2) := by
    rw [record_eq, hprev, ← hr']
  have hid : r'.unitId = u := by rw [hr']
  have hfaith : r'.Faithful := by rw [hr']; exact hobs
  have hu' : r'.unitId ∈ units := hid ▸ hu
  refine ⟨r', hid, ?_⟩
  rw [hrec, hm.publish_files, hm.publish_fst]
  rcases h.publish hsep hu' hfaith with ⟨hok, h'⟩ | ⟨herr, h'⟩
  · exact .inl ⟨by rw [hok]; rfl, h'⟩
  · -- A failed publication is one whose temporary file does not fit.
    obtain ⟨e, he⟩ : ∃ e, (s.publish r' (files x)).1 = .error e := by
      cases hp : (s.publish r' (files x)).1 with
      | error e => exact ⟨e, rfl⟩
      | ok v => exact absurd hp herr
    refine .inr ⟨⟨e, by rw [he]; rfl⟩, fun hfits => herr ?_, h'⟩
    exact h.publish_ok hsep hu' (hid ▸ hfits)

/-- Publications through the coordinators keep the directory as `Stored` says, and when every
unit's temporary file fits, every call publishes. -/
theorem RecordsIn.publishAll_stored (hm : m.RecordsIn s files) (hsep : s.Separate units) :
    ∀ (calls : List (String × UnitRecord)) (x : σ) (done : List UnitRecord),
      Stored s units kd (files x) done →
      (∀ c ∈ calls, c.1 ∈ units ∧ ∀ o, c.2.observed = some o → toSet o.options = o.options) →
      Stored s units kd (files (m.publishAll calls x).1) (done ++ (m.publishAll calls x).2) ∧
        ((∀ c ∈ calls, s.TmpFits c.1) → (m.publishAll calls x).2.map (·.unitId) = calls.map (·.1))
  | [], x, done, h, _ => by
    simp only [publishAll, List.append_nil]
    exact ⟨h, fun _ => rfl⟩
  | (u, r) :: calls, x, done, h, hcalls => by
    obtain ⟨hu, hobs⟩ := hcalls (u, r) List.mem_cons_self
    have hrest : ∀ c ∈ calls, c.1 ∈ units ∧ ∀ o, c.2.observed = some o → toSet o.options = o.options :=
      fun c hc => hcalls c (List.mem_cons_of_mem _ hc)
    obtain ⟨r', hid, hstep⟩ := hm.record_step hsep h hu hobs
    rcases hstep with ⟨hok, h'⟩ | ⟨⟨e, herr⟩, hfits, h'⟩
    · obtain ⟨hsh, hids⟩ := hm.publishAll_stored hsep calls _ (done ++ [r']) (.inl h') hrest
      rw [List.append_assoc, List.singleton_append] at hsh
      rw [publishAll_cons_of_ok hok]
      refine ⟨hsh, fun hf => ?_⟩
      rw [List.map_cons, List.map_cons, hid, hids fun c hc => hf c (List.mem_cons_of_mem _ hc)]
    · obtain ⟨hsh, -⟩ := hm.publishAll_stored hsep calls _ done (.inl h') hrest
      rw [publishAll_cons_of_error herr]
      exact ⟨hsh, fun hf => absurd (hf (u, r) List.mem_cons_self) hfits⟩

end Machine

/-- Units whose records a store keeps apart share its directory, empty or not yet made at the
start in a well-formed tree. Whatever they publish through their coordinators, in whatever order and
whichever publications fail, as long as observed options are sets: afterwards every unit reads back the last record it published, or none if it
published none, and so does its coordinator; reading all records gives exactly the units that
published, sorted, each with its last record; and when every calling unit's temporary file fits,
no publication fails, so the records published are the calls' own, one for each call, in order. -/
theorem shared_store_reads_latest {σ : Type} {m : Machine σ} {s : PeerStore}
    {files : σ → FileTree} (hm : m.RecordsIn s files) {units : List String}
    (hsep : s.Separate units) {x : σ} (hwf : (files x).WellFormed)
    (hstart : (files x).readDir s.dir = .ok [] ∨ ∃ kp n,
      (files x).lastStep s.dir = .ok (kp, .name n) ∧ (files x).find? (kp ++ [n]) = none)
    (calls : List (String × UnitRecord))
    (hcalls : ∀ c ∈ calls, c.1 ∈ units ∧ ∀ o, c.2.observed = some o → toSet o.options = o.options) :
    (∀ u ∈ units,
        m.readRecord u (m.publishAll calls x).1 = .ok (UnitRecord.latest (m.publishAll calls x).2 u) ∧
          m.previous u (m.publishAll calls x).1 = UnitRecord.latest (m.publishAll calls x).2 u) ∧
      (∃ rs, m.readAll (m.publishAll calls x).1 = .ok rs ∧ rs.Pairwise (·.unitId < ·.unitId) ∧
        ∀ r, r ∈ rs ↔ ∃ u ∈ units, UnitRecord.latest (m.publishAll calls x).2 u = some r) ∧
      ((∀ c ∈ calls, s.TmpFits c.1) → (m.publishAll calls x).2.map (·.unitId) = calls.map (·.1)) := by
  obtain ⟨kd, h₀⟩ : ∃ kd, s.Stored units kd (files x) [] := PeerStore.Stored.start hwf hstart
  obtain ⟨h, hall⟩ := hm.publishAll_stored hsep calls x [] h₀ hcalls
  rw [List.nil_append] at h
  refine ⟨fun u hu => ?_, ?_, hall⟩
  · have hread := h.read hsep hu
    rw [← hm.readRecord_eq] at hread
    exact ⟨hread, by simp only [Machine.previous, hread]⟩
  · obtain ⟨rs, hrs, hsorted, hmem⟩ := h.readAll hsep
    exact ⟨rs, (hm.readAll_eq _).trans hrs, hsorted, hmem⟩


theorem SimHost.machine_recordsIn : SimHost.machine.RecordsIn SimHost.store SimHost.files :=
  ⟨fun _ _ => rfl, fun _ => rfl, fun _ _ => rfl, fun _ _ => rfl⟩

theorem SimHost.ofLines_store (lines : List String) :
    (SimHost.ofLines lines).files.WellFormed ∧
      (SimHost.ofLines lines).files.readDir SimHost.store.dir = .ok [] := by
  simp only [SimHost.ofLines]
  refine ⟨?_, by cbv⟩
  unfold FileTree.WellFormed
  decide

theorem SimHost.join_store {name : String} (h : FileTree.PlainName name) :
    Path.join SimHost.store.dir name = "peers/" ++ name := by
  rw [Path.join, if_neg (by simp [h.startsWith]), if_neg (by cbv; simp)]
  rfl

theorem shared_store_reads_latest_simHost :
    let calls : List (String × UnitRecord) :=
      [("app/0", .empty "app/0"), ("app/1", .empty "app/1"), ("app/0", .empty "app/0")]
    let after := SimHost.machine.publishAll calls (SimHost.ofLines [])
    (∀ u ∈ ["app/0", "app/1"],
        SimHost.machine.readRecord u after.1 = .ok (UnitRecord.latest after.2 u) ∧
          SimHost.machine.previous u after.1 = UnitRecord.latest after.2 u) ∧
      (∃ rs, SimHost.machine.readAll after.1 = .ok rs ∧ rs.Pairwise (·.unitId < ·.unitId) ∧
        ∀ r, r ∈ rs ↔ ∃ u ∈ ["app/0", "app/1"], UnitRecord.latest after.2 u = some r) ∧
      after.2.map (·.unitId) = calls.map (·.1) := by
  intro calls after
  have hsep : SimHost.store.Separate ["app/0", "app/1"] := by
    refine ⟨by decide, by decide, ?_, by decide⟩
    intro u hu
    simp only [List.mem_cons, List.not_mem_nil, or_false] at hu
    rcases hu with rfl | rfl <;> cbv
  obtain ⟨hwf, hempty⟩ := SimHost.ofLines_store []
  have hcalls : ∀ c ∈ calls, c.1 ∈ ["app/0", "app/1"] ∧
      ∀ o, c.2.observed = some o → toSet o.options = o.options := by
    intro c hc
    simp only [calls, List.mem_cons, List.not_mem_nil, or_false] at hc
    rcases hc with rfl | rfl | rfl <;> simp [UnitRecord.empty]
  have h := shared_store_reads_latest SimHost.machine_recordsIn hsep hwf (.inl hempty) calls hcalls
  refine ⟨h.1, h.2.1, h.2.2 ?_⟩
  -- Both units' temporary files fit, so every call publishes.
  intro c hc
  simp only [calls, List.mem_cons, List.not_mem_nil, or_false] at hc
  rcases hc with rfl | rfl | rfl <;>
    exact ⟨by decide, by rw [SimHost.join_store (PeerStore.plainName_tmpName _)]; cbv, by cbv⟩

/-- Distinct units whose identifiers have one stem do not keep their records apart: after `app/0`
publishes, the unit `app-0`, which published nothing, reads `app/0`'s record as its own. -/
theorem shared_stem_reads_other_record :
    let after := SimHost.machine.publishAll [("app/0", .empty "app/0")] (SimHost.ofLines [])
    UnitRecord.latest after.2 "app-0" = none ∧
      ∃ r, SimHost.machine.readRecord "app-0" after.1 = .ok (some r) ∧ r.unitId = "app/0" := by
  intro after
  have hsep : SimHost.store.Separate ["app/0"] := by
    refine ⟨by decide, by decide, ?_, by decide⟩
    intro u hu
    rw [List.mem_singleton.1 hu]
    cbv
  obtain ⟨kd, h₀⟩ : ∃ kd, SimHost.store.Shared ["app/0"] kd (SimHost.ofLines []).files [] :=
    PeerStore.Shared.empty (SimHost.ofLines_store []).1 (SimHost.ofLines_store []).2
  have hfits : SimHost.store.TmpFits "app/0" :=
    ⟨by decide, by rw [SimHost.join_store (PeerStore.plainName_tmpName _)]; cbv, by cbv⟩
  obtain ⟨h, hids⟩ := SimHost.machine_recordsIn.publishAll_stored hsep
    [("app/0", .empty "app/0")] (SimHost.ofLines []) [] (.inl h₀) (by simp [UnitRecord.empty])
  rw [List.nil_append] at h
  obtain ⟨r, hlog, hr⟩ : ∃ r, after.2 = [r] ∧ r.unitId = "app/0" := by
    have hmap := hids (by simpa using hfits)
    rw [List.map_cons, List.map_nil, List.map_eq_singleton_iff] at hmap
    obtain ⟨r, hr, hid⟩ := hmap
    exact ⟨r, hr, hid⟩
  have hread : SimHost.store.read "app/0" after.1.files = .ok (UnitRecord.latest after.2 "app/0") :=
    h.read hsep (List.mem_singleton_self _)
  have hstem : PeerStore.fileStem "app-0" = PeerStore.fileStem "app/0" := by decide
  refine ⟨by simp [hlog, UnitRecord.latest, hr], r, ?_, hr⟩
  rw [SimHost.machine_recordsIn.readRecord_eq, PeerStore.read_eq_of_fileStem_eq hstem, hread]
  simp [hlog, UnitRecord.latest, hr]

end CephMount
