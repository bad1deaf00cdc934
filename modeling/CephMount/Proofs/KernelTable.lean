import CephMount.MountTable
import CephMount.Proofs.Utf8RoundTrip
import Mathlib.Data.List.Basic
import Mathlib.Tactic.SplitIfs

/-!
The mount table as the kernel writes it, read back: mounts whose source and mountpoint hold no
unescaped blank come back in order (`parse_kernelText`).
-/
namespace CephMount

namespace MountTable

/-- What the kernel writes for one character of a source or mountpoint. -/
def escaped (c : Char) : List Char :=
  if c = ' ' then "\\040".toList else if c = '\t' then "\\011".toList
  else if c = '\n' then "\\012".toList else if c = '\\' then "\\134".toList else [c]

theorem toList_escape (s : String) : (escape s).toList = s.toList.flatMap escaped := by
  simp only [escape, String.toList_ofList]
  rfl

theorem unescapeBytes_escaped (c : Char) (rest : List Char) :
    unescapeBytes (escaped c ++ rest) =
      (String.utf8EncodeChar c).map UInt8.toNat ++ unescapeBytes rest := by
  unfold escaped
  split_ifs with h1 h2 h3 h4
  · subst h1; rfl
  · subst h2; rfl
  · subst h3; rfl
  · subst h4; rfl
  · rw [List.singleton_append, unescapeBytes.eq_3 c rest fun _ _ _ _ h _ => h4 h]

/-- Reading a field undoes the kernel's escapes, whatever the text. -/
theorem unescape_escape (s : String) : unescape (escape s) = s := by
  have hbytes : ∀ cs : List Char, unescapeBytes (cs.flatMap escaped) =
      (cs.flatMap String.utf8EncodeChar).map UInt8.toNat := by
    intro cs
    induction cs with
    | nil => rfl
    | cons c cs ih => rw [List.flatMap_cons, unescapeBytes_escaped, ih, List.flatMap_cons,
        List.map_append]
  rw [unescape, toList_escape, hbytes]
  exact Text.decodeLossy_utf8Bytes s

/-- A field the reader takes whole: not empty, and without blanks. -/
def Plain (s : String) : Prop := s ≠ "" ∧ ∀ c ∈ s.toList, Text.isBlank c = false

instance (s : String) : Decidable (Plain s) :=
  @instDecidableAnd _ _ _ (List.decidableBAll _ s.toList)

/-- A source or mountpoint the kernel's escapes make a plain field: not empty, and with no blank
but a space, a tab or a line feed. -/
def Escapable (s : String) : Prop :=
  s ≠ "" ∧ ∀ c ∈ s.toList, Text.isBlank c = true → c = ' ' ∨ c = '\t' ∨ c = '\n'

instance (s : String) : Decidable (Escapable s) :=
  @instDecidableAnd _ _ _ (List.decidableBAll _ s.toList)

/-- The kernel's escapes leave no blank but the unescaped character itself, which is then no
blank of the escaped kind. -/
theorem escaped_plain {d : Char} (hd : Text.isBlank d = true → d = ' ' ∨ d = '\t' ∨ d = '\n') :
    ∀ c ∈ escaped d, Text.isBlank c = false := by
  unfold escaped
  split_ifs with h1 h2 h3 h4
  any_goals exact @of_decide_eq_true _ (List.decidableBAll _ _) rfl
  intro c hc
  rw [List.mem_singleton] at hc
  subst hc
  cases hb : Text.isBlank c
  · rfl
  · rcases hd hb with h | h | h <;> contradiction

theorem escaped_ne_nil (d : Char) : escaped d ≠ [] := by
  unfold escaped
  split_ifs <;> simp

theorem plain_escape {s : String} (h : Escapable s) : Plain (escape s) := by
  refine ⟨fun he => h.1 ?_, fun c hc => ?_⟩
  · rcases hs : s.toList with _ | ⟨d, ds⟩
    · exact String.toList_eq_nil_iff.1 hs
    · have hnil := congrArg String.toList he
      rw [toList_escape, hs, List.flatMap_cons] at hnil
      exact absurd (List.append_eq_nil_iff.1 hnil).1 (escaped_ne_nil d)
  · rw [toList_escape, List.mem_flatMap] at hc
    obtain ⟨d, hd, hc⟩ := hc
    exact escaped_plain (h.2 d hd) c hc

end MountTable

def MountEntry.kernelLine (e : MountEntry) : String :=
  " ".intercalate [MountTable.escape e.source, MountTable.escape e.mountpoint, e.fstype,
    ",".intercalate e.options, "0", "0"]

/-- The table the kernel writes for mounts, in order. -/
def MountTable.kernelText (es : List MountEntry) : String :=
  String.join (es.map fun e => e.kernelLine ++ "\n")

/-- A mount whose line the reader gives back: its source and mountpoint hold no blank the
kernel leaves unescaped, its type and joined options are plain fields, and no option holds a
comma. -/
structure MountEntry.Writable (e : MountEntry) : Prop where
  source : MountTable.Escapable e.source
  mountpoint : MountTable.Escapable e.mountpoint
  fstype : MountTable.Plain e.fstype
  options : MountTable.Plain (",".intercalate e.options)
  options_comma : ∀ o ∈ e.options, ',' ∉ o.toList

theorem MountTable.splitOnP_intercalate {α : Type} {p : α → Bool} {sep : α} (hsep : p sep = true) :
    ∀ {ls : List (List α)}, ls ≠ [] → (∀ l ∈ ls, ∀ x ∈ l, p x = false) →
      ([sep].intercalate ls).splitOnP p = ls
  | [], hne, _ => absurd rfl hne
  | [l], _, h => by simpa using List.splitOnP_eq_singleton (h l (by simp))
  | l :: l' :: ls, _, h => by
    rw [List.intercalate_cons_cons, List.append_assoc, List.singleton_append,
      List.splitOnP_append_cons_of_forall_mem (h l (by simp)) sep hsep,
      MountTable.splitOnP_intercalate hsep (by simp) fun m hm => h m (List.mem_cons_of_mem _ hm)]

namespace MountTable

theorem fields_intercalate {ws : List String} (hne : ws ≠ []) (hw : ∀ w ∈ ws, Plain w) :
    fields (" ".intercalate ws) = ws := by
  have hsplit : (" ".intercalate ws).toList.splitOnP Text.isBlank = ws.map String.toList := by
    rw [String.toList_intercalate]
    exact splitOnP_intercalate (by decide) (by simpa using hne) fun l hl => by
      obtain ⟨w, hw', rfl⟩ := List.mem_map.1 hl
      exact (hw w hw').2
  rw [fields, hsplit, List.filter_eq_self.2, List.map_map]
  · simp
  · intro l hl
    obtain ⟨w, hw', rfl⟩ := List.mem_map.1 hl
    simpa using (hw w hw').1

theorem mem_of_mem_intercalate {α : Type} {sep : List α} :
    ∀ {ls : List (List α)} {c : α}, c ∈ sep.intercalate ls → c ∈ sep ∨ ∃ l ∈ ls, c ∈ l
  | [], _, h => by simp [List.intercalate_nil] at h
  | [l], _, h => .inr ⟨l, by simp, by rwa [List.intercalate_singleton] at h⟩
  | l :: l' :: ls, c, h => by
    rw [List.intercalate_cons_cons, List.mem_append, List.mem_append] at h
    rcases h with (h | h) | h
    · exact .inr ⟨l, by simp, h⟩
    · exact .inl h
    · rcases mem_of_mem_intercalate h with h | ⟨m, hm, hcm⟩
      · exact .inl h
      · exact .inr ⟨m, List.mem_cons_of_mem _ hm, hcm⟩

theorem mem_intercalate {ws : List String} (hw : ∀ w ∈ ws, Plain w) {c : Char}
    (hc : c ∈ (" ".intercalate ws).toList) : c = ' ' ∨ Text.isBlank c = false := by
  rw [String.toList_intercalate] at hc
  rcases mem_of_mem_intercalate hc with hsep | ⟨l, hl, hcl⟩
  · exact .inl (List.mem_singleton.1 hsep)
  · obtain ⟨w, hw', rfl⟩ := List.mem_map.1 hl
    exact .inr ((hw w hw').2 c hcl)

theorem lines_join {ls : List String}
    (h : ∀ l ∈ ls, '\n' ∉ l.toList ∧ l.toList.getLast? ≠ some '\r') :
    lines (String.join (ls.map (· ++ "\n"))) = ls := by
  have hsplit : (String.join (ls.map (· ++ "\n"))).toList.splitOn '\n' =
      ls.map String.toList ++ [[]] := by
    rw [String.toList_join]
    induction ls with
    | nil => rfl
    | cons l ls ih =>
      rw [List.map_cons, List.flatMap_cons, String.toList_append, List.append_assoc,
        show "\n".toList = ['\n'] from rfl, List.singleton_append,
        List.splitOn_append_cons_self_of_not_mem (h l (by simp)).1,
        ih fun m hm => h m (List.mem_cons_of_mem _ hm)]
      rfl
  have hcr : ∀ l ∈ ls.map String.toList,
      (if l.getLast? = some '\r' then l.dropLast else l) = l := by
    intro l hl
    obtain ⟨m, hm, rfl⟩ := List.mem_map.1 hl
    rw [if_neg (h m hm).2]
  simp only [lines, hsplit, List.dropLast_concat, List.getLastD_concat, List.map_congr_left hcr]
  simp [Function.comp_def]

end MountTable

namespace MountEntry

theorem Writable.plain {e : MountEntry} (h : e.Writable) :
    ∀ w ∈ [MountTable.escape e.source, MountTable.escape e.mountpoint, e.fstype,
      ",".intercalate e.options, "0", "0"], MountTable.Plain w := by
  have hzero : MountTable.Plain "0" := by decide
  simp only [List.mem_cons, List.not_mem_nil, or_false]
  rintro w (rfl | rfl | rfl | rfl | rfl | rfl)
  · exact MountTable.plain_escape h.source
  · exact MountTable.plain_escape h.mountpoint
  · exact h.fstype
  · exact h.options
  · exact hzero
  · exact hzero

theorem splitOn_options {os : List String} (hne : ",".intercalate os ≠ "")
    (h : ∀ o ∈ os, ',' ∉ o.toList) :
    (((",".intercalate os).toList.splitOn ',').map String.ofList) = os := by
  have hos : os ≠ [] := by
    rintro rfl
    exact hne rfl
  rw [String.toList_intercalate, show ",".toList = [','] from rfl,
    List.splitOn_intercalate ',' (by simpa using h) (by simpa using hos)]
  simp

theorem ofLine?_kernelLine {e : MountEntry} (h : e.Writable) : ofLine? e.kernelLine = some e := by
  rw [ofLine?, kernelLine, MountTable.fields_intercalate (by simp) h.plain]
  simp only [MountTable.unescape_escape, splitOn_options h.options.1 h.options_comma]

theorem kernelLine_lineFree {e : MountEntry} (h : e.Writable) :
    '\n' ∉ e.kernelLine.toList ∧ e.kernelLine.toList.getLast? ≠ some '\r' := by
  refine ⟨fun hn => ?_, ?_⟩
  · rcases MountTable.mem_intercalate h.plain hn with h' | h'
    · cases h'
    · cases h'
  · simp [kernelLine, String.toList_intercalate, List.getLast?_append, List.getLast?_cons]

end MountEntry

namespace MountTable

theorem parse_kernelText_eq {es : List MountEntry} (h : ∀ e ∈ es, e.Writable) :
    parse (kernelText es) = es := by
  have hlines : lines (kernelText es) = es.map MountEntry.kernelLine := by
    have hmap : es.map (fun e => e.kernelLine ++ "\n") =
        (es.map MountEntry.kernelLine).map (· ++ "\n") := by
      rw [List.map_map]
      rfl
    rw [kernelText, hmap]
    exact lines_join fun l hl => by
      obtain ⟨e, he, rfl⟩ := List.mem_map.1 hl
      exact MountEntry.kernelLine_lineFree (h e he)
  have hsome : ∀ e ∈ es, (MountEntry.ofLine? ∘ MountEntry.kernelLine) e = some e := by
    intro e he
    rw [Function.comp_apply]
    exact MountEntry.ofLine?_kernelLine (h e he)
  rw [parse, hlines, List.filterMap_map, List.filterMap_congr hsome, List.filterMap_some]

theorem observe_eq_getLast? (es : List MountEntry) (p : String) :
    observe es p = ((es.filter fun e => Path.same e.mountpoint p).getLast?).elim
      (Observation.unmounted p) Observation.ofEntry := by
  rw [observe, ← List.head?_filter, List.filter_reverse, List.head?_reverse]
  cases (es.filter fun e => Path.same e.mountpoint p).getLast? <;> rfl

end MountTable

/-- Reading the table the kernel writes for mounts whose sources and mountpoints hold no blank
but those the kernel escapes gives back each mount, in order: a probe then shows the last mount
on the path probed, and the CephFS mounts are those among them. -/
theorem parse_kernelText {es : List MountEntry} (h : ∀ e ∈ es, e.Writable) :
    MountTable.parse (MountTable.kernelText es) = es ∧
      (∀ p, MountTable.observe (MountTable.parse (MountTable.kernelText es)) p =
        ((es.filter fun e => Path.same e.mountpoint p).getLast?).elim
          (Observation.unmounted p) Observation.ofEntry) ∧
      MountTable.cephMounts (MountTable.parse (MountTable.kernelText es)) =
        es.filter MountEntry.isCeph := by
  have hparse := MountTable.parse_kernelText_eq h
  refine ⟨hparse, fun p => ?_, ?_⟩
  · rw [hparse, MountTable.observe_eq_getLast?]
  · rw [hparse, MountTable.cephMounts]

/-- A CephFS share whose path and mountpoint hold spaces, beside a local disk. -/
theorem parse_kernelText_spaces :
    (∀ e ∈ [
        { source := "10.0.0.1:6789:/export/my share", mountpoint := "/mnt/my share",
          fstype := "ceph", options := ["rw", "relatime", "name=admin"] },
        { source := "/dev/sda1", mountpoint := "/", fstype := "ext4", options := ["rw"] }],
      MountEntry.Writable e) ∧
    MountTable.parse (MountTable.kernelText [
        { source := "10.0.0.1:6789:/export/my share", mountpoint := "/mnt/my share",
          fstype := "ceph", options := ["rw", "relatime", "name=admin"] },
        { source := "/dev/sda1", mountpoint := "/", fstype := "ext4", options := ["rw"] }]) = [
        { source := "10.0.0.1:6789:/export/my share", mountpoint := "/mnt/my share",
          fstype := "ceph", options := ["rw", "relatime", "name=admin"] },
        { source := "/dev/sda1", mountpoint := "/", fstype := "ext4", options := ["rw"] }] := by
  have hw : ∀ e ∈ [
        { source := "10.0.0.1:6789:/export/my share", mountpoint := "/mnt/my share",
          fstype := "ceph", options := ["rw", "relatime", "name=admin"] },
        { source := "/dev/sda1", mountpoint := "/", fstype := "ext4", options := ["rw"] }],
      MountEntry.Writable e := by
    simp only [List.mem_cons, List.not_mem_nil, or_false]
    rintro e (rfl | rfl) <;> exact ⟨by decide, by decide, by decide, by decide, by decide⟩
  exact ⟨hw, (parse_kernelText hw).1⟩

/-- A no-break space is a blank the kernel does not escape: a mountpoint holding one is read
back cut at it. -/
theorem kernelText_nbsp :
    Text.isBlank '\u00A0' = true ∧
      MountTable.parse (MountTable.kernelText
          [{ source := "src", mountpoint := "/data\u00A0x", fstype := "ceph", options := ["rw"] }]) =
        [{ source := "src", mountpoint := "/data", fstype := "x", options := ["ceph"] }] := by
  decide

end CephMount
