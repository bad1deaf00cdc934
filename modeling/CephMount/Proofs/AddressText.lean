import CephMount.Net.Ipv6
import Mathlib.Data.List.Basic
import Mathlib.Data.List.Induction
import Mathlib.Tactic.IntervalCases

/-!
The address texts read back: every IPv4 and IPv6 address parses back from its printed text, and
whatever the parser accepts is an address of the right width.
-/

namespace CephMount.Net

theorem digitValue_lt {radix : Nat} {c : Char} {d : Nat} (h : digitValue radix c = some d) :
    d < radix := by
  unfold digitValue at h
  split_ifs at h with h₁ h₂ h₃ h₄ <;> simp only [Option.some.injEq] at h
  · omega
  · obtain ⟨rfl, -, hf⟩ := h₃
    have : c.toNat ≤ 'f'.toNat := hf
    simp at this h
    omega
  · obtain ⟨rfl, -, hf⟩ := h₄
    have : c.toNat ≤ 'F'.toNat := hf
    simp at this h
    omega

theorem digitValue_digitChar {radix d : Nat} (hr : radix = 10 ∨ radix = 16) (hd : d < radix) :
    digitValue radix (Nat.digitChar d) = some d := by
  rcases hr with rfl | rfl <;> interval_cases d <;> rfl

theorem digitRun_append {radix : Nat} {cs : List Char}
    (hcs : ∀ c ∈ cs, (digitValue radix c).isSome) (rest : List Char) :
    digitRun radix (cs ++ rest) =
      (cs.filterMap (digitValue radix) ++ (digitRun radix rest).1, (digitRun radix rest).2) := by
  induction cs with
  | nil => rfl
  | cons c cs ih =>
    obtain ⟨d, hd⟩ := Option.isSome_iff_exists.1 (hcs c (by simp))
    simp only [List.cons_append, digitRun, hd, List.filterMap_cons,
      ih (fun c hc => hcs c (by simp [hc]))]

theorem digitRun_of_head {radix : Nat} {rest : List Char}
    (h : ∀ c ∈ rest.head?, digitValue radix c = none) : digitRun radix rest = ([], rest) := by
  rcases rest with _ | ⟨c, rest⟩
  · rfl
  · simp [digitRun, h c rfl]

theorem digitsValue_append_singleton (radix : Nat) (ds : List Nat) (d : Nat) :
    digitsValue radix (ds ++ [d]) = digitsValue radix ds * radix + d := by
  simp [digitsValue, List.foldl_append]

theorem toDigits_eq_map {radix : Nat} (hr : 1 < radix) (n : Nat) :
    ∃ ds, Nat.toDigits radix n = ds.map Nat.digitChar ∧ (∀ d ∈ ds, d < radix) ∧
      digitsValue radix ds = n ∧ (ds.head? = some 0 → n = 0) := by
  induction n using Nat.strong_induction_on with
  | _ n ih =>
    rw [Nat.toDigits_eq_if hr]
    split_ifs with hn
    · exact ⟨[n], rfl, by simpa using hn, by simp [digitsValue], by simp⟩
    · have hlt : n / radix < n := Nat.div_lt_self (by omega) hr
      obtain ⟨ds, hds, hlt', hval, hhead⟩ := ih (n / radix) hlt
      have hne : ds ≠ [] := by
        rintro rfl
        simp at hds
      refine ⟨ds ++ [n % radix], by simp [hds], ?_, ?_, ?_⟩
      · intro d hd
        rcases List.mem_append.1 hd with hd | hd
        · exact hlt' d hd
        · rw [List.mem_singleton.1 hd]
          exact Nat.mod_lt n (by omega)
      · rw [digitsValue_append_singleton, hval]
        exact Nat.div_add_mod' n radix
      · intro h0
        have hfirst : ds.head? = some 0 := by
          cases ds with
          | nil => exact absurd rfl hne
          | cons x xs => simpa using h0
        have := hhead hfirst
        rw [Nat.div_eq_zero_iff] at this
        omega


theorem digitsValue_lt {radix : Nat} {ds : List Nat} (hds : ∀ d ∈ ds, d < radix) :
    digitsValue radix ds < radix ^ ds.length := by
  induction ds using List.reverseRecOn with
  | nil => simp [digitsValue]
  | append_singleton ds d ih =>
    have hv : digitsValue radix ds + 1 ≤ radix ^ ds.length :=
      ih (fun d' hd' => hds d' (by simp [hd']))
    have hd : d < radix := hds d (by simp)
    calc digitsValue radix (ds ++ [d]) = digitsValue radix ds * radix + d :=
          digitsValue_append_singleton radix ds d
      _ < (digitsValue radix ds + 1) * radix := by rw [Nat.add_one_mul]; omega
      _ ≤ radix ^ ds.length * radix := Nat.mul_le_mul_right radix hv
      _ = radix ^ (ds ++ [d]).length := by simp [pow_succ]

theorem digitRun_suffix (radix : Nat) (cs : List Char) : (digitRun radix cs).2 <:+ cs := by
  induction cs with
  | nil => exact List.suffix_refl []
  | cons c cs ih =>
    simp only [digitRun]
    split
    · exact ih.trans (List.suffix_cons c cs)
    · exact List.suffix_refl _

theorem digitRun_lt (radix : Nat) (cs : List Char) : ∀ d ∈ (digitRun radix cs).1, d < radix := by
  induction cs with
  | nil => simp [digitRun]
  | cons c cs ih =>
    simp only [digitRun]
    split
    · next d hd =>
      intro d' hd'
      rcases List.mem_cons.1 hd' with rfl | hd'
      · exact digitValue_lt hd
      · exact ih d' hd'
    · simp

theorem readNumber_eq_some {radix maxDigits : Nat} {zeroPrefix : Bool} {cs rest : List Char}
    {v : Nat} (h : readNumber radix maxDigits zeroPrefix cs = some (v, rest)) :
    ∃ ds, digitRun radix cs = (ds, rest) ∧ ds ≠ [] ∧ ds.length ≤ maxDigits ∧
      v = digitsValue radix ds := by
  unfold readNumber at h
  rcases hrun : digitRun radix cs with ⟨ds, r⟩
  simp only [hrun] at h
  split_ifs at h with hbad
  simp only [Option.some.injEq, Prod.mk.injEq] at h
  obtain ⟨rfl, rfl⟩ := h
  exact ⟨ds, rfl, by rintro rfl; simp at hbad, by omega, rfl⟩

theorem readNumber_suffix {radix maxDigits : Nat} {zeroPrefix : Bool} {cs rest : List Char}
    {v : Nat} (h : readNumber radix maxDigits zeroPrefix cs = some (v, rest)) : rest <:+ cs := by
  obtain ⟨ds, hrun, -⟩ := readNumber_eq_some h
  simpa [hrun] using digitRun_suffix radix cs

theorem readNumber_lt {radix maxDigits : Nat} {zeroPrefix : Bool} {cs rest : List Char}
    {v : Nat} (h : readNumber radix maxDigits zeroPrefix cs = some (v, rest)) :
    v < radix ^ maxDigits := by
  obtain ⟨ds, hrun, hne, hlen, rfl⟩ := readNumber_eq_some h
  have hds : ∀ d ∈ ds, d < radix := by simpa [hrun] using digitRun_lt radix cs
  obtain ⟨d, hd⟩ := List.exists_mem_of_ne_nil ds hne
  have hpos : 0 < radix := Nat.lt_of_le_of_lt (Nat.zero_le d) (hds d hd)
  calc digitsValue radix ds < radix ^ ds.length := digitsValue_lt hds
    _ ≤ radix ^ maxDigits := Nat.pow_le_pow_right hpos hlen

theorem readNumber_of_head {radix maxDigits : Nat} {zeroPrefix : Bool} {cs : List Char}
    (h : ∀ c ∈ cs.head?, digitValue radix c = none) :
    readNumber radix maxDigits zeroPrefix cs = none := by
  simp [readNumber, digitRun_of_head h]

theorem readNumber_toDigits {radix maxDigits : Nat} (hr : radix = 10 ∨ radix = 16)
    (zeroPrefix : Bool) {n : Nat} (hk : 0 < maxDigits) (hn : n < radix ^ maxDigits)
    {rest : List Char} (hrest : ∀ c ∈ rest.head?, digitValue radix c = none) :
    readNumber radix maxDigits zeroPrefix (Nat.toDigits radix n ++ rest) = some (n, rest) := by
  have h1 : 1 < radix := by omega
  obtain ⟨ds, hds, hlt, hval, hhead⟩ := toDigits_eq_map h1 n
  have hread : (ds.map Nat.digitChar).filterMap (digitValue radix) = ds := by
    rw [List.filterMap_map]
    conv => rhs; rw [← @List.filterMap_some Nat ds]
    exact List.filterMap_congr fun d hd => digitValue_digitChar hr (hlt d hd)
  have hrun : digitRun radix (Nat.toDigits radix n ++ rest) = (ds, rest) := by
    have hcs : ∀ c ∈ ds.map Nat.digitChar, (digitValue radix c).isSome := by
      intro c hc
      obtain ⟨d, hd, rfl⟩ := List.mem_map.1 hc
      simp [digitValue_digitChar hr (hlt d hd)]
    rw [hds, digitRun_append hcs, digitRun_of_head hrest, hread, List.append_nil]
  have hlen : ds.length = (Nat.toDigits radix n).length := by simp [hds]
  have hfits : ds.length ≤ maxDigits := hlen ▸ (Nat.length_toDigits_le_iff h1 hk).2 hn
  have hpos : ds.length ≠ 0 := by simp [hlen, Nat.toDigits_ne_nil]
  have hzero : ¬ (ds.head? = some 0 ∧ 1 < ds.length) := by
    rintro ⟨h0, hlong⟩
    have hn0 : n = 0 := hhead h0
    subst hn0
    simp [hlen] at hlong
  simp only [readNumber, hrun]
  rw [if_neg (by omega), if_neg (by simp [hzero]), hval]


theorem digitValue_of_mem_toDigits {radix n : Nat} (hr : radix = 10 ∨ radix = 16) {c : Char}
    (hc : c ∈ Nat.toDigits radix n) : (digitValue radix c).isSome := by
  obtain ⟨ds, hds, hlt, -⟩ := toDigits_eq_map (by omega : 1 < radix) n
  rw [hds] at hc
  obtain ⟨d, hd, rfl⟩ := List.mem_map.1 hc
  simp [digitValue_digitChar hr (hlt d hd)]

theorem digitValue_hex_of_decimal {c : Char} (h : (digitValue 10 c).isSome) :
    (digitValue 16 c).isSome := by
  unfold digitValue at h ⊢
  by_cases hd : '0' ≤ c ∧ c ≤ '9'
  · rw [if_pos hd] at h ⊢
    split_ifs at h with hlt
    · rw [if_pos (by omega)]
      rfl
    · cases h
  · simp [hd] at h

theorem expectChar_of_head {x : Char} {cs : List Char} (h : ∀ c ∈ cs.head?, c ≠ x) :
    expectChar x cs = none := by
  cases cs with
  | nil => rfl
  | cons c cs => simp [expectChar, h c rfl]

theorem readOctet_eq_some {cs rest : List Char} {a : UInt8} (h : readOctet cs = some (a, rest)) :
    ∃ v, readNumber 10 3 false cs = some (v, rest) ∧ v < 256 ∧ a = v.toUInt8 := by
  cases hn : readNumber 10 3 false cs with
  | none => simp [readOctet, hn] at h
  | some p =>
    obtain ⟨v, r⟩ := p
    simp only [readOctet, hn, Option.bind_eq_bind, Option.bind_some] at h
    split_ifs at h with hv
    simp only [Option.some.injEq, Prod.mk.injEq] at h
    obtain ⟨rfl, rfl⟩ := h
    exact ⟨v, rfl, hv, rfl⟩

theorem readOctet_toDigits (a : UInt8) {rest : List Char}
    (hrest : ∀ c ∈ rest.head?, digitValue 10 c = none) :
    readOctet (Nat.toDigits 10 a.toNat ++ rest) = some (a, rest) := by
  have hlt : a.toNat < 256 := a.toNat_lt
  have hn : readNumber 10 3 false (Nat.toDigits 10 a.toNat ++ rest) = some (a.toNat, rest) :=
    readNumber_toDigits (.inl rfl) false (by norm_num) (by norm_num; omega) hrest
  simp [readOctet, hn, hlt]

namespace Ipv4Addr

theorem render_toList (x : Ipv4Addr) :
    x.render.toList = Nat.toDigits 10 x.a.toNat ++ '.' :: (Nat.toDigits 10 x.b.toNat ++
      '.' :: (Nat.toDigits 10 x.c.toNat ++ '.' :: Nat.toDigits 10 x.d.toNat)) := by
  simp [render, Nat.toList_repr]

theorem read_render (x : Ipv4Addr) {rest : List Char}
    (hrest : ∀ c ∈ rest.head?, digitValue 10 c = none) :
    read (x.render.toList ++ rest) = some (x, rest) := by
  have hdot : ∀ cs, ∀ c ∈ ('.' :: cs).head?, digitValue 10 c = none := by
    intro cs c hc
    simp only [List.head?_cons, Option.mem_def, Option.some.injEq] at hc
    subst hc
    decide
  rw [render_toList]
  simp only [List.append_assoc, List.cons_append]
  simp [read, readOctet_toDigits _ (hdot _), readOctet_toDigits _ hrest, expectChar]

theorem parse?_render (x : Ipv4Addr) : parse? x.render = some x := by
  have h : read (x.render.toList ++ []) = some (x, []) := x.read_render (by simp)
  rw [List.append_nil] at h
  simp [parse?, h]

theorem mem_render {x : Ipv4Addr} {c : Char} (hc : c ∈ x.render.toList) :
    c = '.' ∨ (digitValue 10 c).isSome := by
  rw [render_toList] at hc
  simp only [List.mem_append, List.mem_cons] at hc
  rcases hc with hc | hc | hc | hc | hc | hc | hc <;>
    first
    | exact .inl hc
    | exact .inr (digitValue_of_mem_toDigits (.inl rfl) hc)

theorem render_head (x : Ipv4Addr) :
    ∃ c cs, x.render.toList = c :: cs ∧ (digitValue 10 c).isSome := by
  rcases hds : Nat.toDigits 10 x.a.toNat with _ | ⟨c, cs⟩
  · exact absurd hds Nat.toDigits_ne_nil
  · refine ⟨c, _, by rw [render_toList, hds, List.cons_append], ?_⟩
    exact digitValue_of_mem_toDigits (.inl rfl) (by rw [hds]; simp)

theorem read_of_not_mem {cs : List Char} (h : '.' ∉ cs) : read cs = none := by
  cases ho : readOctet cs with
  | none => simp [read, ho]
  | some p =>
    obtain ⟨a, r⟩ := p
    obtain ⟨v, hv, -⟩ := readOctet_eq_some ho
    have hr : r <:+ cs := readNumber_suffix hv
    have hx : expectChar '.' r = none := expectChar_of_head fun c hc hdot =>
      h (hdot ▸ hr.subset (List.mem_of_mem_head? hc))
    simp [read, ho, hx]

theorem read_of_head {cs : List Char} (h : ∀ c ∈ cs.head?, digitValue 10 c = none) :
    read cs = none := by
  have ho : readOctet cs = none := by simp [readOctet, readNumber_of_head h]
  simp [read, ho]

end Ipv4Addr

namespace Ipv6Addr

/-- The text of groups as `hexGroups` writes them, each after a colon unless it comes first. -/
def groupsText (first : Bool) : List Nat → List Char
  | [] => []
  | g :: gs => (if first then [] else [':']) ++ Nat.toDigits 16 g ++ groupsText false gs

theorem hexGroups_toList (gs : List Nat) : (hexGroups gs).toList = groupsText true gs := by
  -- the separator goes between groups, so each group after the first brings its colon along
  suffices h : ∀ g, [':'].intercalate ((g :: gs).map fun g => Nat.toDigits 16 g) =
      Nat.toDigits 16 g ++ groupsText false gs by
    cases gs with
    | nil => simp [hexGroups, groupsText]
    | cons g gs =>
      simpa [hexGroups, String.toList_intercalate, Function.comp_def, groupsText] using h g
  induction gs with
  | nil => simp [groupsText]
  | cons g' gs ih =>
    intro g
    rw [List.map_cons, List.map_cons, List.intercalate_cons_cons, ← List.map_cons, ih g']
    simp [groupsText]

theorem mem_groupsText {first : Bool} {gs : List Nat} {c : Char} (hc : c ∈ groupsText first gs) :
    c = ':' ∨ (digitValue 16 c).isSome := by
  induction gs generalizing first with
  | nil => simp [groupsText] at hc
  | cons g gs ih =>
    simp only [groupsText, List.mem_append] at hc
    rcases hc with (hc | hc) | hc
    · cases first <;> simp_all
    · exact .inr (digitValue_of_mem_toDigits (.inr rfl) hc)
    · exact ih hc

theorem dot_not_mem_groupsText (first : Bool) (gs : List Nat) : '.' ∉ groupsText first gs := by
  intro hc
  rcases mem_groupsText hc with h | h
  · exact absurd h (by decide)
  · exact absurd h (by decide)

theorem readGroups_stop (k : Nat) (first : Bool) {rest : List Char}
    (h : rest = [] ∨ ∃ r, rest = ':' :: ':' :: r) : readGroups k first rest = ([], false, rest) := by
  -- neither an address nor a number starts at a colon or at the end
  have hcolon : ∀ r, Ipv4Addr.read (':' :: r) = none ∧ readNumber 16 4 true (':' :: r) = none :=
    fun r => ⟨Ipv4Addr.read_of_head (by simp; decide), readNumber_of_head (by simp; decide)⟩
  have hend : Ipv4Addr.read [] = none ∧ readNumber 16 4 true [] = none :=
    ⟨Ipv4Addr.read_of_head (by simp), readNumber_of_head (by simp)⟩
  cases k with
  | zero => rfl
  | succ k =>
    rcases h with rfl | ⟨r, rfl⟩ <;> cases first <;>
      simp [readGroups, expectChar, hcolon, hend]

theorem readGroups_succ_of_number (k : Nat) (first : Bool) {cs rest : List Char} {g : Nat}
    (hv4 : Ipv4Addr.read cs = none) (hn : readNumber 16 4 true cs = some (g, rest)) :
    readGroups (k + 1) first ((if first then [] else [':']) ++ cs) =
      (g :: (readGroups k false rest).1, (readGroups k false rest).2.1,
        (readGroups k false rest).2.2) := by
  cases first <;> simp [readGroups, expectChar, hv4, hn]

theorem readGroups_groupsText (first : Bool) {gs : List Nat} (hgs : ∀ g ∈ gs, g < 65536)
    {k : Nat} (hk : gs.length ≤ k) {rest : List Char} (hdot : '.' ∉ rest)
    (hstop : rest = [] ∨ ∃ r, rest = ':' :: ':' :: r) :
    readGroups k first (groupsText first gs ++ rest) = (gs, false, rest) := by
  induction gs generalizing first k with
  | nil => exact readGroups_stop k first hstop
  | cons g gs ih =>
    obtain ⟨k, rfl⟩ : ∃ k', k = k' + 1 := ⟨k - 1, by simp at hk; omega⟩
    have hg : g < 16 ^ 4 := hgs g (by simp)
    have hnext : ∀ c ∈ (groupsText false gs ++ rest).head?, digitValue 16 c = none := by
      have hcolon : digitValue 16 ':' = none := by decide
      cases gs with
      | nil => rcases hstop with rfl | ⟨r, rfl⟩ <;> simp [groupsText, hcolon]
      | cons g' gs => simp [groupsText, hcolon]
    have hnodot : '.' ∉ Nat.toDigits 16 g ++ (groupsText false gs ++ rest) := by
      have hhex : '.' ∉ Nat.toDigits 16 g := fun h =>
        absurd (digitValue_of_mem_toDigits (.inr rfl) h) (by decide)
      simp [hhex, dot_not_mem_groupsText, hdot]
    rw [groupsText, List.append_assoc, List.append_assoc,
      readGroups_succ_of_number k first (Ipv4Addr.read_of_not_mem hnodot)
        (readNumber_toDigits (.inr rfl) true (by norm_num) hg hnext),
      ih false (fun g hg => hgs g (by simp [hg])) (by simp at hk; omega)]

theorem read_of_full {cs : List Char} {headV4 : Bool} {rest : List Char}
    {head : List Nat} (h : readGroups 8 true cs = (head, headV4, rest)) (hlen : head.length = 8) :
    read cs = some (⟨head⟩, rest) := by
  simp [read, h, hlen]

theorem read_of_gap {cs r rest : List Char} {head tail : List Nat} {tailV4 : Bool}
    (h : readGroups 8 true cs = (head, false, ':' :: ':' :: r)) (hlen : head.length ≠ 8)
    (htail : readGroups (8 - (head.length + 1)) true r = (tail, tailV4, rest)) :
    read cs = some (⟨head ++ List.replicate (8 - head.length - tail.length) 0 ++ tail⟩, rest) := by
  rw [show 8 - (head.length + 1) = 7 - head.length by omega] at htail
  simp [read, h, hlen, htail, expectChar]

/-- The step of `zeroRun`: the longest run so far, the current run, and the next index. -/
def zeroStep (st : (Nat × Nat) × (Nat × Nat) × Nat) (g : Nat) :
    (Nat × Nat) × (Nat × Nat) × Nat :=
  let (best, cur, i) := st
  if g = 0 then
    let cur := if cur.2 = 0 then (i, 1) else (cur.1, cur.2 + 1)
    (if best.2 < cur.2 then cur else best, cur, i + 1)
  else (best, (0, 0), i + 1)

theorem zeroRun_eq_foldl (gs : List Nat) :
    zeroRun gs = (gs.foldl zeroStep ((0, 0), (0, 0), 0)).1 := rfl

def ZerosAt (gs : List Nat) (a n : Nat) : Prop :=
  ∀ j, a ≤ j → j < a + n → gs[j]? = some 0

theorem ZerosAt.of_zero (gs : List Nat) (a : Nat) : ZerosAt gs a 0 := by
  intro j hj hj'
  omega

theorem ZerosAt.append {gs : List Nat} {a n : Nat} (h : ZerosAt gs a n) (hs : List Nat) :
    ZerosAt (gs ++ hs) a n := by
  intro j hj hj'
  have hzero := h j hj hj'
  have hlt : j < gs.length := (List.getElem?_eq_some_iff.1 hzero).1
  rw [List.getElem?_append_left hlt]
  exact hzero

theorem ZerosAt.extend {gs : List Nat} {a n : Nat} (h : ZerosAt gs a n)
    (hend : a + n = gs.length) : ZerosAt (gs ++ [0]) a (n + 1) := by
  intro j hj hj'
  rcases Nat.lt_or_ge j (a + n) with hlt | hge
  · exact h.append [0] j hj hlt
  · obtain rfl : j = gs.length := by omega
    simp

/-- What the fold of `zeroRun` knows after a prefix of the groups: the index is the prefix's
length, both runs are zero groups, and a current run that has started ends at the index. -/
structure ZeroScan (gs : List Nat) (st : (Nat × Nat) × (Nat × Nat) × Nat) : Prop where
  index : st.2.2 = gs.length
  best : ZerosAt gs st.1.1 st.1.2
  cur : ZerosAt gs st.2.1.1 st.2.1.2
  cur_end : st.2.1.2 = 0 ∨ st.2.1.1 + st.2.1.2 = gs.length

theorem ZeroScan.step {gs : List Nat} {st : (Nat × Nat) × (Nat × Nat) × Nat}
    (h : ZeroScan gs st) (g : Nat) : ZeroScan (gs ++ [g]) (zeroStep st g) := by
  obtain ⟨⟨b₁, b₂⟩, ⟨c₁, c₂⟩, i⟩ := st
  obtain ⟨hi, hb, hc, hend⟩ := h
  dsimp only at hi hb hc hend
  subst hi
  by_cases hg : g = 0
  · subst hg
    obtain ⟨c₁', c₂', hcur, hcur', hnew⟩ : ∃ c₁' c₂', ZerosAt (gs ++ [0]) c₁' c₂' ∧
        c₁' + c₂' = gs.length + 1 ∧
        (if c₂ = 0 then (gs.length, 1) else (c₁, c₂ + 1)) = (c₁', c₂') := by
      by_cases hc0 : c₂ = 0
      · exact ⟨gs.length, 1, (ZerosAt.of_zero gs gs.length).extend rfl, rfl, by simp [hc0]⟩
      · have hend' : c₁ + c₂ = gs.length := hend.resolve_left hc0
        exact ⟨c₁, c₂ + 1, hc.extend hend', by omega, by simp [hc0]⟩
    simp only [zeroStep, if_true, hnew]
    refine ⟨by simp, ?_, hcur, .inr (by simpa using hcur')⟩
    split_ifs
    · exact hcur
    · exact hb.append [0]
  · simp only [zeroStep, if_neg hg]
    exact ⟨by simp, hb.append [g], ZerosAt.of_zero _ 0, .inl rfl⟩

theorem zeroScan_foldl (gs : List Nat) : ZeroScan gs (gs.foldl zeroStep ((0, 0), (0, 0), 0)) := by
  induction gs using List.reverseRecOn with
  | nil => exact ⟨rfl, ZerosAt.of_zero [] 0, ZerosAt.of_zero [] 0, .inl rfl⟩
  | append_singleton gs g ih =>
    rw [List.foldl_append, List.foldl_cons, List.foldl_nil]
    exact ih.step g

theorem zerosAt_zeroRun (gs : List Nat) : ZerosAt gs (zeroRun gs).1 (zeroRun gs).2 := by
  rw [zeroRun_eq_foldl]
  exact (zeroScan_foldl gs).best

theorem ZerosAt.eq_append {gs : List Nat} {a n : Nat} (h : ZerosAt gs a n) (hn : 0 < n) :
    a + n ≤ gs.length ∧ gs = gs.take a ++ List.replicate n 0 ++ gs.drop (a + n) := by
  have hlen : a + n ≤ gs.length := by
    have hlast := h (a + n - 1) (by omega) (by omega)
    have := (List.getElem?_eq_some_iff.1 hlast).1
    omega
  have hmid : (gs.drop a).take n = List.replicate n 0 := by
    rw [List.eq_replicate_iff]
    refine ⟨by simp; omega, fun b hb => ?_⟩
    obtain ⟨j, hj⟩ := List.mem_iff_getElem?.1 hb
    rw [List.getElem?_take, List.getElem?_drop] at hj
    split_ifs at hj with hjn
    · rw [h (a + j) (by omega) (by omega)] at hj
      exact (Option.some.inj hj).symm
  refine ⟨hlen, ?_⟩
  calc gs = gs.take a ++ gs.drop a := (List.take_append_drop a gs).symm
    _ = gs.take a ++ ((gs.drop a).take n ++ (gs.drop a).drop n) := by
      rw [List.take_append_drop n (gs.drop a)]
    _ = gs.take a ++ List.replicate n 0 ++ gs.drop (a + n) := by
      rw [hmid, List.drop_drop, List.append_assoc]

/-- An address of eight 16-bit groups: the 128-bit addresses. -/
structure WellFormed (x : Ipv6Addr) : Prop where
  length_groups : x.groups.length = 8
  groups_lt : ∀ g ∈ x.groups, g < 65536

/-- The three forms `render` writes: an IPv4-mapped address with its dotted tail, groups around
a `::` that stands for a run of at least two zero groups, or all eight groups. -/
theorem render_cases {x : Ipv6Addr} (hx : x.WellFormed) :
    (∃ v : Ipv4Addr, x.groups = [0, 0, 0, 0, 0, 0xffff] ++ ofIpv4Groups v ∧
        x.render.toList = "::ffff:".toList ++ v.render.toList) ∨
      (∃ s n, 1 < n ∧ s + n ≤ 8 ∧
        x.groups = x.groups.take s ++ List.replicate n 0 ++ x.groups.drop (s + n) ∧
        x.render.toList = groupsText true (x.groups.take s) ++
          ':' :: ':' :: groupsText true (x.groups.drop (s + n))) ∨
      x.render.toList = groupsText true x.groups := by
  obtain ⟨gs⟩ := x
  obtain ⟨hlen, hlt⟩ := hx
  dsimp only at hlen hlt
  unfold render
  split
  · next hi lo hgs =>
    subst hgs
    have hhi : hi < 65536 := hlt hi (by simp)
    have hlo : lo < 65536 := hlt lo (by simp)
    refine .inl ⟨⟨(hi / 256).toUInt8, (hi % 256).toUInt8, (lo / 256).toUInt8,
      (lo % 256).toUInt8⟩, ?_, by simp⟩
    simp only [ofIpv4Groups, List.cons_append, List.nil_append, List.cons.injEq, and_true,
      true_and, Nat.toUInt8_eq, UInt8.toNat_ofNat']
    omega
  · next gs' _ =>
    rcases hz : zeroRun gs with ⟨s, n⟩
    simp only
    split_ifs with hn
    · have hzeros : ZerosAt gs s n := by simpa [hz] using zerosAt_zeroRun gs
      obtain ⟨hsn, hsplit⟩ := hzeros.eq_append (by omega)
      exact .inr (.inl ⟨s, n, hn, hlen ▸ hsn, hsplit, by simp [hexGroups_toList]⟩)
    · exact .inr (.inr (hexGroups_toList gs))

/-- The text of an IPv4-mapped address reads back: nothing before the `::`, then `ffff` and
the dotted address, which takes the last two groups. -/
theorem read_mapped (v : Ipv4Addr) :
    read ("::ffff:".toList ++ v.render.toList) =
      some (⟨[0, 0, 0, 0, 0, 0xffff] ++ ofIpv4Groups v⟩, []) := by
  have hv : Ipv4Addr.read (v.render.toList ++ []) = some (v, []) := v.read_render (by simp)
  rw [List.append_nil] at hv
  have hffff : readNumber 16 4 true (Nat.toDigits 16 0xffff ++ ':' :: v.render.toList) =
      some (0xffff, ':' :: v.render.toList) :=
    readNumber_toDigits (.inr rfl) true (by norm_num) (by norm_num) (by simp; decide)
  have hlast : readGroups 6 false (':' :: v.render.toList) = (ofIpv4Groups v, true, []) := by
    simp [readGroups, expectChar, hv]
  have htail : readGroups 7 true (Nat.toDigits 16 0xffff ++ ':' :: v.render.toList) =
      ([0xffff] ++ ofIpv4Groups v, true, []) := by
    have hstep := readGroups_succ_of_number 6 true
      (Ipv4Addr.read_of_head (by simp; decide)) hffff
    rw [hlast] at hstep
    simpa using hstep
  have hhead : readGroups 8 true ("::ffff:".toList ++ v.render.toList) =
      ([], false, ':' :: ':' :: (Nat.toDigits 16 0xffff ++ ':' :: v.render.toList)) :=
    readGroups_stop 8 true (.inr ⟨_, rfl⟩)
  rw [read_of_gap hhead (by simp) htail]
  simp [ofIpv4Groups]

/-- Every 128-bit address reads back from its text. -/
theorem parse?_render {x : Ipv6Addr} (hx : x.WellFormed) : parse? x.render = some x := by
  suffices hread : read x.render.toList = some (x, []) by simp [parse?, hread]
  rcases render_cases hx with ⟨v, hgs, htext⟩ | ⟨s, n, hn, hsn, hgs, htext⟩ | htext
  · rw [htext, read_mapped, ← hgs]
  · -- the groups before the `::` stop at it; those after it fill the slots that are left
    have hlt : ∀ g ∈ x.groups, g < 65536 := hx.groups_lt
    have hlen : x.groups.length = 8 := hx.length_groups
    have hhead : readGroups 8 true (groupsText true (x.groups.take s) ++
        ':' :: ':' :: groupsText true (x.groups.drop (s + n))) =
        (x.groups.take s, false, ':' :: ':' :: groupsText true (x.groups.drop (s + n))) :=
      readGroups_groupsText true (fun g hg => hlt g (List.mem_of_mem_take hg)) (by simp; omega)
        (by simp [dot_not_mem_groupsText]) (.inr ⟨_, rfl⟩)
    have htail : readGroups (8 - ((x.groups.take s).length + 1)) true
        (groupsText true (x.groups.drop (s + n)) ++ []) = (x.groups.drop (s + n), false, []) :=
      readGroups_groupsText true (fun g hg => hlt g (List.mem_of_mem_drop hg))
        (by simp; omega) (by simp) (.inl rfl)
    rw [List.append_nil] at htail
    have hzeros : 8 - (x.groups.take s).length - (x.groups.drop (s + n)).length = n := by
      simp; omega
    rw [htext, read_of_gap hhead (by simp; omega) htail, hzeros, ← hgs]
  · have hall : readGroups 8 true (groupsText true x.groups ++ []) = (x.groups, false, []) :=
      readGroups_groupsText true hx.groups_lt (by rw [hx.length_groups]) (by simp) (.inl rfl)
    rw [List.append_nil] at hall
    rw [htext, read_of_full hall hx.length_groups]

theorem readGroups_bounds (k : Nat) (first : Bool) (cs : List Char) :
    (readGroups k first cs).1.length ≤ k ∧ ∀ g ∈ (readGroups k first cs).1, g < 65536 := by
  induction k generalizing first cs with
  | zero => simp [readGroups]
  | succ k ih =>
    simp only [readGroups]
    split
    · next v rest hemb =>
      -- an embedded address takes two slots, and is only tried while two are left
      have hk : 1 ≤ k := by
        by_contra hk
        rw [if_neg hk] at hemb
        cases hemb
      have ha := v.a.toNat_lt
      have hb := v.b.toNat_lt
      have hc := v.c.toNat_lt
      have hd := v.d.toNat_lt
      simp only [ofIpv4Groups, List.length_cons, List.length_nil, List.mem_cons,
        List.not_mem_nil, or_false, forall_eq_or_imp, forall_eq]
      omega
    · split
      · next g rest hnum =>
        obtain ⟨cs', -, hcs'⟩ := Option.bind_eq_some_iff.1 hnum
        have hg : g < 16 ^ 4 := readNumber_lt hcs'
        obtain ⟨hlen, hlt⟩ := ih false rest
        refine ⟨by simp; omega, ?_⟩
        simp only [List.mem_cons, forall_eq_or_imp]
        exact ⟨by simpa using hg, hlt⟩
      · simp

theorem read_wellFormed {cs rest : List Char} {x : Ipv6Addr} (h : read cs = some (x, rest)) :
    x.WellFormed := by
  obtain ⟨hlen, hlt⟩ := readGroups_bounds 8 true cs
  rcases hh : readGroups 8 true cs with ⟨head, headV4, r⟩
  simp only [hh] at hlen hlt
  simp only [read, hh] at h
  split_ifs at h with h8 hv4
  · simp only [Option.some.injEq, Prod.mk.injEq] at h
    obtain ⟨rfl, rfl⟩ := h
    exact ⟨h8, hlt⟩
  · simp only [Option.bind_eq_bind, Option.bind_eq_some_iff] at h
    obtain ⟨r₁, -, r₂, -, htail⟩ := h
    obtain ⟨htlen, htlt⟩ := readGroups_bounds (8 - (head.length + 1)) true r₂
    rcases ht : readGroups (8 - (head.length + 1)) true r₂ with ⟨tail, tailV4, r₃⟩
    simp only [ht] at htlen htlt
    simp only [ht, Option.some.injEq, Prod.mk.injEq] at htail
    obtain ⟨rfl, rfl⟩ := htail
    refine ⟨by simp; omega, fun g hg => ?_⟩
    simp only [List.mem_append, List.mem_replicate] at hg
    rcases hg with (hg | ⟨-, rfl⟩) | hg
    · exact hlt g hg
    · norm_num
    · exact htlt g hg

theorem parse?_wellFormed {s : String} {x : Ipv6Addr} (h : parse? s = some x) : x.WellFormed := by
  unfold parse? at h
  split at h
  · next x' hread =>
    cases h
    exact read_wellFormed hread
  · cases h

theorem colon_mem_render {x : Ipv6Addr} (hx : x.WellFormed) : ':' ∈ x.render.toList := by
  rcases render_cases hx with ⟨v, -, htext⟩ | ⟨s, n, -, -, -, htext⟩ | htext
  · simp [htext]
  · simp [htext]
  · rcases hgs : x.groups with _ | ⟨g, _ | ⟨g', gs⟩⟩
    · simpa [hgs] using hx.length_groups
    · simpa [hgs] using hx.length_groups
    · simp [htext, hgs, groupsText]

theorem mem_render {x : Ipv6Addr} (hx : x.WellFormed) {c : Char} (hc : c ∈ x.render.toList) :
    c = ':' ∨ c = '.' ∨ (digitValue 16 c).isSome := by
  rcases render_cases hx with ⟨v, -, htext⟩ | ⟨s, n, -, -, -, htext⟩ | htext <;>
    rw [htext] at hc
  · rcases List.mem_append.1 hc with hc | hc
    · have hf : (digitValue 16 'f').isSome := by decide
      have hmapped : "::ffff:".toList = [':', ':', 'f', 'f', 'f', 'f', ':'] := rfl
      rw [hmapped] at hc
      simp only [List.mem_cons, List.not_mem_nil, or_false] at hc
      rcases hc with rfl | rfl | rfl | rfl | rfl | rfl | rfl <;> simp [hf]
    · rcases Ipv4Addr.mem_render hc with h | h
      · exact .inr (.inl h)
      · exact .inr (.inr (digitValue_hex_of_decimal h))
  · simp only [List.mem_append, List.mem_cons] at hc
    rcases hc with hc | hc | hc | hc
    · exact (mem_groupsText hc).imp_right .inr
    · exact .inl hc
    · exact .inl hc
    · exact (mem_groupsText hc).imp_right .inr
  · exact (mem_groupsText hc).imp_right .inr

end Ipv6Addr

end CephMount.Net
