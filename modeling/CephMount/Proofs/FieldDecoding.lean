import CephMount.Proofs.KernelTable

/-!
Decoding a mount-table field byte by byte, as `MountTable.unescapeFrom` does, gives the bytes the
decoder over characters gives (`unescape_escape_byteLoop`).
-/
namespace CephMount

namespace Text

/-! ### Bytes below 128 in UTF-8 text -/

theorem utf8EncodeChar_ofUInt8 {b : UInt8} (h : b.toNat < 128) :
    String.utf8EncodeChar (Char.ofUInt8 b) = [b] := by
  rw [utf8EncodeChar_ascii (c := Char.ofUInt8 b) h]
  exact congrArg (· :: []) UInt8.ofNat_toNat

theorem flatMap_eq_cons_ascii {cs : List Char} {x : UInt8} {r : List UInt8}
    (h : cs.flatMap String.utf8EncodeChar = x :: r) (hx : x.toNat < 128) :
    ∃ c rest, cs = c :: rest ∧ c.toNat = x.toNat ∧ rest.flatMap String.utf8EncodeChar = r := by
  cases cs with
  | nil => simp at h
  | cons c rest =>
    rw [List.flatMap_cons] at h
    obtain ⟨y, ys, hy⟩ : ∃ y ys, String.utf8EncodeChar c = y :: ys :=
      List.exists_cons_of_ne_nil String.utf8EncodeChar_ne_nil
    have hxy : y = x := by
      rw [hy, List.cons_append] at h
      exact (List.cons.inj h).1
    have hmem : x ∈ String.utf8EncodeChar c := by
      rw [hy, hxy]
      exact List.mem_cons_self
    obtain ⟨hone, hnat⟩ := utf8EncodeChar_of_mem_ascii hmem hx
    rw [hone, List.singleton_append] at h
    exact ⟨c, rest, rfl, hnat, (List.cons.inj h).2⟩

theorem toByteArray_eq_flatMap (s : String) :
    s.toByteArray = (s.toList.flatMap String.utf8EncodeChar).toByteArray := by
  conv => lhs; rw [← String.ofList_toList (s := s)]
  rw [String.toByteArray_ofList]
  rfl

theorem size_toByteArray_eq_length (s : String) :
    s.toByteArray.size = (s.toList.flatMap String.utf8EncodeChar).length := by
  rw [toByteArray_eq_flatMap, List.size_toByteArray]

theorem getElem_toByteArray_eq (s : String) (i : Nat) (h : i < s.toByteArray.size)
    (hl : i < (s.toList.flatMap String.utf8EncodeChar).length) :
    s.toByteArray[i] = (s.toList.flatMap String.utf8EncodeChar)[i] := by
  simp only [toByteArray_eq_flatMap, List.getElem_toByteArray]

theorem drop_flatMap_eq_cons (s : String) {k : Nat} (hk : k < s.toByteArray.size) :
    (s.toList.flatMap String.utf8EncodeChar).drop k =
      s.toByteArray[k] :: (s.toList.flatMap String.utf8EncodeChar).drop (k + 1) := by
  have hl := size_toByteArray_eq_length s ▸ hk
  rw [List.drop_eq_getElem_cons hl, getElem_toByteArray_eq s k hk hl]

theorem utf8ByteSize_ofList_eq (l : List Char) :
    (String.ofList l).utf8ByteSize = (l.flatMap String.utf8EncodeChar).length := by
  rw [← String.size_toByteArray, size_toByteArray_eq_length, String.toList_ofList]

theorem exists_take_of_ascii (l : List Char) (j : Nat)
    (hj : j < (l.flatMap String.utf8EncodeChar).length)
    (hb : ((l.flatMap String.utf8EncodeChar)[j]).toNat < 128) :
    ∃ k, ((l.take k).flatMap String.utf8EncodeChar).length = j ∧
      ((l.take (k + 1)).flatMap String.utf8EncodeChar).length = j + 1 := by
  induction l generalizing j with
  | nil => simp at hj
  | cons c l ih =>
    simp only [List.flatMap_cons] at hj hb
    by_cases hjc : j < (String.utf8EncodeChar c).length
    · -- the byte is `c`'s own, so `c` is a character of one byte and `j` is 0
      rw [List.getElem_append_left hjc] at hb
      have hlen : (String.utf8EncodeChar c).length = 1 := by
        rw [(utf8EncodeChar_of_mem_ascii (List.getElem_mem hjc) hb).1, List.length_singleton]
      refine ⟨0, ?_, ?_⟩
      · simp only [List.take_zero, List.flatMap_nil, List.length_nil]
        omega
      · simp only [List.take_succ_cons, List.take_zero, List.flatMap_cons, List.flatMap_nil,
          List.append_nil, hlen]
        omega
    · rw [List.getElem_append_right (by omega)] at hb
      obtain ⟨k, hk, hk₁⟩ :=
        ih (j - (String.utf8EncodeChar c).length) (by rw [List.length_append] at hj; omega) hb
      refine ⟨k + 1, ?_, ?_⟩
      · simp only [List.take_succ_cons, List.flatMap_cons, List.length_append, hk]
        omega
      · simp only [List.take_succ_cons, List.flatMap_cons, List.length_append, hk₁]
        omega

/-- Both ends of a byte below 128 are character boundaries of the text. -/
theorem isValid_of_ascii_byte {s : String} {j : Nat} (h : j < s.toByteArray.size)
    (hb : (s.toByteArray[j]).toNat < 128) :
    (⟨j⟩ : String.Pos.Raw).IsValid s ∧ (⟨j + 1⟩ : String.Pos.Raw).IsValid s := by
  have hl := size_toByteArray_eq_length s ▸ h
  rw [getElem_toByteArray_eq s j h hl] at hb
  obtain ⟨k, hk, hk₁⟩ := exists_take_of_ascii s.toList j hl hb
  rw [← String.ofList_toList (s := s), String.Pos.Raw.isValid_ofList,
    String.Pos.Raw.isValid_ofList]
  exact ⟨⟨k, by rw [utf8ByteSize_ofList_eq, hk]⟩, ⟨k + 1, by rw [utf8ByteSize_ofList_eq, hk₁]⟩⟩

theorem extract_eq_ofList_ascii {s : String} {i : Nat} (h : i + 3 < s.toByteArray.size)
    (h₁ : (⟨i + 1⟩ : String.Pos.Raw).IsValid s) (h₄ : (⟨i + 4⟩ : String.Pos.Raw).IsValid s)
    (ha : s.toByteArray[i + 1].toNat < 128) (hb : s.toByteArray[i + 2].toNat < 128)
    (hc : s.toByteArray[i + 3].toNat < 128) :
    s.extract (s.pos ⟨i + 1⟩ h₁) (s.pos ⟨i + 4⟩ h₄) = String.ofList
      [Char.ofUInt8 s.toByteArray[i + 1], Char.ofUInt8 s.toByteArray[i + 2],
        Char.ofUInt8 s.toByteArray[i + 3]] := by
  apply String.toByteArray_inj.1
  rw [String.toByteArray_extract, String.offset_pos, String.offset_pos, String.toByteArray_ofList]
  show s.toByteArray.extract (i + 1) (i + 1 + 3) = _
  rw [ByteArray.extract_add_three (by omega)]
  simp only [List.utf8Encode, List.flatMap_cons, List.flatMap_nil, utf8EncodeChar_ofUInt8 ha,
    utf8EncodeChar_ofUInt8 hb, utf8EncodeChar_ofUInt8 hc, List.singleton_append, List.append_nil]

end Text

namespace MountTable

/-! ### Octal digits -/

def isOctalByte (b : UInt8) : Bool := 48 ≤ b && b ≤ 55

def octalValue (a b c : UInt8) : Nat := (a.toNat - 48) * 64 + (b.toNat - 48) * 8 + (c.toNat - 48)

/-- The byte that three octal digits at the head of a list of bytes stand for, if their value is
below 256. -/
def octalHead? : List UInt8 → Option Nat
  | a :: b :: c :: _ =>
    if isOctalByte a && isOctalByte b && isOctalByte c && octalValue a b c < 256 then
      some (octalValue a b c)
    else none
  | _ => none

theorem isOctalByte_eq_toNat (b : UInt8) :
    isOctalByte b = (decide (48 ≤ b.toNat) && decide (b.toNat ≤ 55)) := by
  simp only [isOctalByte, UInt8.le_iff_toNat_le]
  rfl

theorem isOctal_eq_toNat (c : Char) :
    isOctal c = (decide (48 ≤ c.toNat) && decide (c.toNat ≤ 55)) := by
  simp only [isOctal, Char.le_def, UInt32.le_iff_toNat_le, Char.toNat]
  rfl

theorem toNat_lt_of_isOctalByte {b : UInt8} (h : isOctalByte b = true) : b.toNat < 128 := by
  rw [isOctalByte_eq_toNat] at h
  simp only [Bool.and_eq_true, decide_eq_true_eq] at h
  omega

theorem toNat_lt_of_isOctal {c : Char} (h : isOctal c = true) : c.toNat < 128 := by
  rw [isOctal_eq_toNat] at h
  simp only [Bool.and_eq_true, decide_eq_true_eq] at h
  omega

theorem isOctal_eq_isOctalByte {c : Char} {x : UInt8} (h : c.toNat = x.toNat) :
    isOctal c = isOctalByte x := by
  rw [isOctal_eq_toNat, h, ← isOctalByte_eq_toNat]

theorem isOctalByte_ofNat {c : Char} (h : c.toNat < 128) :
    isOctalByte (UInt8.ofNat c.toNat) = isOctal c :=
  (isOctal_eq_isOctalByte (Text.toNat_ofNat_ascii h).symm).symm

theorem octalHead?_eq_some {l : List UInt8} {v : Nat} :
    octalHead? l = some v ↔ ∃ a b c r, l = a :: b :: c :: r ∧ isOctalByte a ∧ isOctalByte b ∧
      isOctalByte c ∧ octalValue a b c = v ∧ v < 256 := by
  constructor
  · intro h
    rcases l with _ | ⟨a, _ | ⟨b, _ | ⟨c, r⟩⟩⟩
    all_goals simp only [octalHead?, reduceCtorEq] at h
    split_ifs at h with hc
    simp only [Bool.and_eq_true, decide_eq_true_eq] at hc
    cases h
    exact ⟨a, b, c, r, rfl, hc.1.1.1, hc.1.1.2, hc.1.2, rfl, hc.2⟩
  · rintro ⟨a, b, c, r, rfl, ha, hb, hc, rfl, hv⟩
    simp [octalHead?, ha, hb, hc, hv]

theorem octalHead?_of_length_lt {l : List UInt8} (h : l.length < 3) : octalHead? l = none := by
  rcases l with _ | ⟨a, _ | ⟨b, _ | ⟨c, r⟩⟩⟩
  · rfl
  · rfl
  · rfl
  · simp only [List.length_cons] at h
    omega

theorem octalHead?_flatMap {cs : List Char} {v : Nat}
    (h : octalHead? (cs.flatMap String.utf8EncodeChar) = some v) :
    ∃ a b c rest, cs = a :: b :: c :: rest ∧ isOctal a ∧ isOctal b ∧ isOctal c ∧
      (a.toNat - 48) * 64 + (b.toNat - 48) * 8 + (c.toNat - 48) = v ∧ v < 256 := by
  obtain ⟨x, y, z, r, hl, hx, hy, hz, rfl, hv⟩ := octalHead?_eq_some.1 h
  obtain ⟨a, cs₁, rfl, ha, h₁⟩ := Text.flatMap_eq_cons_ascii hl (toNat_lt_of_isOctalByte hx)
  obtain ⟨b, cs₂, rfl, hb, h₂⟩ := Text.flatMap_eq_cons_ascii h₁ (toNat_lt_of_isOctalByte hy)
  obtain ⟨c, rest, rfl, hc, -⟩ := Text.flatMap_eq_cons_ascii h₂ (toNat_lt_of_isOctalByte hz)
  refine ⟨a, b, c, rest, rfl, ?_, ?_, ?_, ?_, hv⟩
  · rwa [isOctal_eq_isOctalByte ha]
  · rwa [isOctal_eq_isOctalByte hb]
  · rwa [isOctal_eq_isOctalByte hc]
  · rw [ha, hb, hc, octalValue]

/-! ### The decoder over bytes -/

/-- The decoder over a list of bytes: a backslash and three octal digits of a value below 256 are
one byte, and any other byte is kept. -/
def unescapeUtf8 : List UInt8 → List Nat
  | x :: a :: b :: c :: rest =>
    if x = 92 ∧ isOctalByte a ∧ isOctalByte b ∧ isOctalByte c ∧ octalValue a b c < 256 then
      octalValue a b c :: unescapeUtf8 rest
    else x.toNat :: unescapeUtf8 (a :: b :: c :: rest)
  | x :: rest => x.toNat :: unescapeUtf8 rest
  | [] => []

theorem unescapeUtf8_escape {x y z : UInt8} {r : List UInt8} {v : Nat}
    (h : octalHead? (x :: y :: z :: r) = some v) :
    unescapeUtf8 (92 :: x :: y :: z :: r) = v :: unescapeUtf8 r := by
  obtain ⟨a, b, c, r', he, ha, hb, hc, rfl, hv⟩ := octalHead?_eq_some.1 h
  cases he
  rw [unescapeUtf8, if_pos ⟨rfl, ha, hb, hc, hv⟩]

theorem unescapeUtf8_cons {x : UInt8} {rest : List UInt8} (h : x = 92 → octalHead? rest = none) :
    unescapeUtf8 (x :: rest) = x.toNat :: unescapeUtf8 rest := by
  rcases rest with _ | ⟨a, _ | ⟨b, _ | ⟨c, r⟩⟩⟩
  · rfl
  · rfl
  · rfl
  · rw [unescapeUtf8, if_neg]
    rintro ⟨rfl, ha, hb, hc, hv⟩
    have hnone := h rfl
    rw [octalHead?, if_pos (by simp [ha, hb, hc, hv])] at hnone
    cases hnone

theorem unescapeUtf8_append {xs : List UInt8} (r : List UInt8) (h : ∀ x ∈ xs, x ≠ 92) :
    unescapeUtf8 (xs ++ r) = xs.map UInt8.toNat ++ unescapeUtf8 r := by
  induction xs with
  | nil => rfl
  | cons x xs ih =>
    rw [List.cons_append, unescapeUtf8_cons fun hx => absurd hx (h x List.mem_cons_self),
      ih fun y hy => h y (List.mem_cons_of_mem x hy), List.map_cons, List.cons_append]

theorem ne_backslash_of_mem {c : Char} (hc : c ≠ '\\') :
    ∀ x ∈ String.utf8EncodeChar c, x ≠ 92 := by
  rintro x hx rfl
  have hnat := (Text.utf8EncodeChar_of_mem_ascii hx (by decide)).2
  exact hc (Char.ext (UInt32.toNat_inj.1 hnat))

theorem flatMap_backslash (cs : List Char) :
    ('\\' :: cs).flatMap String.utf8EncodeChar = 92 :: cs.flatMap String.utf8EncodeChar := by
  rw [List.flatMap_cons]
  rfl

theorem unescapeUtf8_backslash {cs : List Char}
    (h : ∀ v, octalHead? (cs.flatMap String.utf8EncodeChar) ≠ some v) :
    unescapeUtf8 (('\\' :: cs).flatMap String.utf8EncodeChar) =
      92 :: unescapeUtf8 (cs.flatMap String.utf8EncodeChar) := by
  rw [flatMap_backslash, unescapeUtf8_cons fun _ => Option.eq_none_iff_forall_ne_some.2 h]
  rfl

theorem unescapeUtf8_flatMap (cs : List Char) :
    unescapeUtf8 (cs.flatMap String.utf8EncodeChar) = unescapeBytes cs := by
  fun_induction unescapeBytes cs with
  | case1 => rfl
  | case2 a b c rest v hdigits ih =>
    simp only [Bool.and_eq_true, decide_eq_true_eq] at hdigits
    obtain ⟨⟨⟨ha, hb⟩, hc⟩, hv⟩ := hdigits
    have hbytes : ('\\' :: a :: b :: c :: rest).flatMap String.utf8EncodeChar =
        92 :: UInt8.ofNat a.toNat :: UInt8.ofNat b.toNat :: UInt8.ofNat c.toNat ::
          rest.flatMap String.utf8EncodeChar := by
      rw [flatMap_backslash]
      simp only [List.flatMap_cons, Text.utf8EncodeChar_ascii (toNat_lt_of_isOctal ha),
        Text.utf8EncodeChar_ascii (toNat_lt_of_isOctal hb),
        Text.utf8EncodeChar_ascii (toNat_lt_of_isOctal hc), List.singleton_append]
    rw [hbytes, unescapeUtf8_escape, ih]
    refine octalHead?_eq_some.2 ⟨_, _, _, _, rfl, ?_, ?_, ?_, ?_, hv⟩
    · rwa [isOctalByte_ofNat (toNat_lt_of_isOctal ha)]
    · rwa [isOctalByte_ofNat (toNat_lt_of_isOctal hb)]
    · rwa [isOctalByte_ofNat (toNat_lt_of_isOctal hc)]
    · rw [octalValue, Text.toNat_ofNat_ascii (toNat_lt_of_isOctal ha),
        Text.toNat_ofNat_ascii (toNat_lt_of_isOctal hb),
        Text.toNat_ofNat_ascii (toNat_lt_of_isOctal hc)]
  | case3 a b c rest v hdigits ih =>
    rw [unescapeUtf8_backslash, ih]
    -- the bytes after the backslash start no escape, or the characters would be octal digits
    intro w hd
    obtain ⟨a', b', c', rest', he, ha, hb, hc, hw, hlt⟩ := octalHead?_flatMap hd
    simp only [List.cons.injEq] at he
    obtain ⟨rfl, rfl, rfl, rfl⟩ := he
    exact hdigits (by simp [ha, hb, hc, v, hw, hlt])
  | case4 c rest hshort ih =>
    by_cases hc : c = '\\'
    · subst hc
      rw [unescapeUtf8_backslash, ih]
      · rfl
      intro w hd
      obtain ⟨a, b, c, rest', rfl, -⟩ := octalHead?_flatMap hd
      exact hshort a b c rest' rfl rfl
    · rw [List.flatMap_cons, unescapeUtf8_append _ (ne_backslash_of_mem hc), ih]

/-! ### The loop over a field's bytes -/

/-- The byte a text of octal digits stands for: none when the text is empty, holds a character
that is no octal digit, or has a value past 255. -/
def octalByte? (t : String) : Option Nat :=
  if t.toList ≠ [] ∧ t.toList.all isOctal = true then
    let v := t.toList.foldl (fun acc d => acc * 8 + (d.toNat - 48)) 0
    if v < 256 then some v else none
  else none

/-- The byte an escape at byte `i` of a field stands for. The loop looks for a backslash, then
checks that three more bytes follow, then that they are octal digits; only then does it cut them
out of the text, between characters, and read them in base 8. -/
def escapeAt? (s : String) (i : Nat) (h : i < s.toByteArray.size) : Option Nat :=
  if s.toByteArray[i] = 92 then
    if h₃ : i + 3 < s.toByteArray.size then
      if hd : isOctalByte s.toByteArray[i + 1] ∧ isOctalByte s.toByteArray[i + 2] ∧
          isOctalByte s.toByteArray[i + 3] then
        octalByte? (s.extract
          (s.pos ⟨i + 1⟩ (Text.isValid_of_ascii_byte _ (toNat_lt_of_isOctalByte hd.1)).1)
          (s.pos ⟨i + 4⟩ (Text.isValid_of_ascii_byte _ (toNat_lt_of_isOctalByte hd.2.2)).2))
      else none
    else none
  else none

/-- The decoder's loop over the bytes of a field, from byte `i`: an escape gives one byte and the
loop goes on after it, any other byte is copied and the loop goes on at the next. -/
def unescapeFrom (s : String) (i : Nat) : List Nat :=
  if h : i < s.toByteArray.size then
    match escapeAt? s i h with
    | some v => v :: unescapeFrom s (i + 4)
    | none => s.toByteArray[i].toNat :: unescapeFrom s (i + 1)
  else []
termination_by s.toByteArray.size - i
decreasing_by all_goals (simp_wf; rw [String.size_toByteArray] at h; omega)

theorem octalByte?_ofList_digits {a b c : UInt8} (ha : isOctalByte a = true)
    (hb : isOctalByte b = true) (hc : isOctalByte c = true) :
    octalByte? (String.ofList [Char.ofUInt8 a, Char.ofUInt8 b, Char.ofUInt8 c]) =
      if octalValue a b c < 256 then some (octalValue a b c) else none := by
  have hoct : ∀ x : UInt8, isOctalByte x = true → isOctal (Char.ofUInt8 x) = true :=
    fun x hx => (isOctal_eq_isOctalByte rfl).trans hx
  have hfold : [Char.ofUInt8 a, Char.ofUInt8 b, Char.ofUInt8 c].foldl
      (fun acc d => acc * 8 + (d.toNat - 48)) 0 = octalValue a b c := by
    simp only [List.foldl_cons, List.foldl_nil, octalValue]
    show ((0 * 8 + (a.toNat - 48)) * 8 + (b.toNat - 48)) * 8 + (c.toNat - 48) = _
    omega
  rw [octalByte?, String.toList_ofList, if_pos ⟨List.cons_ne_nil _ _, by
    simp [hoct a ha, hoct b hb, hoct c hc]⟩]
  simp only [hfold]

theorem escapeAt?_eq (s : String) (i : Nat) (h : i < s.toByteArray.size) :
    escapeAt? s i h = if s.toByteArray[i] = 92 then
      octalHead? ((s.toList.flatMap String.utf8EncodeChar).drop (i + 1)) else none := by
  unfold escapeAt?
  by_cases hx : s.toByteArray[i] = 92
  · rw [if_pos hx, if_pos hx]
    by_cases h₃ : i + 3 < s.toByteArray.size
    · rw [dif_pos h₃, Text.drop_flatMap_eq_cons s (by omega), Text.drop_flatMap_eq_cons s (by omega),
        Text.drop_flatMap_eq_cons s (by omega), octalHead?]
      by_cases hd : isOctalByte s.toByteArray[i + 1] = true ∧
          isOctalByte s.toByteArray[i + 2] = true ∧ isOctalByte s.toByteArray[i + 3] = true
      · rw [dif_pos hd, Text.extract_eq_ofList_ascii h₃ _ _ (toNat_lt_of_isOctalByte hd.1)
          (toNat_lt_of_isOctalByte hd.2.1) (toNat_lt_of_isOctalByte hd.2.2),
          octalByte?_ofList_digits hd.1 hd.2.1 hd.2.2]
        simp [hd]
      · rw [dif_neg hd, if_neg]
        simp only [Bool.and_eq_true, decide_eq_true_eq]
        exact fun ⟨⟨⟨ha, hb⟩, hc⟩, _⟩ => hd ⟨ha, hb, hc⟩
    · rw [dif_neg h₃, octalHead?_of_length_lt]
      rw [List.length_drop, ← Text.size_toByteArray_eq_length]
      omega
  · rw [if_neg hx, if_neg hx]

theorem unescapeFrom_eq (s : String) (i : Nat) :
    unescapeFrom s i = unescapeUtf8 ((s.toList.flatMap String.utf8EncodeChar).drop i) := by
  fun_induction unescapeFrom s i with
  | case1 i h v hv ih =>
    rw [escapeAt?_eq] at hv
    split_ifs at hv with hx
    obtain ⟨x, y, z, r, hxyz, -⟩ := octalHead?_eq_some.1 hv
    have hr : r = (s.toList.flatMap String.utf8EncodeChar).drop (i + 4) := by
      rw [show i + 4 = i + 1 + 3 by omega, ← List.drop_drop, hxyz]
      rfl
    rw [Text.drop_flatMap_eq_cons s h, hx, hxyz, unescapeUtf8_escape (hxyz ▸ hv), ih, hr]
  | case2 i h hv ih =>
    rw [escapeAt?_eq] at hv
    rw [Text.drop_flatMap_eq_cons s h, unescapeUtf8_cons, ih]
    intro hx
    rwa [if_pos hx] at hv
  | case3 i h =>
    rw [List.drop_eq_nil_of_le (by rw [← Text.size_toByteArray_eq_length]; omega)]
    rfl

/-- The loop over a whole field gives the bytes that the decoder over its characters gives. -/
theorem unescapeFrom_zero (s : String) : unescapeFrom s 0 = unescapeBytes s.toList := by
  rw [unescapeFrom_eq, List.drop_zero, unescapeUtf8_flatMap]

end MountTable

/-- Reading a field undoes the kernel's escapes of every text. The decoder's loop cuts the three
bytes after a backslash out of a field only once they are octal digits, and both ends of that cut
are then character boundaries; on every field the loop ends with the bytes the field decoder
gives. -/
theorem unescape_escape_byteLoop :
    (∀ t : String, MountTable.unescape (MountTable.escape t) = t) ∧
    (∀ (s : String) (i : Nat) (_ : i + 3 < s.toByteArray.size),
      MountTable.isOctalByte s.toByteArray[i + 1] = true ∧
        MountTable.isOctalByte s.toByteArray[i + 2] = true ∧
        MountTable.isOctalByte s.toByteArray[i + 3] = true →
      (⟨i + 1⟩ : String.Pos.Raw).IsValid s ∧ (⟨i + 4⟩ : String.Pos.Raw).IsValid s) ∧
    (∀ s : String, MountTable.unescapeFrom s 0 = MountTable.unescapeBytes s.toList) := by
  refine ⟨MountTable.unescape_escape, ?_, MountTable.unescapeFrom_zero⟩
  intro s i _ hd
  exact ⟨(Text.isValid_of_ascii_byte _ (MountTable.toNat_lt_of_isOctalByte hd.1)).1,
    (Text.isValid_of_ascii_byte _ (MountTable.toNat_lt_of_isOctalByte hd.2.2)).2⟩

/-- A tab escaped after a two-byte character: the digits sit at bytes 3 to 5, between the
boundaries 3 and 6. -/
theorem unescape_escape_byteLoop_tabAfterAccent :
    (MountTable.isOctalByte "é\\011b".toByteArray[3] = true ∧
      MountTable.isOctalByte "é\\011b".toByteArray[4] = true ∧
      MountTable.isOctalByte "é\\011b".toByteArray[5] = true) ∧
    (⟨3⟩ : String.Pos.Raw).IsValid "é\\011b" ∧ (⟨6⟩ : String.Pos.Raw).IsValid "é\\011b" :=
  ⟨⟨by decide, by decide, by decide⟩,
    unescape_escape_byteLoop.2.1 "é\\011b" 2 (by decide) ⟨by decide, by decide, by decide⟩⟩

/-- An escape that ends the field is read, and a backslash before `\777`, before `\09` or at the
end stays. -/
example : MountTable.unescape "/mnt/a\\040b\\134c\\777\\09\\" = "/mnt/a b\\c\\777\\09\\" := by
  decide

end CephMount
