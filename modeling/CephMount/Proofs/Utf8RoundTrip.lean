import CephMount.Text.Utf8
import Mathlib.Tactic.SplitIfs

/-! UTF-8 read back: the lenient decoder gives every text back from its own bytes. -/
namespace CephMount.Text

theorem toNat_valid (c : Char) : c.toNat ≤ 0x10FFFF ∧ (c.toNat < 0xD800 ∨ 0xDFFF < c.toNat) := by
  have := c.valid
  simp only [UInt32.isValidChar, Nat.isValidChar, Char.toNat_val] at this
  omega

theorem utf8EncodeChar_toNat (c : Char) : (String.utf8EncodeChar c).map UInt8.toNat =
    if c.toNat ≤ 0x7F then [c.toNat]
    else if c.toNat ≤ 0x7FF then [c.toNat / 64 % 32 + 0xC0, c.toNat % 64 + 0x80]
    else if c.toNat ≤ 0xFFFF then
      [c.toNat / 4096 % 16 + 0xE0, c.toNat / 64 % 64 + 0x80, c.toNat % 64 + 0x80]
    else [c.toNat / 262144 % 8 + 0xF0, c.toNat / 4096 % 64 + 0x80, c.toNat / 64 % 64 + 0x80,
      c.toNat % 64 + 0x80] := by
  have hc := (toNat_valid c).1
  unfold String.utf8EncodeChar
  simp only [Char.toNat_val]
  split_ifs <;> simp [UInt8.toNat_ofNat] <;> omega

theorem utf8EncodeChar_ascii {c : Char} (h : c.toNat < 128) :
    String.utf8EncodeChar c = [UInt8.ofNat c.toNat] := by
  have hsize : c.utf8Size = 1 := by
    rw [Char.utf8Size_eq_one_iff, UInt32.le_iff_toNat_le]
    exact Nat.le_of_lt_succ h
  rw [String.utf8EncodeChar_eq_singleton hsize]
  rfl

theorem toNat_ofNat_ascii {c : Char} (h : c.toNat < 128) : (UInt8.ofNat c.toNat).toNat = c.toNat := by
  rw [UInt8.toNat_ofNat', Nat.mod_eq_of_lt (by omega)]

theorem utf8EncodeChar_of_mem_ascii {c : Char} {b : UInt8} (hb : b ∈ String.utf8EncodeChar c)
    (hlt : b.toNat < 128) : String.utf8EncodeChar c = [b] ∧ c.toNat = b.toNat := by
  by_cases hc : c.toNat < 128
  · rw [utf8EncodeChar_ascii hc, List.mem_singleton] at hb
    subst hb
    exact ⟨utf8EncodeChar_ascii hc, (toNat_ofNat_ascii hc).symm⟩
  · -- every byte of a longer encoding is at least 0x80
    have hmem : b.toNat ∈ (String.utf8EncodeChar c).map UInt8.toNat := List.mem_map_of_mem hb
    rw [utf8EncodeChar_toNat, if_neg (by omega)] at hmem
    split_ifs at hmem <;> simp only [List.mem_cons, List.not_mem_nil, or_false] at hmem <;> omega

theorem decodeWith_lead {b : Nat} (hb : 0x80 ≤ b) {count lo hi : Nat}
    (hshape : leadShape b = some (count, lo, hi)) {rest rest' : List Nat} {cp : Nat}
    (hcont : continuation (leadBits b count) count lo hi rest = .ok (cp, rest')) (fuel : Nat) :
    decodeWith (fuel + 1) (b :: rest) = Char.ofNat cp :: decodeWith fuel rest' := by
  rw [decodeWith, if_neg (by omega), hshape]
  simp only [hcont]

theorem continuation_cons {acc count lo hi b : Nat} {rest : List Nat} (h : lo ≤ b ∧ b ≤ hi) :
    continuation acc (count + 1) lo hi (b :: rest) =
      continuation (acc * 64 + (b - 0x80)) count 0x80 0xBF rest := by
  rw [continuation, if_pos h]

theorem leadShape_two {a : Nat} (h2 : 2 ≤ a) (h : a < 32) :
    leadShape (a + 0xC0) = some (1, 0x80, 0xBF) := by
  unfold leadShape
  rw [if_pos (by omega)]

theorem leadShape_three {a b : Nat} (ha : a < 16) (hb : b < 64) (hlo : a = 0 → 32 ≤ b)
    (hsur : a = 13 → b < 32) :
    ∃ lo hi, leadShape (a + 0xE0) = some (2, lo, hi) ∧ lo ≤ b + 0x80 ∧ b + 0x80 ≤ hi := by
  -- The lead bytes E0, E1 to EC, ED and EE to EF each bound the second byte their own way.
  rcases (by omega : a = 0 ∨ (1 ≤ a ∧ a ≤ 12) ∨ a = 13 ∨ 14 ≤ a) with h | h | h | h
  · refine ⟨0xA0, 0xBF, ?_, by omega, by omega⟩
    rw [leadShape, if_neg (by omega), if_pos (by omega)]
  · refine ⟨0x80, 0xBF, ?_, by omega, by omega⟩
    rw [leadShape, if_neg (by omega), if_neg (by omega), if_pos (by omega)]
  · refine ⟨0x80, 0x9F, ?_, by omega, by omega⟩
    rw [leadShape, if_neg (by omega), if_neg (by omega), if_neg (by omega), if_pos (by omega)]
  · refine ⟨0x80, 0xBF, ?_, by omega, by omega⟩
    rw [leadShape, if_neg (by omega), if_neg (by omega), if_neg (by omega), if_neg (by omega),
      if_pos (by omega)]

theorem leadShape_four {a b : Nat} (ha : a ≤ 4) (hb : b < 64) (hlo : a = 0 → 16 ≤ b)
    (hhi : a = 4 → b < 16) :
    ∃ lo hi, leadShape (a + 0xF0) = some (3, lo, hi) ∧ lo ≤ b + 0x80 ∧ b + 0x80 ≤ hi := by
  rcases (by omega : a = 0 ∨ (1 ≤ a ∧ a ≤ 3) ∨ a = 4) with h | h | h
  · refine ⟨0x90, 0xBF, ?_, by omega, by omega⟩
    rw [leadShape, if_neg (by omega), if_neg (by omega), if_neg (by omega),
      if_neg (by omega), if_neg (by omega), if_pos (by omega)]
  · refine ⟨0x80, 0xBF, ?_, by omega, by omega⟩
    rw [leadShape, if_neg (by omega), if_neg (by omega), if_neg (by omega),
      if_neg (by omega), if_neg (by omega), if_neg (by omega), if_pos (by omega)]
  · refine ⟨0x80, 0x8F, ?_, by omega, by omega⟩
    rw [leadShape, if_neg (by omega), if_neg (by omega), if_neg (by omega),
      if_neg (by omega), if_neg (by omega), if_neg (by omega), if_neg (by omega),
      if_pos (by omega)]

theorem decodeWith_utf8EncodeChar (c : Char) (fuel : Nat) (rest : List Nat) :
    decodeWith (fuel + 1) ((String.utf8EncodeChar c).map UInt8.toNat ++ rest) =
      c :: decodeWith fuel rest := by
  obtain ⟨hmax, hsur⟩ := toNat_valid c
  have hc : Char.ofNat c.toNat = c := Char.ofNat_toNat c
  rw [utf8EncodeChar_toNat]
  split_ifs with h1 h2 h3 <;> simp only [List.cons_append, List.nil_append]
  · rw [decodeWith, if_pos (by omega), hc]
  · have hcont : continuation (leadBits (c.toNat / 64 % 32 + 0xC0) 1) 1 0x80 0xBF
        ((c.toNat % 64 + 0x80) :: rest) = .ok (c.toNat, rest) := by
      rw [continuation_cons (by omega), continuation]
      simp [leadBits]
      omega
    rw [decodeWith_lead (by omega) (leadShape_two (by omega) (by omega)) hcont fuel, hc]
  · obtain ⟨lo, hi, hshape, hlo, hhi⟩ :=
      leadShape_three (a := c.toNat / 4096 % 16) (b := c.toNat / 64 % 64) (by omega) (by omega)
        (by omega) (by omega)
    have hcont : continuation (leadBits (c.toNat / 4096 % 16 + 0xE0) 2) 2 lo hi
        ((c.toNat / 64 % 64 + 0x80) :: (c.toNat % 64 + 0x80) :: rest) = .ok (c.toNat, rest) := by
      rw [continuation_cons ⟨hlo, hhi⟩, continuation_cons (by omega), continuation]
      simp [leadBits]
      omega
    rw [decodeWith_lead (by omega) hshape hcont fuel, hc]
  · obtain ⟨lo, hi, hshape, hlo, hhi⟩ :=
      leadShape_four (a := c.toNat / 262144 % 8) (b := c.toNat / 4096 % 64) (by omega) (by omega)
        (by omega) (by omega)
    have hcont : continuation (leadBits (c.toNat / 262144 % 8 + 0xF0) 3) 3 lo hi
        ((c.toNat / 4096 % 64 + 0x80) :: (c.toNat / 64 % 64 + 0x80) :: (c.toNat % 64 + 0x80) ::
          rest) = .ok (c.toNat, rest) := by
      rw [continuation_cons ⟨hlo, hhi⟩, continuation_cons (by omega), continuation_cons (by omega),
        continuation]
      simp [leadBits]
      omega
    rw [decodeWith_lead (by omega) hshape hcont fuel, hc]

theorem decodeWith_flatMap (cs : List Char) (fuel : Nat) (h : cs.length < fuel) :
    decodeWith fuel ((cs.flatMap String.utf8EncodeChar).map UInt8.toNat) = cs := by
  induction cs generalizing fuel with
  | nil => cases fuel <;> rfl
  | cons c cs ih =>
    obtain ⟨fuel, rfl⟩ : ∃ k, fuel = k + 1 := ⟨fuel - 1, by simp at h; omega⟩
    rw [List.flatMap_cons, List.map_append, decodeWith_utf8EncodeChar,
      ih fuel (by simp at h; omega)]

theorem length_le_utf8Bytes (cs : List Char) :
    cs.length ≤ ((cs.flatMap String.utf8EncodeChar).map UInt8.toNat).length := by
  induction cs with
  | nil => simp
  | cons c cs ih =>
    have := Char.utf8Size_pos c
    simp only [List.flatMap_cons, List.map_append, List.length_append, List.length_map,
      String.length_utf8EncodeChar, List.length_cons] at ih ⊢
    omega

/-- Decoding the UTF-8 bytes of a text gives the text. -/
theorem decodeLossy_utf8Bytes (s : String) : decodeLossy (utf8Bytes s) = s := by
  show String.ofList (decodeWith
    (((s.toList.flatMap String.utf8EncodeChar).map UInt8.toNat).length + 1)
    ((s.toList.flatMap String.utf8EncodeChar).map UInt8.toNat)) = s
  rw [decodeWith_flatMap _ _ (by have := length_le_utf8Bytes s.toList; omega),
    String.ofList_toList]

end CephMount.Text
