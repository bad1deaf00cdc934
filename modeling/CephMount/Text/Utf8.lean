/-!
UTF-8 bytes decoded leniently: each maximal invalid subpart becomes U+FFFD.
-/
namespace CephMount.Text

def utf8Bytes (s : String) : List Nat := (s.toList.flatMap String.utf8EncodeChar).map (·.toNat)

/-- For a lead byte: how many continuation bytes follow, and the range of the first of them. -/
def leadShape (b : Nat) : Option (Nat × Nat × Nat) :=
  if 0xC2 ≤ b ∧ b ≤ 0xDF then some (1, 0x80, 0xBF)
  else if b = 0xE0 then some (2, 0xA0, 0xBF)
  else if 0xE1 ≤ b ∧ b ≤ 0xEC then some (2, 0x80, 0xBF)
  else if b = 0xED then some (2, 0x80, 0x9F)
  else if 0xEE ≤ b ∧ b ≤ 0xEF then some (2, 0x80, 0xBF)
  else if b = 0xF0 then some (3, 0x90, 0xBF)
  else if 0xF1 ≤ b ∧ b ≤ 0xF3 then some (3, 0x80, 0xBF)
  else if b = 0xF4 then some (3, 0x80, 0x8F)
  else none

def leadBits (b : Nat) (count : Nat) : Nat :=
  if count = 1 then b % 0x20 else if count = 2 then b % 0x10 else b % 0x08

/-- Reads `count` continuation bytes, the first within `lo..hi` and the others within
`0x80..0xBF`, accumulating their payload; on success returns the code point and the rest,
otherwise the bytes from the first one that does not fit. -/
def continuation (acc : Nat) : Nat → Nat → Nat → List Nat → Except (List Nat) (Nat × List Nat)
  | 0, _, _, rest => .ok (acc, rest)
  | _ + 1, _, _, [] => .error []
  | count + 1, lo, hi, b :: rest =>
    if lo ≤ b ∧ b ≤ hi then continuation (acc * 64 + (b - 0x80)) count 0x80 0xBF rest
    else .error (b :: rest)

/-- Decodes bytes, each maximal invalid subpart becoming U+FFFD; `fuel` bounds the steps. -/
def decodeWith : Nat → List Nat → List Char
  | 0, _ => []
  | _ + 1, [] => []
  | fuel + 1, b :: rest =>
    if b < 0x80 then Char.ofNat b :: decodeWith fuel rest
    else
      match leadShape b with
      | none => Char.ofNat 0xFFFD :: decodeWith fuel rest
      | some (count, lo, hi) =>
        match continuation (leadBits b count) count lo hi rest with
        | .ok (cp, rest') => Char.ofNat cp :: decodeWith fuel rest'
        | .error rest' => Char.ofNat 0xFFFD :: decodeWith fuel rest'

/-- Decodes bytes leniently. -/
def decodeLossy (bytes : List Nat) : String :=
  String.ofList (decodeWith (bytes.length + 1) bytes)

end CephMount.Text
