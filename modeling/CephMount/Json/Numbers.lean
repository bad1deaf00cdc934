import CephMount.Json.Decoder

/-!
Reading JSON numbers: an integer while it fits in 64 bits (a negative one down to `-2^63`), any
other number as a double computed as a fast reader does, from a 64-bit significand and a power of
ten.
-/
namespace CephMount.Json

def maxU64 : Nat := Nat.pow 2 64 - 1

def maxI32 : Int := Int.pow 2 31 - 1

def clampI32 (x : Int) : Int := max (-Int.pow 2 31) (min maxI32 x)

/-- The double nearest to `10^i`. -/
def powerOfTen (i : Nat) : Float := Float.ofBits (Decimal.nearestBits 1 i)

/-- The double of a significand and a decimal exponent, or `none` when it is out of range. -/
def doubleOfParts (positive : Bool) (sig : Nat) (exponent : Int) : Option Float :=
  go 8 sig.toUInt64.toFloat exponent
where
  /-- Divides by `1e308` at most `fuel` times before the last step. -/
  go : Nat → Float → Int → Option Float
    | fuel + 1, f, exponent =>
      if exponent.natAbs ≤ 308 then
        if 0 ≤ exponent then
          let r := f * powerOfTen exponent.natAbs
          if r.isInf then none else some (if positive then r else -r)
        else
          let r := f / powerOfTen exponent.natAbs
          some (if positive then r else -r)
      else if f == 0 then some (if positive then f else -f)
      else if 0 ≤ exponent then none
      else go fuel (f / powerOfTen 308) (exponent + 308)
    | 0, f, _ => some (if positive then f else -f)

/-- A number as a reader classifies it. -/
def numberOfDouble (f : Float) : Number := .double f.toBits

namespace Decoder

/-- Consumes a run of digits, returning them. -/
def digits : Decoder (List Char) := fun cs =>
  .ok (cs.takeWhile isDigit, cs.dropWhile isDigit)

/-- Consumes digits into a significand while it stays within 64 bits; returns the
significand and whether a digit was left because it would not fit. -/
def significandDigits (sig : Nat) : List Char → Nat × Nat × Bool × List Char
  | [] => (sig, 0, false, [])
  | c :: cs =>
    if isDigit c then
      if maxU64 < sig * 10 + digitOf c then (sig, 0, true, c :: cs)
      else
        let r := significandDigits (sig * 10 + digitOf c) cs
        (r.1, r.2.1 + 1, r.2.2)
    else (sig, 0, false, c :: cs)

/-- The exponent after `e`: its sign and digits. Returns the double, or the failure. -/
def exponentPart (positive : Bool) (sig : Nat) (start : Int) : Decoder Float := do
  advance
  let positiveExp ← do
    match ← peek with
    | some '+' => advance; pure true
    | some '-' => advance; pure false
    | _ => pure true
  match ← next? with
  | none => fail .truncated
  | some c =>
    if !isDigit c then fail .malformed
    else
      let more ← digits
      let ds := c :: more
      let value := ds.foldl (fun acc d => acc * 10 + digitOf d) 0
      if maxI32 < (value : Int) then
        -- the exponent's digits overflow 32 bits
        if sig ≠ 0 ∧ positiveExp then fail .malformed
        else pure (if positive then 0.0 else -0.0)
      else
        let e := if positiveExp then clampI32 (start + value) else clampI32 (start - value)
        match doubleOfParts positive sig e with
        | some f => pure f
        | none => fail .malformed

/-- The fraction after `.`: at least one digit, then an optional exponent. -/
def fractionPart (positive : Bool) (sig : Nat) (before : Int) : Decoder Float := do
  advance
  let cs ← get
  let (sig', taken, overflowed, rest) := significandDigits sig cs
  set rest
  if overflowed then
    -- further digits cannot change the significand
    let _ ← digits
    let e := before - taken
    match ← peek with
    | some 'e' => exponentPart positive sig' e
    | some 'E' => exponentPart positive sig' e
    | _ => match doubleOfParts positive sig' e with
      | some f => pure f
      | none => fail .malformed
  else if taken = 0 then
    match ← peek with
    | some _ => fail .malformed
    | none => fail .truncated
  else
    let e := before - taken
    match ← peek with
    | some 'e' => exponentPart positive sig' e
    | some 'E' => exponentPart positive sig' e
    | _ => match doubleOfParts positive sig' e with
      | some f => pure f
      | none => fail .malformed

/-- What follows the integer digits: a fraction, an exponent or nothing. -/
def afterInteger (positive : Bool) (sig : Nat) (dropped : Nat) : Decoder Number := do
  match ← peek with
  | some '.' => return numberOfDouble (← fractionPart positive sig dropped)
  | some 'e' => return numberOfDouble (← exponentPart positive sig dropped)
  | some 'E' => return numberOfDouble (← exponentPart positive sig dropped)
  | _ =>
    if dropped ≠ 0 then
      match doubleOfParts positive sig dropped with
      | some f => return numberOfDouble f
      | none => fail .malformed
    else if positive then return .nat sig
    else if 1 ≤ sig ∧ sig ≤ Nat.pow 2 63 then return .neg (-(sig : Int))
    else return numberOfDouble (-(sig.toUInt64.toFloat))

/-- Reads a number after its optional minus sign. -/
def number (positive : Bool) : Decoder Number := do
  match ← next? with
  | none => fail .truncated
  | some '0' =>
    match ← peek with
    | some c => if isDigit c then fail .malformed else afterInteger positive 0 0
    | none => afterInteger positive 0 0
  | some c =>
    if !isDigit c then fail .malformed
    else
      let cs ← get
      let (sig, _, overflowed, rest) := significandDigits (digitOf c) cs
      set rest
      if overflowed then
        let extra ← digits
        afterInteger positive sig extra.length
      else afterInteger positive sig 0

/-- Skips a number after its optional minus sign, checking only its form. -/
def skipNumber : Decoder Unit := do
  match ← next? with
  | some '0' =>
    match ← peek with
    | some c => if isDigit c then fail .malformed else pure ()
    | none => pure ()
  | some c => if isDigit c then do let _ ← digits; pure () else fail .malformed
  | none => fail .malformed
  if (← peek) = some '.' then
    advance
    let ds ← digits
    if ds.isEmpty then fail .malformed
  match ← peek with
  | some 'e' | some 'E' =>
    advance
    match ← peek with
    | some '+' | some '-' => advance
    | _ => pure ()
    match ← next? with
    | some c => if isDigit c then do let _ ← digits; pure () else fail .malformed
    | none => fail .malformed
  | _ => pure ()

end Decoder

end CephMount.Json
