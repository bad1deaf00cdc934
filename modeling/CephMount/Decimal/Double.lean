/-!
Exact conversions between decimals and IEEE-754 doubles, in natural-number arithmetic:
`nearestBits n k` is the double nearest to `n * 10^k` (a tie to the even significand), and
`shortest` the decimal with the fewest significant digits that reads back as a given double, the
nearest of those.
-/
namespace CephMount.Decimal

/-- A finite positive double as `m * 2^e`; `narrowBelow` holds when the double below it is
half as far away as the double above it. -/
structure Binary where
  m : Nat
  e : Int
  narrowBelow : Bool
  deriving DecidableEq, Repr

def signBit (bits : UInt64) : Bool := bits.toNat / Nat.pow 2 63 % 2 = 1

def exponentField (bits : UInt64) : Nat := bits.toNat / Nat.pow 2 52 % 2048

def fractionField (bits : UInt64) : Nat := bits.toNat % Nat.pow 2 52

def Binary.ofBits (bits : UInt64) : Binary :=
  let ex := exponentField bits
  let frac := fractionField bits
  if ex = 0 then ⟨frac, -1074, false⟩
  else ⟨frac + Nat.pow 2 52, (ex : Int) - 1075, frac = 0 && 1 < ex⟩

/-- A natural number times a power of two, as an integer scaled by `2^s`. -/
def scaled (x : Nat) (e : Int) (s : Nat) : Nat :=
  if 0 ≤ e + s then x * Nat.pow 2 (e + s).toNat else x / Nat.pow 2 (-(e + s)).toNat

def digitCount (n : Nat) : Nat := (Nat.toDigits 10 n).length

/-- Rounds `num / den` to the nearest natural number, a tie going to the even one. -/
def roundHalfEven (num den : Nat) : Nat :=
  let q := num / den
  let r := num % den
  if 2 * r < den then q
  else if den < 2 * r then q + 1
  else if q % 2 = 0 then q else q + 1

/-- The largest `l` with `2^l ≤ num / den`, for positive `num` and `den`. -/
def log2Ratio (num den : Nat) : Int :=
  let l : Int := (num.log2 : Int) - den.log2
  -- `l` is exact or one too high
  let fits := if 0 ≤ l then den * Nat.pow 2 l.toNat ≤ num else den ≤ num * Nat.pow 2 (-l).toNat
  if fits then l else l - 1

/-- The bits of the double nearest to `num / den` (both positive), ties to even. -/
def nearestBitsOfRatio (num den : Nat) : UInt64 :=
  let e0 := log2Ratio num den - 52
  let e := if e0 < -1074 then -1074 else e0
  let m := if 0 ≤ e then roundHalfEven num (den * Nat.pow 2 e.toNat)
    else roundHalfEven (num * Nat.pow 2 (-e).toNat) den
  let (m, e) := if m = Nat.pow 2 53 then (Nat.pow 2 52, e + 1) else (m, e)
  if m < Nat.pow 2 52 then m.toUInt64
  else if 1023 < e + 52 then (0x7FF0000000000000 : UInt64)
  else ((e + 1075).toNat * Nat.pow 2 52 + (m - Nat.pow 2 52)).toUInt64

/-- The bits of the double nearest to `n * 10^k`, ties to even; zero for `n = 0`. -/
def nearestBits (n : Nat) (k : Int) : UInt64 :=
  if n = 0 then 0
  else if 0 ≤ k then nearestBitsOfRatio (n * Nat.pow 10 k.toNat) 1
  else nearestBitsOfRatio n (Nat.pow 10 (-k).toNat)

/-- The position of the leading digit: the `p` with `10^p ≤ m * 2^e < 10^(p+1)`. -/
def leadingPower (b : Binary) : Int :=
  if 0 ≤ b.e then (digitCount (b.m * Nat.pow 2 b.e.toNat) : Int) - 1
  else (digitCount (b.m * Nat.pow 5 (-b.e).toNat) : Int) - 1 + b.e

/-- The interval of reals that round to a double, scaled by `2^s`: its lower end, the value
and its upper end. -/
def window (b : Binary) (s : Nat) : Nat × Nat × Nat :=
  let v := scaled b.m b.e s
  let up := scaled 1 (b.e - 1) s
  let down := if b.narrowBelow then scaled 1 (b.e - 2) s else up
  (v - down, v, v + up)

/-- Whether `d * 10^k` lies in the interval of a double (ends included when `m` is even).
All quantities are compared as integers scaled by `2^s * 10^(-k)` where needed. -/
def reads (b : Binary) (s : Nat) (d : Nat) (k : Int) : Bool :=
  let (lo, _, hi) := window b s
  let (x, lo, hi) :=
    if 0 ≤ k then (d * Nat.pow 10 k.toNat * Nat.pow 2 s, lo, hi)
    else (d * Nat.pow 2 s, lo * Nat.pow 10 (-k).toNat, hi * Nat.pow 10 (-k).toNat)
  if b.m % 2 = 0 then lo ≤ x && x ≤ hi else lo < x && x < hi

/-- The distance from `d * 10^k` to the double, on the same scale as `reads`. -/
def distance (b : Binary) (s : Nat) (d : Nat) (k : Int) : Nat :=
  let v := scaled b.m b.e s
  let (x, v) := if 0 ≤ k then (d * Nat.pow 10 k.toNat * Nat.pow 2 s, v) else (d * Nat.pow 2 s, v * Nat.pow 10 (-k).toNat)
  if x ≤ v then v - x else x - v

/-- The decimal grid point at or below the double on the grid `10^k`. -/
def floorOnGrid (b : Binary) (s : Nat) (k : Int) : Nat :=
  let v := scaled b.m b.e s
  if 0 ≤ k then v / (Nat.pow 10 k.toNat * Nat.pow 2 s) else v * Nat.pow 10 (-k).toNat / Nat.pow 2 s

/-- The shortest decimal that reads back with `n` significant digits, if one does: the
nearer of the two grid points around the double, ties to the even one. -/
def withDigits (b : Binary) (s : Nat) (n : Nat) : Option (Nat × Int) :=
  let k := leadingPower b - n + 1
  let d := floorOnGrid b s k
  match reads b s d k, reads b s (d + 1) k with
  | true, true =>
    let dl := distance b s d k
    let dh := distance b s (d + 1) k
    if dl < dh then some (d, k)
    else if dh < dl then some (d + 1, k)
    else if d % 2 = 0 then some (d, k) else some (d + 1, k)
  | true, false => some (d, k)
  | false, true => some (d + 1, k)
  | false, false => none

def search (b : Binary) (s : Nat) : Nat → Nat → Option (Nat × Int)
  | 0, _ => none
  | fuel + 1, n =>
    match withDigits b s n with
    | some r => some r
    | none => search b s fuel (n + 1)

/-- Drops the trailing zeros of `d`, raising `k` to keep `d * 10^k`. -/
def stripZeros : Nat → Nat × Int → Nat × Int
  | 0, r => r
  | fuel + 1, (d, k) => if d ≠ 0 ∧ d % 10 = 0 then stripZeros fuel (d / 10, k + 1) else (d, k)

/-- The shortest decimal `d * 10^k` of a positive finite double, without trailing zeros in
`d`. Seventeen digits always suffice. -/
def shortest (bits : UInt64) : Nat × Int :=
  let b := Binary.ofBits bits
  let s := (-b.e).toNat + 2
  match search b s 17 1 with
  | some r => stripZeros 20 r
  | none => (b.m, b.e)

end CephMount.Decimal
