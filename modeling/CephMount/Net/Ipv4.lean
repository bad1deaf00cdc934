/-!
IPv4 addresses in dotted decimal: four numbers from 0 to 255 without leading zeros.
-/
namespace CephMount.Net

/-- An IPv4 address: four octets, most significant first. -/
structure Ipv4Addr where
  a : UInt8
  b : UInt8
  c : UInt8
  d : UInt8
  deriving DecidableEq, Repr

/-- The value of a digit of `radix` (10 or 16; hexadecimal digits of either case). -/
def digitValue (radix : Nat) (c : Char) : Option Nat :=
  if '0' ≤ c ∧ c ≤ '9' then
    if c.toNat - '0'.toNat < radix then some (c.toNat - '0'.toNat) else none
  else if radix = 16 ∧ 'a' ≤ c ∧ c ≤ 'f' then some (c.toNat - 'a'.toNat + 10)
  else if radix = 16 ∧ 'A' ≤ c ∧ c ≤ 'F' then some (c.toNat - 'A'.toNat + 10)
  else none

def digitsValue (radix : Nat) (ds : List Nat) : Nat :=
  ds.foldl (fun acc d => acc * radix + d) 0

/-- The longest run of digits of `radix` at the front of the text, with the rest. -/
def digitRun (radix : Nat) : List Char → List Nat × List Char
  | [] => ([], [])
  | c :: cs =>
    match digitValue radix c with
    | some d => let r := digitRun radix cs; (d :: r.1, r.2)
    | none => ([], c :: cs)

/-- Reads a number at the front of the text: the whole run of digits, which must be non-empty
and at most `maxDigits` long, and must not start with a zero unless `zeroPrefix` allows it or
the number is the single digit `0`. -/
def readNumber (radix maxDigits : Nat) (zeroPrefix : Bool) (cs : List Char) :
    Option (Nat × List Char) :=
  let (ds, rest) := digitRun radix cs
  if ds.length = 0 ∨ maxDigits < ds.length then none
  else if !zeroPrefix ∧ ds.head? = some 0 ∧ 1 < ds.length then none
  else some (digitsValue radix ds, rest)

def expectChar (x : Char) : List Char → Option (List Char)
  | c :: cs => if c = x then some cs else none
  | [] => none

def readOctet (cs : List Char) : Option (UInt8 × List Char) := do
  let (v, rest) ← readNumber 10 3 false cs
  if v < 256 then some (v.toUInt8, rest) else none

namespace Ipv4Addr

def read (cs : List Char) : Option (Ipv4Addr × List Char) := do
  let (a, r) ← readOctet cs
  let r ← expectChar '.' r
  let (b, r) ← readOctet r
  let r ← expectChar '.' r
  let (c, r) ← readOctet r
  let r ← expectChar '.' r
  let (d, r) ← readOctet r
  some (⟨a, b, c, d⟩, r)

def parse? (s : String) : Option Ipv4Addr :=
  match read s.toList with
  | some (addr, []) => some addr
  | _ => none

def render (x : Ipv4Addr) : String :=
  toString x.a.toNat ++ "." ++ toString x.b.toNat ++ "." ++ toString x.c.toNat ++ "." ++
    toString x.d.toNat

end Ipv4Addr

end CephMount.Net
