import CephMount.Json.Value
import CephMount.Decimal.Double

/-!
Writing JSON text, compact or pretty with two spaces per level. A double is written with the
fewest significant digits that read back (`Decimal.shortest`), laid out as `doubleLayout` says;
one that is not finite is written as `null`.
-/
namespace CephMount.Json

def escapeChar (c : Char) : List Char :=
  if c = '"' then ['\\', '"']
  else if c = '\\' then ['\\', '\\']
  else if c.toNat = 8 then ['\\', 'b']
  else if c = '\t' then ['\\', 't']
  else if c = '\n' then ['\\', 'n']
  else if c.toNat = 12 then ['\\', 'f']
  else if c = '\r' then ['\\', 'r']
  else if c.toNat < 0x20 then
    let h := Nat.toDigits 16 c.toNat
    ['\\', 'u', '0', '0'] ++ List.replicate (2 - h.length) '0' ++ h
  else [c]

def quoteString (s : String) : String :=
  String.ofList ('"' :: (s.toList.flatMap escapeChar ++ ['"']))

def natText (n : Nat) : String := String.ofList (Nat.toDigits 10 n)

/-- The text of `d * 10^k`, a decimal without trailing zeros in `d`, after the sign. -/
def doubleLayout (d : Nat) (k : Int) : String :=
  let ds := Nat.toDigits 10 d
  let len : Int := ds.length
  let kk := len + k
  if 0 ≤ k ∧ kk ≤ 16 then
    String.ofList (ds ++ List.replicate k.toNat '0') ++ ".0"
  else if 0 < kk ∧ kk ≤ 16 then
    String.ofList (ds.take kk.toNat ++ '.' :: ds.drop kk.toNat)
  else if -5 < kk ∧ kk ≤ 0 then
    "0." ++ String.ofList (List.replicate (-kk).toNat '0' ++ ds)
  else
    let exp := kk - 1
    let expText := (if exp < 0 then "-" else "+") ++ natText exp.natAbs
    match ds with
    | [c] => String.ofList [c] ++ "e" ++ expText
    | c :: rest => String.ofList (c :: '.' :: rest) ++ "e" ++ expText
    | [] => "0e" ++ expText

def doubleText (bits : UInt64) : String :=
  if Decimal.exponentField bits = 2047 then "null"
  else
    let sign := if Decimal.signBit bits then "-" else ""
    if Decimal.exponentField bits = 0 ∧ Decimal.fractionField bits = 0 then sign ++ "0.0"
    else
      let (d, k) := Decimal.shortest bits
      sign ++ doubleLayout d k

/-- The text of a number. -/
def Number.text : Number → String
  | .nat n => natText n
  | .neg n => "-" ++ natText n.natAbs
  | .double bits => doubleText bits

namespace Value

def indent (level : Nat) : String := String.ofList (List.replicate (2 * level) ' ')

mutual

def compact : Value → String
  | .null => "null"
  | .bool b => if b then "true" else "false"
  | .num n => n.text
  | .str s => quoteString s
  | .arr items => "[" ++ compactItems items ++ "]"
  | .obj entries => "\x7b" ++ compactEntries entries ++ "\x7d"

def compactItems : List Value → String
  | [] => ""
  | [v] => compact v
  | v :: vs => compact v ++ "," ++ compactItems vs

def compactEntries : List (String × Value) → String
  | [] => ""
  | [(k, v)] => quoteString k ++ ":" ++ compact v
  | (k, v) :: es => quoteString k ++ ":" ++ compact v ++ "," ++ compactEntries es

end

mutual

def prettyAt (level : Nat) : Value → String
  | .arr [] => "[]"
  | .obj [] => "\x7b\x7d"
  | .arr items => "[\n" ++ prettyItems (level + 1) items ++ "\n" ++ indent level ++ "]"
  | .obj entries =>
    "\x7b\n" ++ prettyEntries (level + 1) entries ++ "\n" ++ indent level ++ "\x7d"
  | .null => "null"
  | .bool b => if b then "true" else "false"
  | .num n => n.text
  | .str s => quoteString s

def prettyItems (level : Nat) : List Value → String
  | [] => ""
  | [v] => indent level ++ prettyAt level v
  | v :: vs => indent level ++ prettyAt level v ++ ",\n" ++ prettyItems level vs

def prettyEntries (level : Nat) : List (String × Value) → String
  | [] => ""
  | [(k, v)] => indent level ++ quoteString k ++ ": " ++ prettyAt level v
  | (k, v) :: es =>
    indent level ++ quoteString k ++ ": " ++ prettyAt level v ++ ",\n" ++ prettyEntries level es

end

/-- Pretty JSON text. -/
def pretty (v : Value) : String := prettyAt 0 v

end Value

end CephMount.Json
