/-!
JSON values. A number is kept as the reader classified it: a 64-bit natural number, a 64-bit
negative integer, or a double.
-/
namespace CephMount.Json

/-- A JSON number as read: unsigned and negative 64-bit integers, or a double. -/
inductive Number where
  | nat (n : Nat)
  | neg (n : Int)
  | double (bits : UInt64)
  deriving DecidableEq, Repr

/-- A JSON value. -/
inductive Value where
  | null
  | bool (b : Bool)
  | num (n : Number)
  | str (s : String)
  | arr (items : List Value)
  | obj (entries : List (String × Value))
  deriving Repr, Inhabited

namespace Value

def ofNat (n : Nat) : Value := .num (.nat n)

def ofInt (n : Int) : Value := if 0 ≤ n then .num (.nat n.toNat) else .num (.neg n)

def ofOption (s : Option String) : Value :=
  match s with
  | some s => .str s
  | none => .null

def ofStrings (xs : List String) : Value := .arr (xs.map .str)

/-- The value under a key of an object; the first entry of that key wins. -/
def get? (v : Value) (key : String) : Option Value :=
  match v with
  | .obj entries => entries.lookup key
  | _ => none

def getStr? : Value → Option String
  | .str s => some s
  | _ => none

def getBool? : Value → Option Bool
  | .bool b => some b
  | _ => none

def getInt? : Value → Option Int
  | .num (.nat n) => some n
  | .num (.neg n) => some n
  | _ => none

def getArr? : Value → Option (List Value)
  | .arr items => some items
  | _ => none

def getObj? : Value → Option (List (String × Value))
  | .obj entries => some entries
  | _ => none

end Value

end CephMount.Json
