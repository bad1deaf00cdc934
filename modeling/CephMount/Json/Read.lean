import CephMount.Json.Numbers

/-!
Typed readers of JSON text, and `Value.parse` for whole documents, object entries sorted by key
with the last duplicate kept and nesting limited to 127 levels. A reader that meets another shape
checks that value's form first, then fails with `mismatch`.
-/
namespace CephMount.Json

namespace Decoder

/-- Fails for a value of an unexpected shape, after reading it where its form can be checked. -/
def wrongShape : Decoder α := do
  match ← peek with
  | some 'n' => advance; keywordRest ['u', 'l', 'l']; fail .mismatch
  | some 't' => advance; keywordRest ['r', 'u', 'e']; fail .mismatch
  | some 'f' => advance; keywordRest ['a', 'l', 's', 'e']; fail .mismatch
  | some '-' => advance; let _ ← number false; fail .mismatch
  | some '"' => advance; let _ ← stringBody; fail .mismatch
  | some '[' => fail .mismatch
  | some '{' => fail .mismatch
  | some c => if isDigit c then do let _ ← number true; fail .mismatch else fail .malformed
  | none => fail .malformed

/-- Reads a string. -/
def string : Decoder String := do
  match ← peekToken with
  | none => fail .truncated
  | some '"' => advance; stringBody
  | some _ => wrongShape

def bool : Decoder Bool := do
  match ← peekToken with
  | none => fail .truncated
  | some 't' => advance; keywordRest ['r', 'u', 'e']; pure true
  | some 'f' => advance; keywordRest ['a', 'l', 's', 'e']; pure false
  | some _ => wrongShape

def natural : Decoder Nat := do
  match ← peekToken with
  | none => fail .truncated
  | some '-' =>
    advance
    let _ ← number false
    fail .mismatch
  | some c =>
    if isDigit c then
      match ← number true with
      | .nat n => pure n
      | _ => fail .mismatch
    else wrongShape

/-- Reads `null` as `none`, and anything else with the given reader. -/
def option (d : Decoder α) : Decoder (Option α) := do
  match ← peekToken with
  | some 'n' => advance; keywordRest ['u', 'l', 'l']; pure none
  | _ => some <$> d

/-- Moves to the next item of an array: `false` at its closing bracket, `true` before an item. -/
def nextItem (first : Bool) : Decoder Bool := do
  match ← peekToken with
  | some ']' => pure false
  | some ',' =>
    if first then pure true
    else
      advance
      match ← peekToken with
      | some ']' => fail .malformed
      | some _ => pure true
      | none => fail .truncated
  | some _ => if first then pure true else fail .malformed
  | none => fail .truncated

/-- Reads the remaining items of an array, each with `item`, up to its closing bracket. -/
def itemsLoop (item : Decoder α) : Nat → Bool → List α → Decoder (List α)
  | 0, _, _ => fail .truncated
  | fuel + 1, first, acc => do
    if ← nextItem first then
      let x ← item
      itemsLoop item fuel false (x :: acc)
    else pure acc.reverse

/-- Reads the remaining items of an array. -/
def items (item : Decoder α) : Decoder (List α) := do
  let cs ← get
  itemsLoop item (cs.length + 1) true []

def item? (first : Bool) (item : Decoder α) : Decoder (Option α) := do
  if ← nextItem first then some <$> item else pure none

/-- Reads the fields of a record from array items in order, each item read by its step and
applied to the record; reading stops at the closing bracket, leaving later fields as they are. -/
def itemsInOrder : List (Decoder (α → α)) → Bool → α → Decoder α
  | [], _, a => pure a
  | d :: ds, first, a => do
    match ← item? first d with
    | none => pure a
    | some f => itemsInOrder ds false (f a)

def endArray : Decoder Unit := do
  match ← peekToken with
  | some ']' => advance
  | some ',' => advance; fail .malformed
  | some _ => fail .malformed
  | none => fail .truncated

/-- Reads an array, each item with `item`. -/
def array (item : Decoder α) : Decoder (List α) := do
  match ← peekToken with
  | none => fail .truncated
  | some '[' =>
    advance
    let xs ← items item
    endArray
    pure xs
  | some _ => wrongShape

/-- Moves to the next key of an object and reads it; `none` at its closing brace. -/
def nextKey (first : Bool) : Decoder (Option String) := do
  match ← peekToken with
  | some '}' => pure none
  | some ',' =>
    if first then fail .malformed
    else
      advance
      match ← peekToken with
      | some '"' => advance; some <$> stringBody
      | some _ => fail .malformed
      | none => fail .truncated
  | some '"' => if first then do advance; some <$> stringBody else fail .malformed
  | some _ => fail .malformed
  | none => fail .truncated

def colon : Decoder Unit := do
  match ← peekToken with
  | some ':' => advance
  | some _ => fail .malformed
  | none => fail .truncated

/-- Reads the remaining entries of an object into a state; `entry` reads the colon and the
value of a key. -/
def entriesLoop (entry : σ → String → Decoder σ) : Nat → Bool → σ → Decoder σ
  | 0, _, _ => fail .truncated
  | fuel + 1, first, s => do
    match ← nextKey first with
    | none => pure s
    | some k =>
      let s ← entry s k
      entriesLoop entry fuel false s

def entries (entry : σ → String → Decoder σ) (init : σ) : Decoder σ := do
  let cs ← get
  entriesLoop entry (cs.length + 1) true init

def endObject : Decoder Unit := do
  match ← peekToken with
  | some '}' => advance
  | some _ => fail .malformed
  | none => fail .truncated

/-- Reads a record written as an array of its fields in order or as an object. -/
def record (ofItems : Decoder α) (ofEntries : Decoder α) : Decoder α := do
  match ← peekToken with
  | none => fail .truncated
  | some '[' => advance; let x ← ofItems; endArray; pure x
  | some '{' => advance; let x ← ofEntries; endObject; pure x
  | some _ => wrongShape

def unit : Decoder Unit := do
  match ← peekToken with
  | none => fail .truncated
  | some 'n' => advance; keywordRest ['u', 'l', 'l']
  | some _ => wrongShape

/-- Reads one of a fixed set of names, as a string, or as a one-entry object whose key is the
name and whose value is `null`. As in any object, a key that is not a string is malformed. -/
def variant (names : List (String × α)) : Decoder α := do
  let pick (s : String) : Decoder α :=
    match names.lookup s with
    | some a => pure a
    | none => fail .mismatch
  match ← peekToken with
  | some '"' =>
    advance
    pick (← stringBody)
  | some '{' =>
    advance
    let a ← match ← peekToken with
      | some '"' => do advance; pick (← stringBody)
      | some _ => fail .malformed
      | none => fail .truncated
    colon
    unit
    match ← peekToken with
    | some '}' => advance; pure a
    | some _ => fail .malformed
    | none => fail .truncated
  | some _ => fail .malformed
  | none => fail .truncated

def finish : Decoder Unit := do
  match ← peekToken with
  | none => pure ()
  | some _ => fail .malformed

mutual

/-- Skips a value, checking its form but not its nesting depth or number ranges. -/
def skipValue : Nat → Decoder Unit
  | 0 => fail .truncated
  | fuel + 1 => do
    match ← peekToken with
    | none => fail .truncated
    | some 'n' => advance; keywordRest ['u', 'l', 'l']
    | some 't' => advance; keywordRest ['r', 'u', 'e']
    | some 'f' => advance; keywordRest ['a', 'l', 's', 'e']
    | some '-' => advance; skipNumber
    | some '"' => advance; skipStringBody
    | some '[' => advance; skipArrayRest fuel true
    | some '{' => advance; skipObjectRest fuel true
    | some c => if isDigit c then skipNumber else fail .malformed

def skipArrayRest : Nat → Bool → Decoder Unit
  | 0, _ => fail .truncated
  | fuel + 1, first => do
    match ← peekToken with
    | none => fail .truncated
    | some ']' => advance
    | some ',' =>
      if first then skipValue fuel
      else do advance; skipValue fuel; skipArrayRest fuel false
    | some _ => if first then do skipValue fuel; skipArrayRest fuel false else fail .malformed

def skipObjectRest : Nat → Bool → Decoder Unit
  | 0, _ => fail .truncated
  | fuel + 1, first => do
    match ← peekToken with
    | none => fail .truncated
    | some '}' => advance
    | some ',' =>
      if first then fail .malformed
      else do advance; skipEntry fuel; skipObjectRest fuel false
    | some _ => if first then do skipEntry fuel; skipObjectRest fuel false else fail .malformed

def skipEntry : Nat → Decoder Unit
  | 0 => fail .truncated
  | fuel + 1 => do
    match ← peekToken with
    | some '"' => advance; skipStringBody
    | some _ => fail .malformed
    | none => fail .truncated
    colon
    skipValue fuel

end

def ignore : Decoder Unit := do
  let cs ← get
  skipValue (2 * cs.length + 4)

end Decoder

/-- Inserts an entry into a list sorted by key, replacing an entry of the same key. -/
def insertSorted (k : String) (v : Value) : List (String × Value) → List (String × Value)
  | [] => [(k, v)]
  | (k', v') :: rest =>
    if k = k' then (k, v) :: rest
    else if k < k' then (k, v) :: (k', v') :: rest
    else (k', v') :: insertSorted k v rest

namespace Decoder

mutual

/-- Reads a value with at most `depth - 1` further levels of nesting. -/
def valueAt : Nat → Nat → Decoder Value
  | 0, _ => fail .truncated
  | fuel + 1, depth => do
    match ← peekToken with
    | none => fail .truncated
    | some 'n' => advance; keywordRest ['u', 'l', 'l']; pure .null
    | some 't' => advance; keywordRest ['r', 'u', 'e']; pure (.bool true)
    | some 'f' => advance; keywordRest ['a', 'l', 's', 'e']; pure (.bool false)
    | some '-' => advance; return .num (← number false)
    | some '"' => advance; return .str (← stringBody)
    | some '[' =>
      if depth ≤ 1 then fail .malformed
      else
        advance
        let xs ← valueItems fuel (depth - 1) true []
        endArray
        pure (.arr xs)
    | some '{' =>
      if depth ≤ 1 then fail .malformed
      else
        advance
        let es ← valueEntries fuel (depth - 1) true []
        endObject
        pure (.obj es)
    | some c => if isDigit c then return .num (← number true) else fail .malformed

def valueItems : Nat → Nat → Bool → List Value → Decoder (List Value)
  | 0, _, _, _ => fail .truncated
  | fuel + 1, depth, first, acc => do
    if ← nextItem first then
      let v ← valueAt fuel depth
      valueItems fuel depth false (v :: acc)
    else pure acc.reverse

def valueEntries : Nat → Nat → Bool → List (String × Value) → Decoder (List (String × Value))
  | 0, _, _, _ => fail .truncated
  | fuel + 1, depth, first, acc => do
    match ← nextKey first with
    | none => pure acc
    | some k =>
      colon
      let v ← valueAt fuel depth
      valueEntries fuel depth false (insertSorted k v acc)

end

/-- Reads any value. -/
def value : Decoder Value := do
  let cs ← get
  valueAt (2 * cs.length + 4) 128

end Decoder

/-- Reads a whole text as one reader's value, with nothing but blanks after it. -/
def readAll (d : Decoder α) (s : String) : Except DecodeError α :=
  (do let x ← d; Decoder.finish; pure x).run' s.toList

namespace Value

/-- Reads a whole text as a JSON value. -/
def parse (s : String) : Except DecodeError Value := readAll Decoder.value s

end Value

end CephMount.Json
