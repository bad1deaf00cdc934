import CephMount.Json.Value
import CephMount.Decimal.Double

/-!
Reading JSON text one value at a time. A failure is `malformed`, `truncated` or `mismatch` (JSON,
but not of the shape asked for); reading stops at the first, so its kind tells which problem
comes first in the text.
-/
namespace CephMount.Json

/-- The kinds of failure of reading JSON. -/
inductive DecodeError where
  | malformed
  | mismatch
  | truncated
  deriving DecidableEq, Repr

/-- A reader of JSON text: it consumes a prefix of the text and yields a value. -/
abbrev Decoder := StateT (List Char) (Except DecodeError)

namespace Decoder

def peek : Decoder (Option Char) := fun cs => .ok (cs.head?, cs)

def advance : Decoder Unit := fun cs => .ok ((), cs.tail)

def next? : Decoder (Option Char) := fun cs => .ok (cs.head?, cs.tail)

def isBlank (c : Char) : Bool := c = ' ' || c = '\n' || c = '\t' || c = '\r'

/-- Skips blanks and returns the next character, without consuming it. -/
def peekToken : Decoder (Option Char) := fun cs =>
  let rest := cs.dropWhile isBlank
  .ok (rest.head?, rest)

def fail (e : DecodeError) : Decoder α := fun _ => .error e

def keywordRest : List Char → Decoder Unit
  | [] => pure ()
  | x :: xs => do
    match ← next? with
    | none => fail .truncated
    | some c => if c = x then keywordRest xs else fail .malformed

def isDigit (c : Char) : Bool := '0' ≤ c && c ≤ '9'

def digitOf (c : Char) : Nat := c.toNat - '0'.toNat

def hexOf (c : Char) : Option Nat :=
  if isDigit c then some (digitOf c)
  else if 'a' ≤ c ∧ c ≤ 'f' then some (c.toNat - 'a'.toNat + 10)
  else if 'A' ≤ c ∧ c ≤ 'F' then some (c.toNat - 'A'.toNat + 10)
  else none

/-- Four hexadecimal digits after `\u`. Fewer than four bytes of text is an early end; four
bytes that are not all hexadecimal digits are malformed. -/
def hexEscape (cs : List Char) : Except DecodeError (Nat × List Char) :=
  match cs with
  | a :: b :: c :: d :: rest =>
    match hexOf a, hexOf b, hexOf c, hexOf d with
    | some a, some b, some c, some d => .ok (((a * 16 + b) * 16 + c) * 16 + d, rest)
    | _, _, _, _ => .error .malformed
  | short =>
    if 4 ≤ short.foldl (fun n c => n + c.utf8Size) 0 then .error .malformed else .error .truncated

def simpleEscape (c : Char) : Option Char :=
  if c = '"' then some '"' else if c = '\\' then some '\\' else if c = '/' then some '/'
  else if c = 'b' then some (Char.ofNat 8) else if c = 'f' then some (Char.ofNat 12)
  else if c = 'n' then some '\n' else if c = 'r' then some '\r' else if c = 't' then some '\t'
  else none

/-- The second half of a surrogate pair after a leading surrogate `hi`: `\u` and a trailing
surrogate. -/
def trailingSurrogate (hi : Nat) (cs : List Char) : Except DecodeError (Char × List Char) :=
  match cs with
  | [] => .error .truncated
  | '\\' :: rest =>
    match rest with
    | [] => .error .truncated
    | 'u' :: rest => do
      let (lo, rest) ← hexEscape rest
      if 0xDC00 ≤ lo ∧ lo ≤ 0xDFFF then
        .ok (Char.ofNat (((hi - 0xD800) * 1024 + (lo - 0xDC00)) + 0x10000), rest)
      else .error .malformed
    | _ :: _ => .error .malformed
  | _ :: _ => .error .malformed

/-- The character of a `\u` escape (with its pair, for a surrogate). -/
def unicodeEscape (cs : List Char) : Except DecodeError (Char × List Char) := do
  let (n, rest) ← hexEscape cs
  if 0xDC00 ≤ n ∧ n ≤ 0xDFFF then .error .malformed
  else if n < 0xD800 ∨ 0xDBFF < n then .ok (Char.ofNat n, rest)
  else trailingSurrogate n rest

/-- The characters of a string after its opening quote, and the text after its closing
quote. -/
def stringChars (cs : List Char) : Except DecodeError (List Char × List Char) :=
  go cs.length cs []
where
  /-- Reads with `fuel` at least the length of the text; `acc` holds the characters read,
  last first. -/
  go : Nat → List Char → List Char → Except DecodeError (List Char × List Char)
    | 0, _, _ => .error .truncated
    | _ + 1, [], _ => .error .truncated
    | fuel + 1, c :: rest, acc =>
      if c = '"' then .ok (acc.reverse, rest)
      else if c = '\\' then
        match rest with
        | [] => .error .truncated
        | 'u' :: rest => do
          let (x, rest) ← unicodeEscape rest
          go fuel rest (x :: acc)
        | e :: rest =>
          match simpleEscape e with
          | some x => go fuel rest (x :: acc)
          | none => .error .malformed
      else if c.toNat < 0x20 then .error .malformed
      else go fuel rest (c :: acc)

def stringBody : Decoder String := fun cs => do
  let (chars, rest) ← stringChars cs
  return (String.ofList chars, rest)

/-- Skips a string after its opening quote, checking only the form of its escapes. -/
def skipStringBody : Decoder Unit := fun cs => go cs.length cs
where
  /-- Skips with `fuel` at least the length of the text. -/
  go : Nat → List Char → Except DecodeError (Unit × List Char)
    | 0, _ => .error .truncated
    | _ + 1, [] => .error .truncated
    | fuel + 1, c :: rest =>
      if c = '"' then .ok ((), rest)
      else if c = '\\' then
        match rest with
        | [] => .error .truncated
        | 'u' :: rest => do
          let (_, rest) ← hexEscape rest
          go fuel rest
        | e :: rest =>
          match simpleEscape e with
          | some _ => go fuel rest
          | none => .error .malformed
      else if c.toNat < 0x20 then .error .malformed
      else go fuel rest

end Decoder

end CephMount.Json
