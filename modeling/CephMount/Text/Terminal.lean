import CephMount.Text.Utf8
/-!
The plain text of a stream written for a terminal: its bytes read by the state machine terminals
share for control sequences, keeping printable bytes, whole UTF-8 characters and blank controls.
The machine reads bytes, so the byte `0x9C` inside a character such as `Ü` ends a string.
-/
namespace CephMount.Text.Terminal

/-- Where the machine stands between bytes. -/
inductive State where
  /-- Between sequences. -/
  | ground
  /-- After `ESC`. -/
  | escape
  /-- After `ESC` and intermediate characters. -/
  | escapeIntermediate
  /-- After `ESC [`. -/
  | csiEntry
  /-- In the parameters of a control sequence. -/
  | csiParam
  /-- In the intermediate characters of a control sequence. -/
  | csiIntermediate
  /-- In a malformed control sequence, up to its final character. -/
  | csiIgnore
  /-- After `ESC P`. -/
  | dcsEntry
  /-- In the parameters of a device control string. -/
  | dcsParam
  /-- In the intermediate characters of a device control string. -/
  | dcsIntermediate
  /-- In the data of a device control string. -/
  | dcsPassthrough
  /-- In a malformed device control string, which only `ESC`, `CAN` and `SUB` end. -/
  | dcsIgnore
  /-- In an operating system command. -/
  | oscString
  /-- In a start-of-string, privacy message or application program command. -/
  | sosPmApcString
  deriving DecidableEq, Repr

/-- What reading a byte does. -/
inductive Action where
  /-- The byte is printed. -/
  | print
  /-- The byte starts a UTF-8 character, which is printed whole. -/
  | begin
  /-- The byte is a control function that is carried out. -/
  | execute
  /-- The byte belongs to a sequence, or is dropped. -/
  | consume
  deriving DecidableEq, Repr

/-- A control byte that every state but the strings executes: the C0 set without `CAN`, `SUB`
and `ESC`, which act the same in every state. -/
def isExecuted (n : Nat) : Bool := n < 0x20 && n != 0x18 && n != 0x1A && n != 0x1B

def within (n lo hi : Nat) : Bool := lo ≤ n && n ≤ hi

/-- Reads one byte: the state it moves to (none to stay) and what it does. -/
def State.step (s : State) (n : Nat) : Option State × Action :=
  if n == 0x18 || n == 0x1A then (some .ground, .execute)
  else if n == 0x1B then (some .escape, .consume)
  else
    match s with
    | .ground =>
      if isExecuted n then (none, .execute)
      else if n < 0x80 then (none, .print)
      else if within n 0x80 0x8F || within n 0x91 0x9A || n == 0x9C then (none, .execute)
      else if within n 0xC2 0xF4 then (none, .begin)
      else (none, .consume)
    | .escape =>
      if isExecuted n then (none, .execute)
      else if within n 0x20 0x2F then (some .escapeIntermediate, .consume)
      else if n == 0x5B then (some .csiEntry, .consume)
      else if n == 0x5D then (some .oscString, .consume)
      else if n == 0x50 then (some .dcsEntry, .consume)
      else if n == 0x58 || n == 0x5E || n == 0x5F then (some .sosPmApcString, .consume)
      else if within n 0x30 0x7E then (some .ground, .consume)
      else (none, .consume)
    | .escapeIntermediate =>
      if isExecuted n then (none, .execute)
      else if within n 0x30 0x7E then (some .ground, .consume)
      else (none, .consume)
    | .csiEntry =>
      if isExecuted n then (none, .execute)
      else if within n 0x20 0x2F then (some .csiIntermediate, .consume)
      else if within n 0x30 0x3F then (some .csiParam, .consume)
      else if within n 0x40 0x7E then (some .ground, .consume)
      else (none, .consume)
    | .csiParam =>
      if isExecuted n then (none, .execute)
      else if within n 0x20 0x2F then (some .csiIntermediate, .consume)
      else if within n 0x3C 0x3F then (some .csiIgnore, .consume)
      else if within n 0x40 0x7E then (some .ground, .consume)
      else (none, .consume)
    | .csiIntermediate =>
      if isExecuted n then (none, .execute)
      else if within n 0x30 0x3F then (some .csiIgnore, .consume)
      else if within n 0x40 0x7E then (some .ground, .consume)
      else (none, .consume)
    | .csiIgnore =>
      if isExecuted n then (none, .execute)
      else if within n 0x40 0x7E then (some .ground, .consume)
      else (none, .consume)
    | .dcsEntry =>
      if within n 0x20 0x2F then (some .dcsIntermediate, .consume)
      else if n == 0x3A then (some .dcsIgnore, .consume)
      else if within n 0x30 0x3F then (some .dcsParam, .consume)
      else if within n 0x40 0x7E then (some .dcsPassthrough, .consume)
      else (none, .consume)
    | .dcsParam =>
      if within n 0x20 0x2F then (some .dcsIntermediate, .consume)
      else if n == 0x3A || within n 0x3C 0x3F then (some .dcsIgnore, .consume)
      else if within n 0x40 0x7E then (some .dcsPassthrough, .consume)
      else (none, .consume)
    | .dcsIntermediate =>
      if within n 0x30 0x3F then (some .dcsIgnore, .consume)
      else if within n 0x40 0x7E then (some .dcsPassthrough, .consume)
      else (none, .consume)
    | .dcsPassthrough | .sosPmApcString =>
      if n == 0x9C then (some .ground, .consume) else (none, .consume)
    | .dcsIgnore => (none, .consume)
    | .oscString => if n == 0x07 then (some .ground, .consume) else (none, .consume)

/-- Whether a byte reaches the plain text: a printed one other than `DEL`, the start of a
character, or a blank control that is carried out. -/
def shown (a : Action) (n : Nat) : Bool :=
  match a with
  | .print => n != 0x7F
  | .begin => true
  | .execute => n == 0x09 || n == 0x0A || n == 0x0C || n == 0x0D
  | .consume => false

def tailLength (lead : Nat) : Nat :=
  if lead < 0xE0 then 1 else if lead < 0xF0 then 2 else 3

mutual

/-- Drops bytes, following the machine, up to the first one that is shown. A character that
starts in the ground state is kept whole, and the ground state follows it. -/
def skip (s : State) : List Nat → List Nat
  | [] => []
  | b :: bs =>
    let (t, a) := s.step b
    if a = .begin then b :: bs.take (tailLength b) ++ run .ground (bs.drop (tailLength b))
    else
      let s := t.getD s
      if shown a b then b :: run s bs else skip s bs
termination_by bytes => (bytes.length, 0)

/-- Keeps the bytes that would be shown from the ground state, characters whole; the first
that would not be is read again from the state the run leaves. -/
def run (s : State) : List Nat → List Nat
  | [] => []
  | b :: bs =>
    let (t, a) := State.ground.step b
    if a = .begin then b :: bs.take (tailLength b) ++ run .ground (bs.drop (tailLength b))
    else
      let s := t.getD s
      if shown a b then b :: run s bs
      else
        let (t, a) := s.step b
        let s := t.getD s
        if shown a b then b :: run s bs else skip s bs
termination_by bytes => (bytes.length, 0)

end

/-- The plain text of a styled text. -/
def plain (text : String) : String := decodeLossy (skip .ground (utf8Bytes text))

/-- The control sequence that starts a style given by its parameters. -/
def style (params : String) : String := "\x1b[" ++ params ++ "m"

def bold (text : String) : String := style "1" ++ text ++ style "0"

def boldUnderlined (text : String) : String := style "1" ++ style "4" ++ text ++ style "0"

end CephMount.Text.Terminal
