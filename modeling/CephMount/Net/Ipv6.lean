import CephMount.Net.Ipv4

/-!
IPv6 addresses in text, with `::` and a dotted IPv4 tail, written back as RFC 5952 says.
-/
namespace CephMount.Net

/-- An IPv6 address: eight 16-bit groups, most significant first. -/
structure Ipv6Addr where
  groups : List Nat
  deriving DecidableEq, Repr

namespace Ipv6Addr

def ofIpv4Groups (v : Ipv4Addr) : List Nat :=
  [v.a.toNat * 256 + v.b.toNat, v.c.toNat * 256 + v.d.toNat]

/-- Reads at most `slots` groups, the first without a leading colon when `first` holds. While two
slots remain, a dotted IPv4 address may take both and ends the groups. Returns the groups, whether
an IPv4 address ended them, and the rest of the text after the last group read. -/
def readGroups : Nat → Bool → List Char → List Nat × Bool × List Char
  | 0, _, cs => ([], false, cs)
  | k + 1, first, cs =>
    let afterSep := if first then some cs else expectChar ':' cs
    let embedded := if 1 ≤ k then afterSep.bind Ipv4Addr.read else none
    match embedded with
    | some (v, rest) => (ofIpv4Groups v, true, rest)
    | none =>
      match afterSep.bind (readNumber 16 4 true) with
      | some (g, rest) =>
        let r := readGroups k false rest
        (g :: r.1, r.2.1, r.2.2)
      | none => ([], false, cs)

def read (cs : List Char) : Option (Ipv6Addr × List Char) :=
  let (head, headV4, r) := readGroups 8 true cs
  if head.length = 8 then some (⟨head⟩, r)
  else if headV4 then none
  else do
    let r ← expectChar ':' r
    let r ← expectChar ':' r
    let (tail, _, r) := readGroups (8 - (head.length + 1)) true r
    some (⟨head ++ List.replicate (8 - head.length - tail.length) 0 ++ tail⟩, r)

def parse? (s : String) : Option Ipv6Addr :=
  match read s.toList with
  | some (addr, []) => some addr
  | _ => none

/-- The longest run of zero groups as (start, length), the first of equally long runs. -/
def zeroRun (gs : List Nat) : Nat × Nat :=
  let step (st : (Nat × Nat) × (Nat × Nat) × Nat) (g : Nat) :=
    let (best, cur, i) := st
    if g = 0 then
      let cur := if cur.2 = 0 then (i, 1) else (cur.1, cur.2 + 1)
      (if best.2 < cur.2 then cur else best, cur, i + 1)
    else (best, (0, 0), i + 1)
  (gs.foldl step ((0, 0), (0, 0), 0)).1

def hexGroups (gs : List Nat) : String :=
  ":".intercalate (gs.map fun g => String.ofList (Nat.toDigits 16 g))

def render (x : Ipv6Addr) : String :=
  match x.groups with
  | [0, 0, 0, 0, 0, 0xffff, hi, lo] =>
    "::ffff:" ++ Ipv4Addr.render ⟨(hi / 256).toUInt8, (hi % 256).toUInt8,
      (lo / 256).toUInt8, (lo % 256).toUInt8⟩
  | gs =>
    let (start, len) := zeroRun gs
    if 1 < len then hexGroups (gs.take start) ++ "::" ++ hexGroups (gs.drop (start + len))
    else hexGroups gs

end Ipv6Addr

end CephMount.Net
