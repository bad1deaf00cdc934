import CephMount.Error
import CephMount.Net.Ipv6

/-!
Ceph monitor endpoints, `a.b.c.d:port` or `[ipv6]:port`: no host names, the address kept as the
kernel prints it, and the port a 16-bit number other than 0.
-/
namespace CephMount

namespace Net

def isDecimalDigit (c : Char) : Bool := '0' ≤ c && c ≤ '9'

def decimalValue (cs : List Char) : Nat :=
  cs.foldl (fun acc c => acc * 10 + (c.toNat - '0'.toNat)) 0

/-- Reads a 16-bit unsigned number: an optional `+`, then ASCII digits only. The number 0 reads:
callers that need a usable port refuse it themselves. -/
def parsePort? (s : String) : Option Nat :=
  let ds := match s.toList with
    | '+' :: rest => rest
    | cs => cs
  if ds.isEmpty || !ds.all isDecimalDigit then none
  else
    let v := decimalValue ds
    if v < 65536 then some v else none

end Net

/-- A monitor endpoint: the address as the kernel prints it, and the port. -/
structure Monitor where
  host : String
  port : Nat
  deriving DecidableEq, Repr

namespace Monitor

def invalid (s : String) : Error :=
  .invalidFacts ("monitor address " ++ Text.quote s ++ " is not ip:port")

/-- The printed address and the port text of an endpoint's text, before the port is read. -/
def hostAndPort? (s : String) : Option (String × String) :=
  match s.toList with
  | '[' :: rest =>
    match Text.splitFirst [']', ':'] rest with
    | some (host, port) =>
      (Net.Ipv6Addr.parse? (String.ofList host)).map fun a => (a.render, String.ofList port)
    | none => none
  | cs =>
    match Text.splitLast ':' cs with
    | some (host, port) =>
      (Net.Ipv4Addr.parse? (String.ofList host)).map fun a => (a.render, String.ofList port)
    | none => none

def parse (s : String) : Except Error Monitor :=
  match hostAndPort? s with
  | some (host, portText) =>
    match Net.parsePort? portText with
    | some port => if port = 0 then .error (invalid s) else .ok ⟨host, port⟩
    | none => .error (invalid s)
  | none => .error (invalid s)

/-- The endpoint's text; an address with a colon is put between brackets. -/
def render (m : Monitor) : String :=
  if m.host.toList.contains ':' then "[" ++ m.host ++ "]:" ++ toString m.port
  else m.host ++ ":" ++ toString m.port

end Monitor

end CephMount
