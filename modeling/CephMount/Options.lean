import CephMount.Json.Value

/-!
The four mount flags a policy manages, `noexec`, `nosuid`, `nodev` and `ro`, in that order.
-/
namespace CephMount

/-- The managed mount flags. -/
structure MountOptions where
  noexec : Bool := false
  nosuid : Bool := false
  nodev : Bool := false
  readOnly : Bool := false
  deriving DecidableEq, Repr

namespace MountOptions

def table (o : MountOptions) : List (String × Bool) :=
  [("noexec", o.noexec), ("nosuid", o.nosuid), ("nodev", o.nodev), ("ro", o.readOnly)]

def flags (o : MountOptions) : List String :=
  (o.table.filter (·.2)).map (·.1)

def optionString (o : MountOptions) : String := ",".intercalate o.flags

/-- Sets the flag that one kernel option word names, if it names one. -/
def setWord (o : MountOptions) (w : String) : MountOptions :=
  if w = "noexec" then { o with noexec := true }
  else if w = "nosuid" then { o with nosuid := true }
  else if w = "nodev" then { o with nodev := true }
  else if w = "ro" then { o with readOnly := true }
  else o

def ofKernel (words : List String) : MountOptions := words.foldl setWord {}

/-- The words of the flags on which two option sets differ, in canonical order. -/
def differing (a b : MountOptions) : List String :=
  ((a.table.zip b.table).filter fun p => p.1.2 != p.2.2).map (·.1.1)

def toJson (o : MountOptions) : Json.Value :=
  .obj [("noexec", .bool o.noexec), ("nosuid", .bool o.nosuid), ("nodev", .bool o.nodev),
    ("read_only", .bool o.readOnly)]

theorem differing_self (o : MountOptions) : o.differing o = [] := by
  simp [differing, table]

end MountOptions

end CephMount
