import CephMount.Options
import CephMount.Path
import CephMount.Text.Basic
import CephMount.Text.Utf8
import CephMount.Json.Read
import CephMount.Json.Write
import CephMount.Error

/-!
The kernel mount table: a mount a line (source, mountpoint, type, options), with octal escapes in
the first two fields. What is mounted at a path is the last entry whose mountpoint is the same
path.
-/
namespace CephMount

/-- One line of the mount table. -/
structure MountEntry where
  source : String
  mountpoint : String
  fstype : String
  options : List String
  deriving DecidableEq, Repr

def isCephType (fstype : String) : Bool := fstype == "ceph" || fstype.startsWith "ceph."

namespace MountTable

def isOctal (c : Char) : Bool := '0' ≤ c && c ≤ '7'

/-- The bytes of a mount table field with its octal escapes decoded. -/
def unescapeBytes : List Char → List Nat
  | [] => []
  | '\\' :: a :: b :: c :: rest =>
    let v := (a.toNat - 48) * 64 + (b.toNat - 48) * 8 + (c.toNat - 48)
    if isOctal a && isOctal b && isOctal c && v < 256 then v :: unescapeBytes rest
    else 92 :: unescapeBytes (a :: b :: c :: rest)
  | c :: rest => (String.utf8EncodeChar c).map (·.toNat) ++ unescapeBytes rest

def unescape (field : String) : String := Text.decodeLossy (unescapeBytes field.toList)

def fields (line : String) : List String :=
  ((line.toList.splitOnP Text.isBlank).filter (!·.isEmpty)).map String.ofList

/-- The lines of a text: split at line feeds, a carriage return before a line feed dropped, and
no empty line after a final line feed. -/
def lines (content : String) : List String :=
  let pieces := content.toList.splitOn '\n'
  let complete := pieces.dropLast.map fun l =>
    if l.getLast? = some '\r' then l.dropLast else l
  let last := pieces.getLastD []
  (complete ++ if last.isEmpty then [] else [last]).map String.ofList

end MountTable

namespace MountEntry

/-- The entry a table line describes, if it has at least four fields. -/
def ofLine? (line : String) : Option MountEntry :=
  match MountTable.fields line with
  | source :: mountpoint :: fstype :: options :: _ =>
    some { source := MountTable.unescape source, mountpoint := MountTable.unescape mountpoint,
           fstype, options := (options.toList.splitOn ',').map String.ofList }
  | _ => none

def isCeph (e : MountEntry) : Bool := isCephType e.fstype

end MountEntry

namespace MountTable

def parse (content : String) : List MountEntry := (lines content).filterMap MountEntry.ofLine?

end MountTable

def insertSet (x : String) : List String → List String
  | [] => [x]
  | y :: ys => if x = y then y :: ys else if x < y then x :: y :: ys else y :: insertSet x ys

def toSet (xs : List String) : List String := xs.foldl (fun acc x => insertSet x acc) []

/-- What is mounted at a path, as probed. -/
structure Observation where
  mountpoint : String
  mounted : Bool
  source : String := ""
  fstype : String := ""
  options : List String := []
  deriving DecidableEq, Repr

namespace Observation

def unmounted (path : String) : Observation := { mountpoint := path, mounted := false }

/-- The observation of a table entry; its options become a sorted set. -/
def ofEntry (e : MountEntry) : Observation :=
  { mountpoint := e.mountpoint, mounted := true, source := e.source, fstype := e.fstype,
    options := toSet e.options }

def isCeph (o : Observation) : Bool := o.mounted && isCephType o.fstype

def policyOptions (o : Observation) : MountOptions := MountOptions.ofKernel o.options

def toJson (o : Observation) : Json.Value :=
  .obj [("mountpoint", .str o.mountpoint), ("mounted", .bool o.mounted), ("source", .str o.source),
    ("fstype", .str o.fstype), ("options", Json.Value.ofStrings o.options)]

open Json Decoder in
/-- Reads one entry of an observation object, refusing a key seen before. -/
def entry (seen : List String × Option String × Option Bool × Observation) (key : String) :
    Decoder (List String × Option String × Option Bool × Observation) := do
  let (keys, path, mounted, o) := seen
  let known := ["mountpoint", "mounted", "source", "fstype", "options"]
  if known.contains key then
    if keys.contains key then fail .mismatch
    else
      colon
      let keys := key :: keys
      if key = "mountpoint" then return (keys, some (← string), mounted, o)
      else if key = "mounted" then return (keys, path, some (← bool), o)
      else if key = "source" then return (keys, path, mounted, { o with source := ← string })
      else if key = "fstype" then return (keys, path, mounted, { o with fstype := ← string })
      else return (keys, path, mounted, { o with options := toSet (← array string) })
  else
    colon
    ignore
    pure seen

open Json Decoder in
/-- Reads an observation written as an object or as an array of its fields; the mountpoint
and the mounted flag are required. -/
def decoder : Decoder Observation :=
  let complete (r : Option String × Option Bool × Observation) : Decoder Observation :=
    match r with
    | (some p, some m, o) => pure { o with mountpoint := p, mounted := m }
    | _ => fail .mismatch
  let ofItems : Decoder Observation := do
    let r ← itemsInOrder
      [(fun v (r : Option String × Option Bool × Observation) => (some v, r.2)) <$> string,
        (fun v r => (r.1, some v, r.2.2)) <$> bool,
        (fun v r => (r.1, r.2.1, { r.2.2 with source := v })) <$> string,
        (fun v r => (r.1, r.2.1, { r.2.2 with fstype := v })) <$> string,
        (fun v r => (r.1, r.2.1, { r.2.2 with options := toSet v })) <$> array string]
      true (none, none, unmounted "")
    complete r
  let ofEntries : Decoder Observation := do
    let (_, r) ← entries entry ([], none, none, unmounted "")
    complete r
  record ofItems ofEntries

end Observation

namespace MountTable

/-- What a table shows at a path: its last entry there, or nothing. -/
def observe (entries : List MountEntry) (path : String) : Observation :=
  match entries.reverse.find? (fun e => Path.same e.mountpoint path) with
  | some e => Observation.ofEntry e
  | none => Observation.unmounted path

/-- The entries of a table file, given what reading it at `path` gave. -/
def load (path : String) : Except OsError String → Except Error (List MountEntry)
  | .ok content => .ok (parse content)
  | .error e => .error (.mountTableRead path e)

def cephMounts (entries : List MountEntry) : List MountEntry := entries.filter MountEntry.isCeph

/-- The text of a field as the kernel writes it: space, tab, line feed and backslash as octal
escapes. -/
def escape (field : String) : String :=
  String.ofList (field.toList.flatMap fun c =>
    if c = ' ' then "\\040".toList else if c = '\t' then "\\011".toList
    else if c = '\n' then "\\012".toList else if c = '\\' then "\\134".toList else [c])

end MountTable

end CephMount
