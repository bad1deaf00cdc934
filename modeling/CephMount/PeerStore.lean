import CephMount.Record
import CephMount.FileTree
import CephMount.Json.Write

/-!
The shared directory of unit records. A unit's record lives in `<dir>/<stem>.json`, written to a
temporary file and moved into place; reading all records skips files that cannot be read, and a
directory that does not exist holds none.
-/
namespace CephMount

/-- A directory of unit records. -/
structure PeerStore where
  dir : String
  deriving DecidableEq, Repr

namespace PeerStore

/-- Whether a character may stand in a record's file name as it is. -/
def keepsChar (c : Char) : Bool := c.isAlphanum || c = '-' || c = '_' || c = '.'

def fileStem (unitId : String) : String := String.ofList (unitId.toList.map fun c =>
  if keepsChar c then c else '-')

def recordPath (s : PeerStore) (unitId : String) : String :=
  Path.join s.dir (fileStem unitId ++ ".json")

/-- Writes a record to its file; a failed step leaves the steps before it done. -/
def publish (s : PeerStore) (r : UnitRecord) (t : FileTree) : Except Error Unit × FileTree :=
  match t.createDirAll s.dir with
  | (.error e, t) => (.error (.peerStoreWrite s.dir e), t)
  | (.ok (), t) =>
    let path := s.recordPath r.unitId
    let tmp := Path.withExtension path "json.tmp"
    match t.writeFile tmp (r.toJson.pretty) with
    | .error e => (.error (.peerStoreWrite tmp e), t)
    | .ok t =>
      match t.rename tmp path with
      | .error e => (.error (.peerStoreWrite path e), t)
      | .ok t => (.ok (), t)

/-- Adds a record to a list sorted by unit, replacing the record of the same unit. -/
def insertRecord (r : UnitRecord) : List UnitRecord → List UnitRecord
  | [] => [r]
  | q :: rest =>
    if r.unitId < q.unitId then r :: q :: rest
    else if r.unitId = q.unitId then r :: rest
    else q :: insertRecord r rest

def readable (t : FileTree) (path : String) : Option UnitRecord :=
  match t.readFile path with
  | .ok content => (UnitRecord.ofJson content).toOption
  | .error _ => none

def readAll (s : PeerStore) (t : FileTree) : Except Error (List UnitRecord) :=
  match t.readDir s.dir with
  | .error .notFound => .ok []
  | .error e => .error (.peerStoreRead s.dir e)
  | .ok names =>
    .ok ((names.filter (Path.extension? · == some "json")).foldl (fun acc name =>
      match readable t (Path.join s.dir name) with
      | some r => insertRecord r acc
      | none => acc) [])

def read (s : PeerStore) (unitId : String) (t : FileTree) : Except Error (Option UnitRecord) :=
  let path := s.recordPath unitId
  match t.readFile path with
  | .ok content =>
    match UnitRecord.ofJson content with
    | .ok r => .ok (some r)
    | .error _ => .error (.peerRecordParse path)
  | .error .notFound => .ok none
  | .error e => .error (.peerStoreRead path e)

end PeerStore

end CephMount
