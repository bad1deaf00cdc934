import CephMount.Facts
import CephMount.Policy
import CephMount.MountTable
import CephMount.Digest.Sha256

/-!
The desired mount, which exists exactly when connection facts and a policy do. An observed mount
*satisfies* it when it is a CephFS mount with the same source and managed flags. The fingerprint
hashes the mount's fields, each followed by a NUL byte, with the secret as its own digest.
-/
namespace CephMount

/-- How the client authenticates and which filesystem it asks for. -/
structure Connection where
  name : String
  secret : String
  fsid : String
  mdsNamespace : Option String
  deriving DecidableEq, Repr

/-- A desired CephFS mount. -/
structure MountSpec where
  source : String
  target : String
  fstype : String
  options : MountOptions
  connection : Connection
  deriving DecidableEq, Repr

namespace MountSpec

def cephType : String := "ceph"

/-- The desired mount of the inputs; none unless both are present. -/
def ofInputs? (facts : Option ConnectionFacts) (policy : Option MountPolicy) : Option MountSpec :=
  match facts, policy with
  | some f, some p =>
    some { source := ",".intercalate (f.monitors.map Monitor.render) ++ ":" ++ f.exportPath,
           target := p.mountpoint, fstype := cephType, options := p.options,
           connection := { name := f.authUser, secret := f.authKey, fsid := f.fsId,
                           mdsNamespace := f.fsName } }
  | _, _ => none

/-- The connection's mount options, with the secret read from a file. -/
def connectionOptions (c : Connection) (secretFile : String) : List String :=
  ["name=" ++ c.name, "secretfile=" ++ secretFile, "fsid=" ++ c.fsid] ++
    match c.mdsNamespace with
    | some ns => ["mds_namespace=" ++ ns]
    | none => []

def mountData (s : MountSpec) (secretFile : String) : String :=
  ",".intercalate (connectionOptions s.connection secretFile ++ s.options.flags)

def satisfiedBy (s : MountSpec) (o : Observation) : Bool :=
  o.isCeph && o.source == s.source && o.policyOptions == s.options

/-- The bytes the fingerprint hashes: each field's UTF-8 bytes and a NUL. -/
def fingerprintInput (s : MountSpec) : List Nat :=
  let secretDigest := Digest.hexDigest (Text.utf8Bytes s.connection.secret)
  [s.source, s.target, s.fstype, s.options.optionString, s.connection.name, s.connection.fsid,
    s.connection.mdsNamespace.getD "", secretDigest].flatMap fun f => Text.utf8Bytes f ++ [0]

/-- The fingerprint of a desired mount, as 64 hexadecimal digits. -/
def fingerprint (s : MountSpec) : String := Digest.hexDigest s.fingerprintInput

def toJson (s : MountSpec) : Json.Value :=
  .obj [("source", .str s.source), ("target", .str s.target), ("fstype", .str s.fstype),
    ("options", s.options.toJson),
    ("connection", .obj ([("name", .str s.connection.name), ("fsid", .str s.connection.fsid)] ++
      match s.connection.mdsNamespace with
      | some ns => [("mds_namespace", .str ns)]
      | none => []))]

end MountSpec

end CephMount
