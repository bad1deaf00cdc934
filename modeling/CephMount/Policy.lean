import CephMount.Error
import CephMount.Json.Read
import CephMount.Options
import CephMount.Path
import CephMount.FileTree
import CephMount.Text.Basic

/-!
The local mount policy: a usable mountpoint (absolute, without blanks or `..`, not the root),
kept as rebuilt from its components, and four flags.
-/
namespace CephMount

/-- The configuration as the unit receives it; every field may be left out. -/
structure PolicyConfig where
  mountpoint : Option String := none
  noexec : Bool := false
  nosuid : Bool := false
  nodev : Bool := false
  readOnly : Bool := false
  deriving DecidableEq, Repr

/-- A usable mount policy: a normalised mountpoint and the flags to mount with. -/
structure MountPolicy where
  mountpoint : String
  options : MountOptions
  deriving DecidableEq, Repr

/-- Checks a configured mountpoint, in order: empty, not absolute, a blank or control character,
a `..` component, the root directory. Returns the path rebuilt from its components. -/
def validateMountpoint (raw : String) : Except Error String :=
  let invalid (what : String) := Error.invalidPolicy (what ++ ": " ++ Text.quote raw)
  if raw.isEmpty then .error (.invalidPolicy "mountpoint is empty")
  else if raw.toList.head? != some '/' then
    .error (invalid "mountpoint must be an absolute path")
  else if raw.toList.any (fun c => Text.isBlank c || Text.isControl c) then
    .error (invalid "mountpoint contains whitespace or control characters")
  else if (Path.components raw).contains .parent then
    .error (invalid "mountpoint must not contain '..'")
  else
    let normal := Path.ofComponents ((Path.components raw).filter (· != .current))
    if normal = "/" then .error (invalid "refusing to manage the root directory")
    else .ok normal

namespace PolicyConfig

open Json Decoder in
/-- Reads one entry of a configuration object, refusing a key seen before. -/
def entry (seen : List String × PolicyConfig) (key : String) :
    Decoder (List String × PolicyConfig) := do
  let (keys, c) := seen
  let known := ["mountpoint", "noexec", "nosuid", "nodev", "read-only"]
  if known.contains key then
    if keys.contains key then fail .mismatch
    else
      colon
      let c ← if key = "mountpoint" then do pure { c with mountpoint := ← option string }
        else if key = "noexec" then do pure { c with noexec := ← bool }
        else if key = "nosuid" then do pure { c with nosuid := ← bool }
        else if key = "nodev" then do pure { c with nodev := ← bool }
        else do pure { c with readOnly := ← bool }
      pure (key :: keys, c)
  else
    colon
    ignore
    pure seen

open Json Decoder in
/-- Reads a configuration written as an object or as an array of its values. -/
def decoder : Decoder PolicyConfig :=
  record
    (itemsInOrder
      [(fun v c => { c with mountpoint := v }) <$> option string,
        (fun v c => { c with noexec := v }) <$> bool,
        (fun v c => { c with nosuid := v }) <$> bool,
        (fun v c => { c with nodev := v }) <$> bool,
        (fun v c => { c with readOnly := v }) <$> bool] true {})
    ((·.2) <$> entries entry ([], {}))

/-- Reads a configuration document; `none` when it does not read. -/
def ofJson (content : String) : Option PolicyConfig :=
  match Json.readAll decoder content with
  | .ok c => some c
  | .error _ => none

def load (path : String) (t : FileTree) : Except Error (Option PolicyConfig) :=
  match t.readFile path with
  | .ok content => .ok (ofJson content)
  | .error .notFound => .ok none
  | .error e => .error (.inputRead path e)

def options (c : PolicyConfig) : MountOptions :=
  { noexec := c.noexec, nosuid := c.nosuid, nodev := c.nodev, readOnly := c.readOnly }

/-- The policy a configuration gives; a missing mountpoint counts as empty. -/
def validate (c : PolicyConfig) : Except Error MountPolicy := do
  let mountpoint ← validateMountpoint (c.mountpoint.getD "")
  return { mountpoint, options := c.options }

end PolicyConfig

/-- The policy of an optional configuration; without one there is none. -/
def validatePolicy : Option PolicyConfig → Except Error MountPolicy
  | some c => c.validate
  | none => .error (.invalidPolicy "no configuration")

def policyOf (config : Option PolicyConfig) : Option MountPolicy :=
  match validatePolicy config with
  | .ok p => some p
  | .error _ => none

end CephMount
