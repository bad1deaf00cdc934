import CephMount.Text.Basic

/-!
Paths and their components. Two paths are *the same* when their components are, so `/data/`,
`/data/.` and `//data` are all `/data`.
-/
namespace CephMount

/-- One component of a path. -/
inductive Component where
  | root
  | current
  | parent
  | normal (name : String)
  deriving DecidableEq, Repr

namespace Component

def text : Component → String
  | root => "/"
  | current => "."
  | parent => ".."
  | normal name => name

/-- The component that one piece between slashes stands for, if any. -/
def ofPiece (piece : List Char) : Option Component :=
  if piece = [] ∨ piece = ['.'] then none
  else if piece = ['.', '.'] then some parent
  else some (normal (String.ofList piece))

end Component

namespace Path

/-- The components of a path's text. -/
def components (s : String) : List Component :=
  let cs := s.toList
  let pieces := cs.splitOn '/'
  match cs with
  | '/' :: _ => Component.root :: (pieces.drop 1).filterMap Component.ofPiece
  | _ =>
    match pieces with
    | ['.'] :: rest => Component.current :: rest.filterMap Component.ofPiece
    | _ => pieces.filterMap Component.ofPiece

/-- Two paths are the same when they have the same components. -/
def same (a b : String) : Bool := components a == components b

/-- The text of a list of components: the root, then the others joined by slashes. -/
def ofComponents : List Component → String
  | Component.root :: rest => "/" ++ "/".intercalate (rest.map Component.text)
  | cs => "/".intercalate (cs.map Component.text)

/-- A path with a name appended: an absolute name replaces it; otherwise a slash separates the
two unless the path is empty or already ends in one. -/
def join (dir name : String) : String :=
  if name.startsWith "/" then name
  else if dir.isEmpty || dir.endsWith "/" then dir ++ name
  else dir ++ "/" ++ name

/-- The stem and extension of a file name. The name splits at its last dot, except that a name
whose only dot opens it, or the name `..`, has no extension. -/
def splitExtension (name : String) : String × Option String :=
  let rev := name.toList.reverse
  let after := rev.takeWhile (· ≠ '.')
  let before := rev.drop (after.length + 1)
  if name = ".." ∨ after.length = rev.length ∨ before = [] then (name, none)
  else (String.ofList before.reverse, some (String.ofList after.reverse))

def extension? (name : String) : Option String := (splitExtension name).2

/-- The text of a path up to the end of its file name, and that name. The file name is the last
piece between slashes other than an empty piece or `.`; a path whose last such piece is `..`, or
that has none (the root, `.`), has no file name. -/
def fileNameEnd? (path : String) : Option (List Char × String) :=
  let pieces := path.toList.splitOn '/'
  let kept := (pieces.reverse.dropWhile fun p => p = [] ∨ p = ['.']).reverse
  match kept.getLast? with
  | none => none
  | some ['.', '.'] => none
  | some name => some ("/".toList.intercalate kept, String.ofList name)

/-- A path with the extension of its file name set: the text is cut right after the file's
stem and, unless the extension is empty, a dot and the extension follow. A path without a file
name is left as it is. -/
def setExtension (path ext : String) : String :=
  match fileNameEnd? path with
  | none => path
  | some (upTo, name) =>
    let stem := (splitExtension name).1
    let cut := String.ofList (upTo.take (upTo.length - (name.length - stem.length)))
    if ext.isEmpty then cut else cut ++ "." ++ ext

/-- A path with its file name's extension replaced (or added). When the file name has an
extension, that many characters are first cut from the end of the path, which leaves the dot;
the extension is then set on what remains. So `a.json` becomes `a.json.tmp` under `json.tmp`,
while `..json` becomes `..`, whose last piece is no file name. -/
def withExtension (path ext : String) : String :=
  let base := match fileNameEnd? path with
    | some (_, name) => match extension? name with
      | some old => String.ofList (path.toList.take (path.length - old.length))
      | none => path
    | none => path
  setExtension base ext

theorem same_refl (a : String) : same a a = true := by simp [same]

end Path

end CephMount
