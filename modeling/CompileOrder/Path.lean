import CompileOrder.Text.Split

/-!
# Paths

Paths are texts and are shown as they were written. Parent and file name look only
at the text: repeated slashes, a slash at the end and single points inside a path
do not count, while two points are a name like any other.
-/

namespace CompileOrder.Path

/-- Whether the path starts at the root of the tree. -/
def isAbsolute (path : String) : Bool := path.toList.head? == some '/'

/-- The start of a path that no parent loses, a slash or a single point, and the
stretches between slashes after it. -/
def anatomy (path : String) : String × List String :=
  let split (cs : List Char) := (Text.splitAt (· == '/') cs).map String.ofList
  match path.toList with
  | '/' :: cs => ("/", split cs)
  | ['.'] => (".", split [])
  | '.' :: '/' :: cs => (".", split ('/' :: cs))
  | cs => ("", split cs)

/-- The stretches without those at the end that do not count. -/
def trimStretches (stretches : List String) : List String :=
  (stretches.reverse.dropWhile fun s => s == "" || s == ".").reverse

/-- The path without its last name, if it has one. -/
def parent? (path : String) : Option String :=
  let (start, stretches) := anatomy path
  let names := trimStretches stretches
  if names.isEmpty then if start == "." then some "" else none
  else some (start ++ "/".intercalate (trimStretches names.dropLast))

/-- The last name of the path, unless it is two points. -/
def fileName? (path : String) : Option String :=
  match (trimStretches (anatomy path).2).getLast? with
  | some name => if name == ".." then none else some name
  | none => none

/-- A path and its parents, at most `count` of them. -/
def upwardFrom : Nat → String → List String
  | 0, _ => []
  | count + 1, path =>
    path :: match parent? path with
      | some above => upwardFrom count above
      | none => []

/-- A path, its parent, the parent of that, and so on; each is shorter than the last. -/
def upward (path : String) : List String := upwardFrom (path.length + 1) path

/-- The path `p` as seen from `base`. -/
def join (base p : String) : String :=
  if isAbsolute p || base.isEmpty then p
  else if base.toList.getLast? == some '/' then base ++ p
  else base ++ "/" ++ p

/-- The names a path walks through, without empty ones. -/
def names (path : String) : List String :=
  ((Text.splitAt (· == '/') path.toList).map String.ofList).filter fun s => s != ""

/-- Whether the path ends with a slash and so can only mean a directory. -/
def endsWithSlash (path : String) : Bool := path.toList.getLast? == some '/'

end CompileOrder.Path
