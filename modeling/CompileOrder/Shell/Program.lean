import CompileOrder.FileTree.System
import CompileOrder.Shell.Machine

/-!
# Programs

A program is a utility of the system or a script that names what runs it, or that the
shell runs. A program is looked for in the directories of a search path, unless its
name has a slash.
-/

namespace CompileOrder.Shell

/-- A process about to run a program. -/
structure Call where
  /-- The name it is called by, and its arguments. -/
  words : List String
  /-- The variables it finds set. -/
  environment : List (String × String)
  /-- The channels that its descriptors lead to. -/
  descriptors : List (Nat × Nat)
  /-- The signals that it does not receive. -/
  ignored : List Nat := []
  /-- The number of the process. -/
  process : Nat := 0

/-- Why a program cannot be run. -/
inductive LaunchFault where
  /-- It is not there. -/
  | missing (fault : FileFault)
  /-- It is not a program. -/
  | denied
  /-- Its arguments are longer than the system allows. -/
  | tooLong
  deriving DecidableEq, Repr

namespace LaunchFault

/-- The reason in words. -/
def words : LaunchFault → String
  | .missing .notFound | .missing .notDirectory => "not found"
  | .missing fault => fault.words
  | .denied => "Permission denied"
  | .tooLong => "Argument list too long"

/-- The system's words for the reason. -/
def systemWords : LaunchFault → String
  | .missing fault => fault.words
  | .denied => "Permission denied"
  | .tooLong => "Argument list too long"

/-- The code that a command ends with which cannot be run. -/
def code : LaunchFault → Nat
  | .missing _ => 127
  | .denied | .tooLong => 126

end LaunchFault

/-- What runs a program. -/
inductive Program where
  /-- A utility of the system. -/
  | utility (name : String)
  /-- The shell, on a script. -/
  | script (path : String)
  /-- The program that the script names, with a word it gives. -/
  | interpreted (program : String) (word : Option String) (path : String)
  deriving DecidableEq, Repr

namespace Program

/-- The program and the word that the first line of a script names. -/
def interpreter? (contents : String) : Option (String × Option String) :=
  match contents.toList with
  | '#' :: '!' :: cs =>
    let line := (cs.takeWhile fun c => c != '\n').dropWhile fun c => c == ' ' || c == '\t'
    let program := line.takeWhile fun c => c != ' ' && c != '\t'
    let isBlank (c : Char) : Bool := c == ' ' || c == '\t'
    let word := ((line.drop program.length).dropWhile isBlank).reverse.dropWhile isBlank
    if program.isEmpty then none
    else
      some (String.ofList program,
        if word.isEmpty then none else some (String.ofList word.reverse))
  | _ => none

/-- The program at a path. -/
def identify (m : Machine) (path : String) : Except LaunchFault Program := do
  let place ← (m.locate path).mapError .missing
  match m.tree.root.get? place with
  | some (.file bytes a) =>
    let name := place.getLastD ""
    if a.mode &&& 0o111 == 0 then throw .denied
    else if place.dropLast == System.utilityPlace && bytes.isEmpty &&
        System.utilities.contains name then return .utility name
    else match interpreter? (Octets.ofBytes bytes) with
      | some (program, word) =>
        let _ ← (m.locate program).mapError .missing
        return .interpreted program word path
      | none => return .script path
  | some _ => throw .denied
  | none => throw (.missing .notFound)

/-- The paths at which a program can be, by a search path. -/
def candidates (search name : String) : List String :=
  (search.splitOn ":").map fun directory =>
    if directory.isEmpty then name else directory ++ "/" ++ name

/-- The path of a program by a search path: the first file there that can be run. -/
def search (m : Machine) (search name : String) : Except LaunchFault String :=
  if name.toList.contains '/' then .ok name
  else
    let found := (candidates search name).filter fun path => m.holds path
    match found.find? fun path => (identify m path).isOk with
    | some path => .ok path
    | none => .error (if found.isEmpty then .missing .notFound else .denied)

end Program

end CompileOrder.Shell
