import CompileOrder.Instance
import CompileOrder.Text.Case
import CompileOrder.Text.Order

/-!
# Design units

An entity, architecture, package or package body of a library, with the lines it
spans, the libraries and names its context clauses make visible, and, for an
architecture, its instances. Inside a unit the library name `WORK` means the
unit's own library, so no clause of a unit mentions `WORK` in any other sense.
-/

namespace CompileOrder

/-- The name that always denotes the library a unit itself belongs to. -/
def workLibrary : String := "WORK"

/-- The library that `library` denotes inside a unit of the library `own`. -/
def resolveWork (own library : String) : String :=
  if library == workLibrary then own else library

/-- One imported name, or the mere mention of a library when no name is given. -/
structure UseClause where
  /-- The library searched. -/
  library : String
  /-- The unit of that library. -/
  name : Option String
  deriving DecidableEq, Repr

/-- The names a unit uses, grouped by library, libraries and names increasing. -/
structure UseTable where
  /-- Each library with the names used of it. -/
  entries : List (String × List String)
  /-- The libraries are increasing. -/
  libraries_increasing : Text.Increasing (entries.map (·.1)) := by decide
  /-- The names of each library are increasing. -/
  names_increasing : ∀ entry ∈ entries, Text.Increasing entry.2 := by decide
  deriving DecidableEq, Repr

namespace UseTable

instance : Membership (String × List String) UseTable := ⟨fun t entry => entry ∈ t.entries⟩

@[simp] theorem mem_entries {t : UseTable} {entry : String × List String} :
    entry ∈ t.entries ↔ entry ∈ t := Iff.rfl

/-- The use clauses of a unit of the library `own`, sorted and grouped by library. -/
def ofClauses (own : String) (clauses : List UseClause) : UseTable where
  entries :=
    (Text.nameSet (clauses.map fun c => resolveWork own c.library)).map fun l =>
      (l, Text.nameSet (clauses.filterMap fun c =>
        if resolveWork own c.library == l then c.name else none))
  libraries_increasing := by
    simpa [Function.comp_def] using Text.increasing_nameSet _
  names_increasing entry hentry := by
    obtain ⟨l, -, rfl⟩ := List.mem_map.mp hentry
    exact Text.increasing_nameSet _

/-- What a function gives for each library with its names. -/
def map {α : Type} (t : UseTable) (f : String × List String → α) : List α := t.entries.map f

/-- The libraries a table mentions. -/
def libraries (t : UseTable) : List String := t.entries.map (·.1)

/-- The pairs of a library and a name that a table holds. -/
def pairs (t : UseTable) : List (String × String) :=
  t.entries.flatMap fun entry => entry.2.map fun n => (entry.1, n)

end UseTable

/-- The kinds of design unit. -/
inductive UnitKind where
  /-- The outside of a design entity. -/
  | entity
  /-- A body of an entity, with its own name and its instances. -/
  | architecture (name : String) (instances : List Instance)
  /-- A package declaration. -/
  | package
  /-- The body of a package. -/
  | packageBody
  deriving DecidableEq, Repr

/-- The words that name the kind. -/
def UnitKind.label : UnitKind → String
  | .entity => "entity"
  | .architecture _ _ => "architecture"
  | .package => "package"
  | .packageBody => "package body"

/-- A design unit as it was found in a source file. -/
structure DesignUnit where
  /-- What it is. -/
  kind : UnitKind
  /-- Its name; for an architecture, the name of its entity. -/
  name : String
  /-- The library it belongs to. -/
  library : String
  /-- The source file. -/
  file : String
  /-- The line of its header. -/
  beginLine : Nat
  /-- The line of its end. -/
  endLine : Nat
  /-- The libraries of its library clauses, each once, in order of first mention. -/
  libraries : List String
  /-- The names of its use clauses. -/
  uses : UseTable
  deriving DecidableEq, Repr

namespace DesignUnit

/-- A unit just opened at `line` under the library and use clauses before it. -/
def declare (kind : UnitKind) (name library file : String) (line : Nat)
    (libraries : List String) (clauses : List UseClause) : DesignUnit where
  kind := kind
  name := name
  library := library
  file := file
  beginLine := line
  endLine := line
  libraries := (libraries.map (resolveWork library)).eraseDups
  uses := UseTable.ofClauses library clauses

/-- The architecture's own name, for architectures only. -/
def architecture? (u : DesignUnit) : Option String :=
  match u.kind with
  | .architecture a _ => some a
  | _ => none

/-- Whether the unit is an architecture. -/
def isArchitecture (u : DesignUnit) : Bool := u.architecture?.isSome

/-- The instances of an architecture; other units have none. -/
def instances (u : DesignUnit) : List Instance :=
  match u.kind with
  | .architecture _ is => is
  | _ => []

/-- Whether the unit puts its name into the library: entities and packages do. -/
def definesName (u : DesignUnit) : Bool :=
  match u.kind with
  | .entity | .package => true
  | _ => false

/-- The libraries the unit may draw instances from: those of its library clauses,
then those its use clauses add. -/
def referencedLibraries (u : DesignUnit) : List String :=
  u.libraries ++ u.uses.libraries.filter fun l => !u.libraries.contains l

/-- The unit as it is shown, such as `architecture WORK.ADDER(RTL)`. -/
def display (u : DesignUnit) : String :=
  u.kind.label ++ " " ++ u.library ++ "." ++ u.name ++ optionalPart "(" ")" u.architecture?

end DesignUnit

end CompileOrder
