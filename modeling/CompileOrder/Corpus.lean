import CompileOrder.Diagnostic

/-!
# The corpus of units

All units known to a run, in the order they were extracted. Units are referred to
by their position, so the same text configured twice counts as two units. An
instance is looked up in the library it names, else in its architecture's own
library and then in the libraries that architecture refers to; the first library
with a match supplies all targets.
-/

namespace CompileOrder

/-- The units of a run, in order of extraction. -/
structure Corpus where
  /-- The units. -/
  units : List DesignUnit
  deriving DecidableEq, Repr

namespace Corpus

/-- The corpus with more units at its end. -/
def append (c : Corpus) (units : List DesignUnit) : Corpus := ⟨c.units ++ units⟩

/-- The positions of the units with a property, in increasing order. -/
def positions (c : Corpus) (p : DesignUnit → Bool) : List Nat :=
  (c.units.zipIdx.filter fun x => p x.1).map fun x => x.2

/-- The units at some positions. -/
def unitsAt (c : Corpus) (is : List Nat) : List DesignUnit := is.filterMap fun i => c.units[i]?

/-- Whether some unit belongs to the library. -/
def hasLibrary (c : Corpus) (library : String) : Bool := c.units.any fun u => u.library == library

/-- Whether a unit is an architecture of the entity, and the one asked for if any. -/
def isArchitectureOf (library entity : String) (architecture : Option String)
    (u : DesignUnit) : Bool :=
  u.library == library && u.name == entity &&
    u.architecture?.any fun a => architecture.all fun b => a == b

/-- The positions of the architectures of an entity that pass the choice. -/
def architectures (c : Corpus) (library entity : String) (architecture : Option String) :
    List Nat :=
  c.positions (isArchitectureOf library entity architecture)

/-- The positions of the architectures that satisfy a request. -/
def candidates (c : Corpus) (r : Request) : List Nat :=
  c.architectures r.library r.entity r.architecture

/-- The libraries in which an instance of `u` is looked for, in order. -/
def searchPath (u : DesignUnit) (i : Instance) : List String :=
  match i.library with
  | some l => [l]
  | none => u.library :: u.referencedLibraries

/-- The positions of the architectures that satisfy an instance inside `u`: all those
of the first library on the search path that has one. -/
def targets (c : Corpus) (u : DesignUnit) (i : Instance) : List Nat :=
  (((searchPath u i).map fun l => c.architectures l i.target.name i.target.architecture).find?
    fun found => !found.isEmpty).getD []

/-- The positions of the units other than architectures with this name. -/
def named (c : Corpus) (library name : String) : List Nat :=
  c.positions fun u => !u.isArchitecture && u.library == library && u.name == name

end Corpus

end CompileOrder
