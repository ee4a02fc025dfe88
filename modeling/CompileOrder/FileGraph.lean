import CompileOrder.Diagnostic

/-!
# The graph of source files

The units of a file are folded into one record: the names the file defines, the
names it uses, and the files these link it to. A file depends on every other file
that defines a name it uses. Names of another library count only when libraries
are ordered across.
-/

namespace CompileOrder

/-- Everything the ordering knows of one source file. -/
structure SourceFile where
  /-- The name of the file. -/
  name : String
  /-- The library of its first unit. -/
  library : String
  /-- The names of its entities and packages, increasing. -/
  defines : List String
  /-- The libraries and names it uses, increasing. -/
  uses : List (String × String)
  /-- The files it depends on, increasing. -/
  dependencies : List String
  /-- The files that depend on it, increasing. -/
  dependents : List String
  /-- The level: greater than that of every file depending on it. -/
  level : Nat
  deriving DecidableEq, Repr

namespace SourceFile

/-- The record of a file from its units, without links and at level zero. -/
def ofUnits (crossLibrary : Bool) (name : String) (units : List DesignUnit) : SourceFile :=
  let library := (units.head?.map (·.library)).getD ""
  { name := name
    library := library
    defines := Text.nameSet ((units.filter (·.definesName)).map (·.name))
    uses := Text.sortedSet Text.pairPrecedes (units.flatMap fun u =>
      u.uses.pairs.filter fun p => crossLibrary || p.1 == library)
    dependencies := []
    dependents := []
    level := 0 }

/-- Whether the file defines the name in the library. -/
def definesPair (f : SourceFile) (p : String × String) : Bool :=
  f.library == p.1 && f.defines.contains p.2

/-- Whether the file uses a name that `g` defines. -/
def usesFile (f g : SourceFile) : Bool := f.uses.any g.definesPair

end SourceFile

/-- The files of a run and, for each of them, the positions of the files it depends on. -/
structure FileGraph where
  /-- The files in order of their first unit. -/
  files : List SourceFile
  /-- The dependencies of each file, as increasing positions. -/
  edges : List (List Nat)
  deriving DecidableEq, Repr

namespace FileGraph

/-- One record per file, in order of its first unit. -/
def gather (crossLibrary : Bool) (units : List DesignUnit) : List SourceFile :=
  (units.map (·.file)).eraseDups.map fun name =>
    .ofUnits crossLibrary name (units.filter fun u => u.file == name)

/-- The positions of the other files that define a name used by the file at `i`. -/
def dependenciesOf (files : List SourceFile) (f : SourceFile) (i : Nat) : List Nat :=
  (files.zipIdx.filter fun x => x.2 != i && f.usesFile x.1).map fun x => x.2

/-- The names of the files at some positions, increasing. -/
def namesAt (files : List SourceFile) (is : List Nat) : List String :=
  Text.nameSet (is.filterMap fun i => files[i]?.map (·.name))

/-- The positions of the files that depend on the file at `i`. -/
def dependentsOf (edges : List (List Nat)) (i : Nat) : List Nat :=
  (edges.zipIdx.filter fun x => x.1.contains i).map fun x => x.2

/-- The graph of the files that hold some units. -/
def ofUnits (crossLibrary : Bool) (units : List DesignUnit) : FileGraph :=
  let files := gather crossLibrary units
  let edges := files.zipIdx.map fun x => dependenciesOf files x.1 x.2
  { files := files.zipIdx.map fun x =>
      { x.1 with
        dependencies := namesAt files (edges.getD x.2 [])
        dependents := namesAt files (dependentsOf edges x.2) }
    edges := edges }

/-- The used names that no file defines although their library has files. -/
def undefined (g : FileGraph) : List Diagnostic :=
  g.files.flatMap fun f =>
    (f.uses.filter fun p =>
      !(g.files.any fun h => h.definesPair p) && g.files.any fun h => h.library == p.1).map
      fun p => .undefinedName f.name p.1 p.2

end FileGraph

end CompileOrder
