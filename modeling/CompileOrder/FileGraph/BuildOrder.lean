import CompileOrder.FileGraph
import CompileOrder.FileGraph.Levels

/-!
# The build order

Files are levelled by one of two strategies and listed by decreasing level, files
of one level by name. A file then stands before every file that depends on it,
unless the two depend on each other. How the graph is cut into its classes of
mutually reachable files is left open: `condense` lists them, each after the
classes it depends on.
-/

namespace CompileOrder

/-- How levels are assigned. -/
inductive Strategy where
  /-- Along chains of dependencies; cycles are cut where a chain would close. -/
  | propagate
  /-- By classes of mutually dependent files; each cycle is reported. -/
  | topological
  deriving DecidableEq, Repr

namespace Strategy

/-- The name of a strategy. -/
def name : Strategy → String
  | .propagate => "propagate"
  | .topological => "topological"

/-- The strategy with exactly this name. -/
def ofName? (text : String) : Option Strategy :=
  [propagate, topological].find? fun s => s.name == text

/-- The strategy with this name in any mixture of upper and lower case. -/
def parse? (text : String) : Option Strategy := ofName? (Text.lower text)

end Strategy

/-- How files are ordered. -/
structure OrderRules where
  /-- How levels are assigned. -/
  strategy : Strategy := .propagate
  /-- Whether names of other libraries make a file depend on another. -/
  crossLibrary : Bool := false
  deriving DecidableEq, Repr

namespace FileGraph

section
variable (condense : List (List Nat) → List (List Nat))

/-- The classes of mutually dependent files, each before the classes it depends on. -/
def components (g : FileGraph) : List (List Nat) := (condense g.edges).reverse

/-- The cycles of the graph: each class of several mutually dependent files. -/
def cycles (g : FileGraph) : List Diagnostic :=
  ((g.components condense).filter fun c => 1 < c.length).map fun c =>
    .dependencyCycle (namesAt g.files c)

/-- The level of each file under a strategy. -/
def levels (g : FileGraph) : Strategy → List Nat
  | .propagate => Levels.propagate g.edges
  | .topological => Levels.topological g.edges (g.components condense)

/-- What a strategy reports beside the levels. -/
def findings (g : FileGraph) : Strategy → List Diagnostic
  | .propagate => []
  | .topological => g.cycles condense

/-- Whether `f` may stand before `g`: at a higher level, or at the same level with a
name that does not come after. -/
def standsBefore (f g : SourceFile) : Bool :=
  decide (g.level < f.level) || (f.level == g.level && !Text.precedes g.name f.name)

/-- The files with their levels. -/
def levelled (g : FileGraph) (s : Strategy) : List SourceFile :=
  (g.files.zip (g.levels condense s)).map fun x => { x.1 with level := x.2 }

/-- The files with their levels, in build order. -/
def sorted (g : FileGraph) (s : Strategy) : List SourceFile :=
  (g.levelled condense s).mergeSort standsBefore

end

end FileGraph

/-- The files of some units in build order, and what has to be told about them, when
`condense` cuts the graph of files into classes. -/
def orderFiles (condense : List (List Nat) → List (List Nat)) (units : List DesignUnit)
    (rules : OrderRules) : List SourceFile × List Diagnostic :=
  let g := FileGraph.ofUnits rules.crossLibrary units
  (g.sorted condense rules.strategy, g.undefined ++ g.findings condense rules.strategy)

/-- The files of some units in build order, and what has to be told about them. -/
def buildOrder (units : List DesignUnit) (rules : OrderRules) :
    List SourceFile × List Diagnostic :=
  orderFiles Graph.components units rules

end CompileOrder
