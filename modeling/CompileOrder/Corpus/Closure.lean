import CompileOrder.Corpus

/-!
# The closure of top-level requests

The units needed to build some top-level entities: the architectures requested,
every unit that a needed unit uses by name, and every architecture that satisfies
one of its instances. A queue holds the needed units whose own needs are still to be
followed. A name is looked up only the first time some unit uses it, and a library
without units is passed over and reported only the first time it is used; no unit is
queued twice, so there are never more visits than units.
-/

namespace CompileOrder.Corpus

/-- The state of the search for the needed units. -/
structure Worklist where
  /-- The positions of the units found to be needed, latest first. -/
  required : List Nat := []
  /-- The libraries and names looked up so far. -/
  reached : List (String × String) := []
  /-- The used libraries found to have no units. -/
  unknown : List String := []
  /-- The needed units not visited yet, in the order they were found. -/
  queue : List Nat := []
  /-- What has to be told, in order. -/
  findings : List Diagnostic := []
  deriving DecidableEq, Repr

namespace Worklist

/-- One more thing has to be told. -/
def report (s : Worklist) (d : Diagnostic) : Worklist := { s with findings := s.findings ++ [d] }

/-- The unit at a position is needed; it is queued unless that was known. -/
def require (s : Worklist) (i : Nat) : Worklist :=
  if s.required.contains i then s
  else { s with required := i :: s.required, queue := s.queue ++ [i] }

/-- The units at some positions are needed, or `d` has to be told if there are none. -/
def requireOr (s : Worklist) (d : Diagnostic) (found : List Nat) : Worklist :=
  found.foldl require (if found.isEmpty then s.report d else s)

section
variable (c : Corpus)

/-- The architectures that a top-level request stands for are needed. -/
def addTop (s : Worklist) (r : Request) : Worklist :=
  let found := c.candidates r
  if r.architecture.isNone && 1 < found.length then
    found.foldl require
      (s.report (.conflict r ((c.unitsAt found).filterMap DesignUnit.architecture?)))
  else s.requireOr (.topNotFound r) found

/-- The units of a name that `u` uses are needed, unless the name was looked up before. -/
def addName (u : DesignUnit) (library : String) (s : Worklist) (name : String) : Worklist :=
  if s.reached.contains (library, name) then s
  else { s with reached := (library, name) :: s.reached }.requireOr
    (.unresolvedUse u library name) (c.named library name)

/-- The names that `u` uses from a library, if the library has units at all. -/
def addUses (u : DesignUnit) (s : Worklist) (entry : String × List String) : Worklist :=
  if c.hasLibrary entry.1 then entry.2.foldl (addName c u entry.1) s
  else if s.unknown.contains entry.1 then s
  else { s with unknown := entry.1 :: s.unknown }.report (.unknownLibrary u entry.1)

/-- The architectures that satisfy an instance of `u` are needed. -/
def addInstance (u : DesignUnit) (s : Worklist) (i : Instance) : Worklist :=
  s.requireOr (.instanceNotFound u i) (c.targets u i)

/-- The needs of the unit at a position are followed. -/
def visit (s : Worklist) (i : Nat) : Worklist :=
  match c.units[i]? with
  | some u => u.instances.foldl (addInstance c u) (u.uses.entries.foldl (addUses c u) s)
  | none => s

/-- The queue is worked off, in at most so many visits. -/
def run : Nat → Worklist → Worklist
  | 0, s => s
  | visits + 1, s =>
    match s.queue with
    | [] => s
    | i :: rest => run visits (visit c { s with queue := rest } i)

end

end Worklist

/-- The search for what some requests need, worked off to its end. -/
def needed (c : Corpus) (tops : List Request) : Worklist :=
  Worklist.run c c.units.length (tops.foldl (Worklist.addTop c) {})

/-- The needed units in corpus order, and what has to be told about them. -/
def closure (c : Corpus) (tops : List Request) : Corpus × List Diagnostic :=
  let s := c.needed tops
  (⟨(c.units.zipIdx.filter fun x => s.required.contains x.2).map fun x => x.1⟩, s.findings)

end CompileOrder.Corpus
