import CompileOrder.Corpus

/-!
# Selecting architectures

A selection names an entity together with one of its architectures. The selections are read
one after the other and gather, for each entity they name, the architectures chosen for it.
Then only these stay of the architectures of such an entity; units of other kinds and
architectures of other entities are untouched.
-/

namespace CompileOrder.Corpus

/-- For each entity of a library that some selection names, the set of architectures chosen. -/
abbrev Choices := List ((String × String) × List String)

namespace Choices

/-- One more architecture is chosen for an entity. -/
def add (entity : String × String) (architecture : String) : Choices → Choices
  | [] => [(entity, [architecture])]
  | (key, chosen) :: rest =>
    if key == entity then (key, Text.insertSorted Text.precedes architecture chosen) :: rest
    else (key, chosen) :: add entity architecture rest

/-- Whether a unit stays: an architecture has to be chosen if its entity has choices. -/
def keeps (choices : Choices) (u : DesignUnit) : Bool :=
  match u.architecture? with
  | none => true
  | some a => (choices.lookup (u.library, u.name)).all fun chosen => chosen.contains a

end Choices

/-- What the selections read so far amount to. -/
structure Selecting where
  /-- The architectures chosen. -/
  choices : Choices := []
  /-- What has to be told, in order. -/
  findings : List Diagnostic := []
  deriving DecidableEq, Repr

namespace Selecting

/-- One more thing has to be told. -/
def report (s : Selecting) (d : Diagnostic) : Selecting := { s with findings := s.findings ++ [d] }

/-- One more selection is read; one without an architecture chooses nothing, and one whose
architecture the corpus does not have chooses it nevertheless. -/
def read (c : Corpus) (s : Selecting) (r : Request) : Selecting :=
  match r.architecture with
  | none => s.report (.selectsNothing r)
  | some a =>
    let s := if (c.candidates r).isEmpty then s.report (.topNotFound r) else s
    { s with choices := s.choices.add (r.library, r.entity) a }

end Selecting

/-- The corpus left by the selections, and what has to be told about them. -/
def select (c : Corpus) (selections : List Request) : Corpus × List Diagnostic :=
  let s := selections.foldl (Selecting.read c) {}
  (⟨c.units.filter s.choices.keeps⟩, s.findings)

end CompileOrder.Corpus
