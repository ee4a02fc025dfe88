/-!
# Instances

An instantiation statement names a label and the entity or component it
instantiates, possibly with the library that holds it and the architecture it asks
for.
-/

namespace CompileOrder

/-- What an instantiation asks for. -/
inductive Target where
  /-- An entity, possibly with one of its architectures. -/
  | entity (name : String) (architecture : Option String)
  /-- A component, bound to an entity of the same name. -/
  | component (name : String)
  deriving DecidableEq, Repr

/-- An instantiation statement of an architecture. -/
structure Instance where
  /-- The label before the colon. -/
  label : String
  /-- The library that is named explicitly. -/
  library : Option String
  /-- The entity or component instantiated. -/
  target : Target
  deriving DecidableEq, Repr

namespace Target

/-- The name of the entity or component. -/
def name : Target → String
  | .entity n _ => n
  | .component n => n

/-- The architecture asked for. -/
def architecture : Target → Option String
  | .entity _ a => a
  | .component _ => none

/-- The reserved word that introduces the target. -/
def word : Target → String
  | .entity _ _ => "entity"
  | .component _ => "component"

end Target

/-- The text of an optional part with `before` and `after` around it, or nothing. -/
def optionalPart (before after : String) : Option String → String
  | some s => before ++ s ++ after
  | none => ""

/-- The statement as it is shown, such as `U1 : entity WORK.ADDER(RTL)`. -/
def Instance.display (i : Instance) : String :=
  i.label ++ " : " ++ i.target.word ++ " " ++ optionalPart "" "." i.library ++ i.target.name ++
    optionalPart "(" ")" i.target.architecture

end CompileOrder
