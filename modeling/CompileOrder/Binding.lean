import CompileOrder.Instance
import CompileOrder.Text.Case
import CompileOrder.Text.CharClass
import CompileOrder.Text.Split

/-!
# Binding requests

A request names an entity, possibly with its library before a point and with one
of its architectures in parentheses: `LIBRARY.ENTITY(ARCHITECTURE)`. Blanks around
each part do not matter, and all names are upper-cased. A request without an
architecture stands for every architecture of the entity.
-/

namespace CompileOrder

/-- A request for an entity of a library, or for one of its architectures. -/
structure Request where
  /-- The library that holds the entity. -/
  library : String
  /-- The entity. -/
  entity : String
  /-- The architecture, if only one is meant. -/
  architecture : Option String
  deriving DecidableEq, Repr

namespace Request

/-- The request as it is shown. -/
def display (r : Request) : String :=
  r.library ++ "." ++ r.entity ++ optionalPart "(" ")" r.architecture

/-- The word that a part of a request consists of, without the blanks around it. -/
def word? (part : List Char) : Option String :=
  let word := Text.trim part
  if Text.isWord word then some (Text.upper (String.ofList word)) else none

/-- The library and the entity before any parenthesis; a missing library is
`fallback`, which then has to be a word itself. -/
def path? (fallback : String) (path : List Char) : Option (String × String) :=
  match Text.splitAt (· == '.') path with
  | [entity] => do
    let entity ← word? entity
    if Text.isWord fallback.toList then some (Text.upper fallback, entity) else none
  | [library, entity] => do
    let library ← word? library
    let entity ← word? entity
    return (library, entity)
  | _ => none

/-- What stands in parentheses after the path: nothing at all, or one word. -/
def selector? : List Char → Option (Option String)
  | [] => some none
  | _ :: inner =>
    if inner.getLast? = some ')' then (word? inner.dropLast).map some else none

/-- The request that a text describes, if it is well-formed. -/
def parse? (text fallback : String) : Option Request := do
  let text := Text.trim text.toList
  let architecture ← selector? (text.dropWhile (· != '('))
  let (library, entity) ← path? fallback (text.takeWhile (· != '('))
  return ⟨library, entity, architecture⟩

end Request

end CompileOrder
