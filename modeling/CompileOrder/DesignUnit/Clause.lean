import CompileOrder.DesignUnit
import CompileOrder.Token
import CompileOrder.Text.Split

/-!
# Context clauses and unit headers

What may stand outside a unit: library clauses, use clauses, and the header that
opens the next unit. A clause is its reserved word, a list of items divided by
commas, and a semicolon; the items are single names for a library clause and
selected names for a use clause.
-/

namespace CompileOrder

/-- A clause that makes libraries or names visible to the next unit. -/
inductive Clause where
  /-- `library a, b;` -/
  | library (names : List String)
  /-- `use a.b.all, c.d;` -/
  | use (clauses : List UseClause)
  deriving DecidableEq, Repr

namespace Clause

/-- The items up to the first semicolon, divided at commas, and the number of tokens
they take together with that semicolon. -/
def items? (tokens : List Token) : Option (List (List Token) × Nat) :=
  let body := tokens.takeWhile fun t => !t.isDelimiter ';'
  if body.length < tokens.length then
    some (Text.splitAt (Token.isDelimiter ',') body, body.length + 1)
  else none

/-- The name that an item of a library clause consists of. -/
def libraryName? : List Token → Option String
  | [t] => if t.isIdentifier then some t.name else none
  | _ => none

/-- Whether a token may end a selected name: an identifier or `all`. -/
def isSuffix (t : Token) : Bool := t.isIdentifier || t.isKeyword .ALL

/-- The use clause that a selected name stands for: `lib.all` mentions the library,
`lib.unit`, `lib.unit.item` and `lib.unit.all` use the unit. -/
def selectedName? : List Token → Option UseClause
  | [lib, dot, suffix] =>
    if lib.isIdentifier && dot.isDelimiter '.' && isSuffix suffix then
      some ⟨lib.name, if suffix.isIdentifier then some suffix.name else none⟩
    else none
  | [lib, dot, unit, dot', suffix] =>
    if lib.isIdentifier && dot.isDelimiter '.' && unit.isIdentifier && dot'.isDelimiter '.' &&
        isSuffix suffix then
      some ⟨lib.name, some unit.name⟩
    else none
  | _ => none

/-- The clause begun by the token `word`, and the number of tokens it takes after it. -/
def read? (word : Token) (rest : List Token) : Option (Clause × Nat) := do
  let (items, taken) ← items? rest
  if word.isKeyword .LIBRARY then
    let names ← items.mapM libraryName?
    return (.library names, taken)
  else if word.isKeyword .USE then
    let clauses ← items.mapM selectedName?
    return (.use clauses, taken)
  else none

/-- The clauses at the start and the tokens after them, first passing over `skip`
tokens of the clause before. -/
def readAll : Nat → List Token → List Clause × List Token
  | _, [] => ([], [])
  | skip + 1, _ :: ts => readAll skip ts
  | 0, t :: ts =>
    match read? t ts with
    | some (clause, taken) =>
      let (clauses, rest) := readAll taken ts
      (clause :: clauses, rest)
    | none => ([], t :: ts)

end Clause

/-- The header that opens a unit. -/
structure Header where
  /-- The kind of the unit, an architecture still without instances. -/
  kind : UnitKind
  /-- The name of the unit; for an architecture, of its entity. -/
  name : String
  /-- Whether the unit is a package made by instantiating another. -/
  instantiates : Bool
  deriving DecidableEq, Repr

namespace Header

/-- `entity name is` -/
def entity? : List Token → Option Header
  | word :: name :: is :: _ =>
    if word.isKeyword .ENTITY && name.isIdentifier && is.isKeyword .IS then
      some ⟨.entity, name.name, false⟩
    else none
  | _ => none

/-- `architecture name of entity is` -/
def architecture? : List Token → Option Header
  | word :: arch :: of :: entity :: is :: _ =>
    if word.isKeyword .ARCHITECTURE && arch.isIdentifier && of.isKeyword .OF &&
        entity.isIdentifier && is.isKeyword .IS then
      some ⟨.architecture arch.name [], entity.name, false⟩
    else none
  | _ => none

/-- `package name is`, made by instantiation when `new` follows. -/
def package? : List Token → Option Header
  | word :: name :: is :: rest =>
    if word.isKeyword .PACKAGE && name.isIdentifier && is.isKeyword .IS then
      some ⟨.package, name.name, (rest.head?.map (Token.isKeyword .NEW)).getD false⟩
    else none
  | _ => none

/-- `package body name is` -/
def packageBody? : List Token → Option Header
  | word :: body :: name :: is :: _ =>
    if word.isKeyword .PACKAGE && body.isKeyword .BODY && name.isIdentifier &&
        is.isKeyword .IS then
      some ⟨.packageBody, name.name, false⟩
    else none
  | _ => none

/-- The header that the tokens begin with. -/
def read? (tokens : List Token) : Option Header :=
  entity? tokens <|> architecture? tokens <|> package? tokens <|> packageBody? tokens

end Header

end CompileOrder
