import CompileOrder.Instance
import CompileOrder.Token

/-!
# Instance headers

An instantiation shows itself by `port map (` or `generic map (`. The tokens right
before it are compared with nine header shapes, each a row of parts that a token
either fills or spells. No two shapes fit the same tokens, and none is longer than
nine tokens, so only that many are looked at.
-/

namespace CompileOrder

/-- One token of a header shape. -/
inductive Part where
  /-- The label of the statement. -/
  | label
  /-- The library that is searched. -/
  | library
  /-- A package that the component is selected from; the search does not use it. -/
  | package
  /-- The entity or component. -/
  | target
  /-- The architecture of the entity. -/
  | architecture
  /-- A reserved word. -/
  | word (k : Keyword)
  /-- A punctuation character. -/
  | mark (c : Char)
  deriving DecidableEq, Repr

/-- Whether a token fits a part: an identifier for the named parts, else the very token. -/
def Part.fits (p : Part) (t : Token) : Bool :=
  match p with
  | .word k => t.isKeyword k
  | .mark c => t.isDelimiter c
  | .label | .library | .package | .target | .architecture => t.isIdentifier

/-- A header shape: its parts from the label on, and whether it instantiates an entity. -/
structure Shape where
  /-- The parts in order. -/
  parts : List Part
  /-- Whether the target is an entity rather than a component. -/
  isEntity : Bool
  deriving DecidableEq, Repr

namespace Shape

/-- The nine header shapes, longest first. -/
def all : List Shape :=
  [⟨[.label, .mark ':', .word .ENTITY, .library, .mark '.', .target, .mark '(', .architecture,
      .mark ')'], true⟩,
   ⟨[.label, .mark ':', .word .ENTITY, .target, .mark '(', .architecture, .mark ')'], true⟩,
   ⟨[.label, .mark ':', .library, .mark '.', .package, .mark '.', .target], false⟩,
   ⟨[.label, .mark ':', .word .ENTITY, .library, .mark '.', .target], true⟩,
   ⟨[.label, .mark ':', .word .COMPONENT, .library, .mark '.', .target], false⟩,
   ⟨[.label, .mark ':', .library, .mark '.', .target], false⟩,
   ⟨[.label, .mark ':', .word .ENTITY, .target], true⟩,
   ⟨[.label, .mark ':', .word .COMPONENT, .target], false⟩,
   ⟨[.label, .mark ':', .target], false⟩]

/-- The number of tokens of the longest shape. -/
def maxLength : Nat := 9

/-- The name that a token gives to a part of the shape. -/
def nameOf (s : Shape) (p : Part) (tokens : List Token) : Option String :=
  ((s.parts.zip tokens).find? fun x => x.1 == p).map fun x => x.2.name

/-- The instance that the tokens of a fitting header describe. -/
def build (s : Shape) (tokens : List Token) : Option Instance := do
  let label ← s.nameOf .label tokens
  let name ← s.nameOf .target tokens
  let target := if s.isEntity then .entity name (s.nameOf .architecture tokens) else .component name
  return ⟨label, s.nameOf .library tokens, target⟩

/-- Whether the tokens fit the parts one by one. -/
def fits (s : Shape) (tokens : List Token) : Bool :=
  s.parts.length == tokens.length && (s.parts.zip tokens).all fun x => x.1.fits x.2

/-- The last tokens of a header, as many as the shape has parts. -/
def tail (s : Shape) (header : List Token) : List Token :=
  header.drop (header.length - s.parts.length)

/-- The instance that the end of a header describes, if it fits the shape. -/
def read? (s : Shape) (header : List Token) : Option Instance :=
  if s.fits (s.tail header) then s.build (s.tail header) else none

end Shape

namespace Instance

/-- The instance described by the tokens right before a map clause. -/
def ofHeader? (header : List Token) : Option Instance :=
  Shape.all.findSome? fun s => s.read? header

/-- Whether the tokens begin with `port map (` or `generic map (`. -/
def opensMap : List Token → Bool
  | a :: b :: c :: _ =>
    (a.isKeyword .PORT || a.isKeyword .GENERIC) && b.isKeyword .MAP && c.isDelimiter '('
  | _ => false

/-- The instances found from here on, given the tokens before, nearest first. -/
def mineFrom (before : List Token) : List Token → List Instance
  | [] => []
  | t :: ts =>
    let found :=
      if opensMap (t :: ts) then (ofHeader? (before.take Shape.maxLength).reverse).toList else []
    found ++ mineFrom (t :: before) ts

/-- The instances of a stretch of tokens, in order. -/
def mine (tokens : List Token) : List Instance := mineFrom [] tokens

end Instance

end CompileOrder
