import CompileOrder.DesignUnit.Clause
import CompileOrder.Instance.Header
import CompileOrder.Token.Lexer

/-!
# Extracting design units

A source file is read line by line. Outside a unit, context clauses are collected
until a header opens a unit; inside, tokens are collected until the last of them
form an end that closes the unit. A closed unit takes the collected clauses with
it, so the next one starts without any.
-/

namespace CompileOrder

/-- A unit whose end has not been seen yet. -/
structure OpenUnit where
  /-- The unit so far. -/
  unit : DesignUnit
  /-- Whether it is a package made by instantiation, which ends at a semicolon. -/
  instantiates : Bool
  /-- The tokens from its header on. -/
  tokens : List Token
  deriving DecidableEq, Repr

/-- The name that may stand after `end`: the architecture's own, else the unit's. -/
def DesignUnit.closingName (u : DesignUnit) : String := u.architecture?.getD u.name

/-- The reserved words that may stand after `end`. -/
def UnitKind.closingWords : UnitKind → List Keyword
  | .entity => [.ENTITY]
  | .architecture _ _ => [.ARCHITECTURE]
  | .package => [.PACKAGE]
  | .packageBody => [.PACKAGE, .BODY]

namespace OpenUnit

/-- Whether the tokens are just the name that closes the unit. -/
def isClosingName (o : OpenUnit) : List Token → Bool
  | [t] => t.isIdentifier && t.name == o.unit.closingName
  | _ => false

/-- Whether the tokens begin with these reserved words. -/
def startsWith : List Keyword → List Token → Bool
  | [], _ => true
  | _ :: _, [] => false
  | k :: ks, t :: ts => t.isKeyword k && startsWith ks ts

/-- Whether the words between `end` and the semicolon close the unit. Without any
words only an entity or a package is closed, since the others may hold bodies of
their own that end so. -/
def acceptsEnd (o : OpenUnit) (words : List Token) : Bool :=
  let keywords := o.unit.kind.closingWords
  let rest := words.drop keywords.length
  (words.isEmpty && o.unit.definesName) || o.isClosingName words ||
    (startsWith keywords words && (rest.isEmpty || o.isClosingName rest))

/-- Whether some end of the tokens reads `end` followed by accepted words. -/
def hasEnd (o : OpenUnit) : List Token → Bool
  | [] => false
  | t :: ts => (t.isKeyword .END && o.acceptsEnd ts) || o.hasEnd ts

/-- The number of tokens in the longest end, without its semicolon. -/
def longestEnd : Nat := 4

/-- Whether the tokens so far end the unit. -/
def isClosed (o : OpenUnit) : Bool :=
  match o.tokens.getLast? with
  | none => false
  | some last =>
    let before := o.tokens.dropLast
    last.isDelimiter ';' &&
      (o.instantiates || o.hasEnd (before.drop (before.length - longestEnd)))

/-- The instance with `WORK` replaced by the unit's own library. -/
def resolveInstance (own : String) (i : Instance) : Instance :=
  { i with library := i.library.map (resolveWork own) }

/-- The finished unit: its last line is known, and so are an architecture's instances. -/
def close (o : OpenUnit) (line : Nat) : DesignUnit :=
  let kind := match o.unit.kind with
    | .architecture a _ =>
      .architecture a ((Instance.mine o.tokens).map (resolveInstance o.unit.library))
    | kind => kind
  { o.unit with kind := kind, endLine := line }

end OpenUnit

/-- The units found in one file. -/
structure FileUnits where
  /-- The completed units in source order. -/
  units : List DesignUnit
  /-- The unit still open at the end of the file. -/
  unterminated : Option DesignUnit
  deriving DecidableEq, Repr

/-- The state of reading one file. -/
structure Extractor where
  /-- The name of the file. -/
  file : String
  /-- The library its units belong to. -/
  library : String
  /-- The number of lines read. -/
  lineCount : Nat
  /-- The libraries mentioned since the last unit. -/
  libraries : List String
  /-- The names used since the last unit. -/
  clauses : List UseClause
  /-- The unit being read. -/
  current : Option OpenUnit
  /-- The completed units in source order. -/
  units : List DesignUnit
  deriving DecidableEq, Repr

namespace Extractor

/-- Before the first line of a file. -/
def start (file library : String) : Extractor where
  file := file
  library := Text.upper library
  lineCount := 0
  libraries := []
  clauses := []
  current := none
  units := []

/-- The clauses are kept for the next unit. -/
def collect (x : Extractor) (c : Clause) : Extractor :=
  match c with
  | .library names => { x with libraries := x.libraries ++ names }
  | .use clauses => { x with clauses := x.clauses ++ clauses }

/-- The use of its own entity or package that an architecture or package body implies. -/
def impliedUse (x : Extractor) (h : Header) : List UseClause :=
  match h.kind with
  | .architecture _ _ | .packageBody => [⟨x.library, some h.name⟩]
  | .entity | .package => []

/-- The implied use of a header is kept like a clause before it. -/
def implyUse (x : Extractor) (h : Header) : Extractor :=
  { x with clauses := x.clauses ++ x.impliedUse h }

/-- The unit that a header opens on the current line, under the clauses kept so far. -/
def openUnit (x : Extractor) (h : Header) : OpenUnit where
  unit := .declare h.kind h.name x.library x.file x.lineCount x.libraries x.clauses
  instantiates := h.instantiates
  tokens := []

/-- The unit is continued by these tokens, and closed if they end it. -/
def advance (x : Extractor) (o : OpenUnit) (tokens : List Token) : Extractor :=
  let o := { o with tokens := o.tokens ++ tokens }
  if o.isClosed then
    { x with
      current := none
      units := x.units ++ [o.close x.lineCount]
      libraries := []
      clauses := [] }
  else { x with current := some o }

/-- The tokens of the current line are taken in. -/
def take (x : Extractor) (tokens : List Token) : Extractor :=
  match x.current with
  | some o => x.advance o tokens
  | none =>
    let (clauses, rest) := Clause.readAll 0 tokens
    let x := clauses.foldl collect x
    match Header.read? rest with
    | some h =>
      let x := x.implyUse h
      x.advance (x.openUnit h) rest
    | none => x

/-- The next line of the file is read. -/
def feed (x : Extractor) (line : String) : Extractor :=
  let x := { x with lineCount := x.lineCount + 1 }
  x.take (Lexer.tokenize line x.lineCount)

/-- What has been found when the file ends here. -/
def finish (x : Extractor) : FileUnits where
  units := x.units
  unterminated := x.current.map fun o => { o.unit with endLine := x.lineCount }

end Extractor

/-- The units in a sequence of lines. -/
def extractLines (lines : List String) (file library : String) : FileUnits :=
  (lines.foldl Extractor.feed (Extractor.start file library)).finish

/-- The units in the text of a source file. -/
def extract (text file library : String) : FileUnits :=
  extractLines ((Text.lines text.toList).map String.ofList) file library

end CompileOrder
