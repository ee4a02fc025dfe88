import CompileOrder.Shell.Regex.Notation
import CompileOrder.Shell.Utility.Awk.Script
import CompileOrder.Shell.Utility.Awk.Token

/-!
# Values of scripts for records

A value is a number, a text, or a text of the input, which also counts as a number if it
looks like one. Every value can be used as a number, as a text or as a condition.
-/

namespace CompileOrder.Shell.Awk

/-- A value. -/
inductive Value where
  /-- The value of something that was never set. -/
  | unset
  /-- A number. -/
  | number (x : Float)
  /-- A text. -/
  | text (s : String)
  /-- A text of the input. -/
  | input (s : String)

namespace Value

/-- The number that a text is, if it is one with blanks around it at most. -/
def numeral? (s : String) : Option Float :=
  let (d, rest) := Real.decimal s
  if rest.length < s.length && rest.all Octets.isSpace then some (Token.float d) else none

/-- The value as a number: a text counts as far as it is one. -/
def toNumber : Value → Float
  | .unset => 0
  | .number x => x
  | .text s | .input s =>
    let (d, rest) := Real.decimal s
    if rest.length < s.length then Token.float d else 0

/-- Whether a number is whole and not too large to be written with all its digits. -/
def isWhole (x : Float) : Bool := x.floor == x && x.abs < 9.2e18

/-- The whole number next to nought that a number reaches. -/
def truncate (x : Float) : Int := x.toInt64.toInt

/-- A number by a directive. -/
def written (d : Format.Directive) (letter : Char) (x : Float) : List Char :=
  let isNegative := x.toBits.toNat / Nat.pow 2 63 == 1
  if x.isNaN then d.pad (d.sign isNegative ++ "nan".toList)
  else if x.isInf then d.pad (d.sign isNegative ++ "inf".toList)
  else
    let (a, b) := Real.ratio x
    d.quotient letter isNegative a b

/-- A number as a text, by a format if it is not whole. -/
def numberText (format : String) (x : Float) : String :=
  if isWhole x then toString (truncate x)
  else
    let cs := (format.toList.dropWhile fun c => c != '%').drop 1
    let width := Octets.number (cs.takeWhile Char.isDigit)
    let after := cs.dropWhile Char.isDigit
    let (precision, after) := match after with
      | '.' :: ds => (some (Octets.number (ds.takeWhile Char.isDigit)), ds.dropWhile Char.isDigit)
      | after => (none, after)
    let d : Format.Directive := { width := width, precision := precision }
    String.ofList (match after.headD 'g' with
      | 'd' | 'i' => d.integer (truncate x)
      | letter => written d letter x)

/-- The value as a text, where numbers are written by a format. -/
def toText (format : String) : Value → String
  | .unset => ""
  | .number x => numberText format x
  | .text s | .input s => s

/-- Whether the value holds as a condition. -/
def holds : Value → Bool
  | .unset => false
  | .number x => x != 0
  | .text s => !s.isEmpty
  | .input s =>
    match numeral? s with
    | some x => x != 0
    | none => !s.isEmpty

/-- One for true and nought for false. -/
def ofBool (b : Bool) : Value := .number (if b then 1 else 0)

/-- The value as a number, if it is compared as one. -/
def compared? : Value → Option Float
  | .unset => some 0
  | .number x => some x
  | .text _ => none
  | .input s => numeral? s

/-- Two values are compared as numbers if both are, and else as texts. -/
def compare (format : String) (relation : Relation) (a b : Value) : Bool :=
  match a.compared?, b.compared? with
  | some x, some y =>
    match relation with
    | .less => x < y
    | .lessOrEqual => x ≤ y
    | .equal => x == y
    | .different => x != y
    | .greater => y < x
    | .greaterOrEqual => y ≤ x
  | _, _ =>
    let s := a.toText format
    let t := b.toText format
    match relation with
    | .less => s < t
    | .lessOrEqual => s ≤ t
    | .equal => s == t
    | .different => s != t
    | .greater => t < s
    | .greaterOrEqual => t ≤ s

/-- What is left of a division towards nought. -/
def remainder (x y : Float) : Float :=
  if isWhole x && isWhole y && y != 0 then Float.ofInt ((truncate x).tmod (truncate y))
  else
    let q := x / y
    x - y * (if q < 0 then q.ceil else q.floor)

/-- An operation on numbers. -/
def operate (operation : Operation) (x y : Float) : Float :=
  match operation with
  | .add => x + y
  | .subtract => x - y
  | .multiply => x * y
  | .divide => x / y
  | .remainder => remainder x y
  | .power => Float.pow x y

end Value

/-- Regular expressions are written in the extended notation. -/
def dialect : Regex.Dialect := { isExtended := true, escapesInSets := true }

/-- A regular expression where letters with a backslash are what they stand for. -/
def plainPattern : Nat → List Char → List Char
  | 0, cs => cs
  | _ + 1, [] => []
  | n + 1, '\\' :: c :: cs =>
    if Escape.isOctal c || (Escape.control? c).isSome && c != '\\' && c != 'e' then
      let (x, rest) := Escape.character (c :: cs)
      x :: plainPattern n rest
    else if c.isAlphanum || c == '"' || c == '/' || c == '<' || c == '>' || c == '\'' ||
      c == '\x60' then
      c :: plainPattern n cs
    else '\\' :: c :: plainPattern n cs
  | n + 1, c :: cs => c :: plainPattern n cs

/-- The regular expression that a text is; one that is none describes itself. -/
def regex (s : String) : Regex :=
  match Regex.parse dialect (String.ofList (plainPattern (s.length + 1) s.toList)) with
  | .ok parsed => parsed.regex
  | .error _ => Regex.ofText dialect s

/-- The stretches between blanks. -/
def blankFields (s : String) : List String :=
  ((s.toList.splitBy fun a b => isBlank a == isBlank b).filter fun g => !(g.any isBlank)).map
    String.ofList
where
  /-- A blank, a tabulator or a line feed. -/
  isBlank (c : Char) : Bool := c == ' ' || c == '\t' || c == '\n'

/-- The stretches between those that a regular expression describes, at most `n`. -/
def stretchesFrom (r : Regex) (chars : Array Char) : Nat → Nat → Nat → List String
  | 0, start, _ => [Regex.stretch chars start chars.size]
  | n + 1, start, place =>
    match r.search chars place with
    | none => [Regex.stretch chars start chars.size]
    | some found =>
      if found.first == found.last then
        if chars.size ≤ found.first then [Regex.stretch chars start chars.size]
        else stretchesFrom r chars n start (found.first + 1)
      else Regex.stretch chars start found.first :: stretchesFrom r chars n found.last found.last

/-- The parts that a separator divides a text into. -/
def divide (separator s : String) : List String :=
  if s.isEmpty then []
  else match separator.toList with
    | [' '] => blankFields s
    | [] => s.toList.map String.singleton
    | [c] => s.splitOn (String.singleton c)
    | _ => stretchesFrom (regex separator) s.toList.toArray (s.length + 1) 0 0

/-- The place of a key in the order in which tables are gone through. -/
def bucket (key : String) : Nat :=
  key.toList.foldl (fun h c => ((h ^^^ c.toNat) * 16777619) % 4294967296) 2166136261 % 64

end CompileOrder.Shell.Awk
