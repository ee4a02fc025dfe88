import CompileOrder.Shell.Regex.Notation
import CompileOrder.Shell.Utility.Values

/-!
# Values of expressions

An expression of words is a number or a text. Its operators compute with numbers,
compare, choose, and look at parts of texts.
-/

namespace CompileOrder.Shell.Utility.Expr

/-- Words are read from the left; `last` is the word before them. -/
structure Reader where
  /-- The words that are left. -/
  rest : List String
  /-- The word before them. -/
  last : String := ""

/-- A step of reading. -/
abbrev Read := StateT Reader (Except String)

/-- The whole number that a text is. -/
def integer? (text : String) : Option Int :=
  match text.toList with
  | '-' :: cs =>
    if !cs.isEmpty && cs.all Char.isDigit then some (-(Octets.number cs : Int))
    else none
  | cs => if !cs.isEmpty && cs.all Char.isDigit then some (Octets.number cs) else none

/-- Whether a value counts as nothing. -/
def isNull (text : String) : Bool :=
  text.isEmpty || (let cs := text.toList
    let ds := if cs.head? == some '-' then cs.tail else cs
    !ds.isEmpty && ds.all fun c => c == '0')

/-- The next word is taken if it is one of some. -/
def accept? (words : List String) : Read (Option String) := do
  let s ← get
  match s.rest with
  | w :: rest =>
    if words.contains w then
      set { s with rest := rest, last := w }
      return some w
    return none
  | [] => return none

/-- The next word. -/
def next : Read String := do
  let s ← get
  match s.rest with
  | w :: rest =>
    set { s with rest := rest, last := w }
    return w
  | [] => throw ("syntax error: missing argument after " ++ Quote.inWords s.last)

/-- What an expression describes at the start of a text: its first part, or its length. -/
def matchStart (text pattern : String) : Read String := do
  match Regex.parse { isExtended := false } pattern with
  | .error fault => throw fault.words
  | .ok parsed =>
    let chars := text.toList.toArray
    let s : Regex.Subject := { chars := chars, keepsAll := parsed.regex.refersBack }
    let found := Regex.longest (parsed.regex.reaches s 0 [])
    return match found with
      | some (last, captures) =>
        if parsed.groups == 0 then toString last
        else match captures.get? 1 with
          | some (a, b) => Regex.stretch chars a b
          | none => ""
      | none => if parsed.groups == 0 then "0" else ""

/-- The rules of one level of parentheses. -/
structure Rules where
  /-- An expression. -/
  expression : Read String

section

variable (rules : Rules)

/-- A word, an expression in parentheses, or a function of texts; at most `n` functions
deep. -/
def operand : Nat → Read String
  | 0 => throw "syntax error"
  | n + 1 => do
    let word ← next
    match word with
    | "(" =>
      let value ← rules.expression
      if (← accept? [")"]).isSome then return value
      match (← get).rest with
      | w :: _ => throw ("syntax error: expecting ')' instead of " ++ Quote.inWords w)
      | [] => throw ("syntax error: expecting ')' after " ++ Quote.inWords (← get).last)
    | ")" => throw "syntax error: unexpected ')'"
    | "+" => next
    | "length" => return toString (← operand n).length
    | "match" =>
      let text ← operand n
      matchStart text (← operand n)
    | "index" =>
      let text := (← operand n).toList
      let set := (← operand n).toList
      return toString ((text.findIdx? fun c => set.contains c).elim 0 (· + 1))
    | "substr" =>
      let text ← operand n
      let start := integer? (← operand n)
      let length := integer? (← operand n)
      return match start, length with
        | some i, some k =>
          if i ≤ 0 || k ≤ 0 then ""
          else Octets.takeFirst k.toNat (Octets.dropFirst (i.toNat - 1) text)
        | _, _ => ""
    | word => return word

/-- Operands joined by colons, at most `n`. -/
def matching (n : Nat) : Read String := do
  let first ← operand rules (n + 1)
  loop n first
where
  /-- The operands after the first one. -/
  loop : Nat → String → Read String
    | 0, value => return value
    | n + 1, value => do
      match ← accept? [":"] with
      | none => return value
      | some _ =>
        let pattern ← operand rules (n + 1)
        loop n (← matchStart value pattern)

/-- Two values as numbers. -/
def numbers (a b : String) : Read (Int × Int) := do
  match integer? a, integer? b with
  | some x, some y => return (x, y)
  | _, _ => throw "non-integer argument"

/-- Values joined by operators, from the left. -/
def chain (operators : List String) (inner : Read String)
    (apply : String → String → String → Read String) : Nat → String → Read String
  | 0, value => return value
  | n + 1, value => do
    match ← accept? operators with
    | none => return value
    | some operator =>
      let other ← inner
      chain operators inner apply n (← apply operator value other)

/-- Products. -/
def product (n : Nat) : Read String := do
  let first ← matching rules n
  chain ["*", "/", "%"] (matching rules n) (fun operator a b => do
    let (x, y) ← numbers a b
    if operator != "*" && y == 0 then throw "division by zero"
    return toString (match operator with
      | "*" => x * y
      | "/" => Int.tdiv x y
      | _ => Int.tmod x y)) n first

/-- Sums. -/
def sum (n : Nat) : Read String := do
  let first ← product rules n
  chain ["+", "-"] (product rules n) (fun operator a b => do
    let (x, y) ← numbers a b
    return toString (if operator == "+" then x + y else x - y)) n first

/-- Comparisons. -/
def comparison (n : Nat) : Read String := do
  let first ← sum rules n
  chain ["<", "<=", "=", "==", "!=", ">=", ">"] (sum rules n) (fun operator a b => do
    let order := match integer? a, integer? b with
      | some x, some y => compare x y
      | _, _ => compare a b
    let holds := match operator with
      | "<" => order.isLT
      | "<=" => order.isLE
      | "=" | "==" => order.isEq
      | "!=" => !order.isEq
      | ">=" => order.isGE
      | _ => order.isGT
    return if holds then "1" else "0") n first

/-- Values of which all have to be something. -/
def conjunction (n : Nat) : Read String := do
  let first ← comparison rules n
  chain ["&"] (comparison rules n) (fun _ a b =>
    return if isNull a || isNull b then "0" else a) n first

/-- Values of which the first one that is something is taken. -/
def disjunction (n : Nat) : Read String := do
  let first ← conjunction rules n
  chain ["|"] (conjunction rules n) (fun _ a b =>
    return if !isNull a then a else if isNull b then "0" else b) n first

end

/-- The rules with a number of levels of parentheses. -/
def rules : Nat → Rules
  | 0 => ⟨throw "syntax error"⟩
  | n + 1 => ⟨do
    let count := (← get).rest.length
    disjunction (rules n) (count + 1)⟩

/-- The value of some words. -/
def evaluate (words : List String) : Except String String := do
  let (value, s) ← (rules (words.length + 1)).expression.run { rest := words }
  match s.rest with
  | [] => return value
  | w :: _ => throw ("syntax error: unexpected argument " ++ Quote.inWords w)

end CompileOrder.Shell.Utility.Expr

namespace CompileOrder.Shell.Utility

open Tool

/-- Shows the value of an expression. -/
def expr : Tool Nat := do
  let words ← args
  let words := if words.head? == some "--" then words.tail else words
  if words.isEmpty then misuse 2 "missing operand"
  else match Expr.evaluate words with
    | .ok value =>
      outLines [value]
      return if Expr.isNull value then 1 else 0
    | .error message => fail 2 message

end CompileOrder.Shell.Utility
