import CompileOrder.Shell.Arithmetic
import CompileOrder.Shell.Machine

/-!
# Conditions

A condition compares texts or numbers or asks something about a file; conditions are
joined by `-a`, `-o`, `!` and parentheses. A word that looks like an operator is taken
for an operand where only an operand can stand.
-/

namespace CompileOrder.Shell.Condition

/-- What an operator is put before or between. -/
inductive Kind where
  | unary | binary | not | and | or | openParenthesis | closeParenthesis
  deriving DecidableEq, Repr

/-- The operators before an operand. -/
def unaryOperators : List String :=
  ["-r", "-w", "-x", "-e", "-f", "-d", "-c", "-b", "-p", "-u", "-g", "-k", "-s", "-t", "-z", "-n",
    "-h", "-O", "-G", "-L", "-S"]

/-- The operators between operands. -/
def binaryOperators : List String :=
  ["=", "!=", "<", ">", "-eq", "-ne", "-ge", "-gt", "-le", "-lt", "-nt", "-ot", "-ef"]

/-- The kind of an operator. -/
def kind? (word : String) : Option Kind :=
  if unaryOperators.contains word then some .unary
  else if binaryOperators.contains word then some .binary
  else match word with
    | "!" => some .not
    | "-a" => some .and
    | "-o" => some .or
    | "(" => some .openParenthesis
    | ")" => some .closeParenthesis
    | _ => none

/-- The kind of the operator that the first word is where it stands; none if it is an
operand. -/
def kindHere? : List String → Option Kind
  | [] => none
  | word :: rest =>
    match kind? word, rest with
    | some .unary, [] => none
    | some .unary, [_] => some .unary
    | some .unary, next :: _ :: _ => if kind? next == some .binary then none else some .unary
    | some .openParenthesis, [] => none
    | kind, _ => kind

/-- Whether a node can be run or, if it is a directory, searched. -/
def isExecutable (n : Node) : Bool := n.isDirectory || n.about.mode &&& 0o111 != 0

/-- Whether a node has contents. -/
def isFilled : Node → Bool
  | .file bytes _ => !bytes.isEmpty
  | .directory _ _ => true
  | _ => false

/-- Whether both paths lead to the same node. -/
def isSame (m : Machine) (a b : String) : Bool :=
  match m.locate a, m.locate b, m.find a, m.find b with
  | .ok p, .ok q, .ok n, .ok k =>
    p == q || (n.about.identity != 0 && n.about.identity == k.about.identity)
  | _, _, _, _ => false

/-- Whether the node that a path leads to was changed later than another one. -/
def isNewer (m : Machine) (a b : String) : Bool :=
  match m.find a, m.find b with
  | .ok n, .ok k => k.about.modified < n.about.modified
  | _, _ => false

/-- The number that a text spells in decimal notation, with blanks around it. -/
def number? (text : String) : Option Int :=
  let cs := text.toList.dropWhile Octets.isSpace
  let (isNegative, cs) := match cs with
    | '-' :: cs => (true, cs)
    | '+' :: cs => (false, cs)
    | cs => (false, cs)
  let ds := cs.takeWhile Char.isDigit
  let n : Int := Octets.number ds
  let n := if isNegative then -n else n
  if ds.isEmpty || !(cs.drop ds.length).all Octets.isSpace then none
  else if n > Arithmetic.maxNumber || n < -Arithmetic.maxNumber - 1 then none
  else some n

/-- The number that a text spells, or the reason why it is none. -/
def number (text : String) : Except String Int :=
  match number? text with
  | some n => .ok n
  | none => .error ("Illegal number: " ++ text)

/-- Whether a property of an operand holds. -/
def property (m : Machine) (operator operand : String) : Except String Bool :=
  match operator with
  | "-z" => .ok operand.isEmpty
  | "-n" => .ok !operand.isEmpty
  | "-t" => do
    let _ ← number operand
    return false
  | "-h" | "-L" => .ok (match m.findSelf operand with
    | .ok n => n.isLink
    | .error _ => false)
  | operator => .ok (match m.find operand with
    | .error _ => false
    | .ok n =>
      match operator, n with
      | "-f", .file _ _ | "-d", .directory _ _ | "-c", .device _ _ | "-p", .pipe _ _ => true
      | "-f", _ | "-d", _ | "-c", _ | "-p", _ | "-b", _ | "-S", _ => false
      | "-x", n => isExecutable n
      | "-s", n => isFilled n
      | "-u", n => n.about.mode &&& 0o4000 != 0
      | "-g", n => n.about.mode &&& 0o2000 != 0
      | "-k", n => n.about.mode &&& 0o1000 != 0
      | "-O", n => n.about.owner == 0
      | "-G", n => n.about.group == 0
      | _, _ => true)

/-- Whether a comparison of two operands holds. -/
def comparison (m : Machine) (a operator b : String) : Except String Bool :=
  let numbers (p : Int → Int → Bool) : Except String Bool := do
    return p (← number a) (← number b)
  match operator with
  | "=" => .ok (a == b)
  | "!=" => .ok (a != b)
  | "<" => .ok (decide (a < b))
  | ">" => .ok (decide (b < a))
  | "-eq" => numbers fun a b => a == b
  | "-ne" => numbers fun a b => a != b
  | "-lt" => numbers fun a b => a < b
  | "-le" => numbers fun a b => a ≤ b
  | "-gt" => numbers fun a b => a > b
  | "-ge" => numbers fun a b => a ≥ b
  | "-ef" => .ok (isSame m a b)
  | "-nt" => .ok (isNewer m a b)
  | "-ot" => .ok (isNewer m b a)
  | _ => .ok false

/-- Conditions joined by operators. Each gives whether it holds and the words from its
last word on. -/
structure Rules where
  /-- Conditions joined by `-o`. -/
  disjunction : List String → Except String (Bool × List String)

section

variable (m : Machine) (rules : Rules)

/-- A comparison or a property, or conditions in parentheses. -/
def primary (words : List String) : Except String (Bool × List String) :=
  match words with
  | [] => .ok (false, [])
  | word :: rest =>
    match kindHere? words with
    | some .openParenthesis =>
      if kindHere? rest == some .closeParenthesis then .ok (false, rest)
      else do
        let (holds, rest) ← rules.disjunction rest
        if kindHere? rest.tail == some .closeParenthesis then return (holds, rest.tail)
        else .error "closing paren expected"
    | some .unary =>
      match rest with
      | [] => .error (word ++ ": argument expected")
      | operand :: _ => do return (← property m word operand, rest)
    | _ =>
      match rest with
      | operator :: operands =>
        if kindHere? rest == some .binary then
          match operands with
          | [] => .error (operator ++ ": argument expected")
          | b :: _ => do return (← comparison m word operator b, operands)
        else .ok (!word.isEmpty, words)
      | [] => .ok (!word.isEmpty, words)

/-- A condition with exclamation marks before it. -/
def negation : Nat → List String → Except String (Bool × List String)
  | 0, words => .ok (false, words)
  | n + 1, words =>
    if kindHere? words == some .not then
      match words.tail with
      | [] => .ok (true, words)
      | rest => do
        let (holds, rest) ← negation n rest
        return (!holds, rest)
    else primary m rules words

/-- Conditions joined by `-a`. -/
def conjunction : Nat → Bool → List String → Except String (Bool × List String)
  | 0, before, words => .ok (before, words)
  | n + 1, before, words => do
    let (holds, rest) ← negation m rules words.length words
    let holds := before && holds
    if kindHere? rest.tail == some .and then conjunction n holds rest.tail.tail
    else return (holds, rest)

/-- Conditions joined by `-o`. -/
def disjunction : Nat → Bool → List String → Except String (Bool × List String)
  | 0, before, words => .ok (before, words)
  | n + 1, before, words => do
    let (holds, rest) ← conjunction m rules (words.length + 1) true words
    let holds := before || holds
    if kindHere? rest.tail == some .or then disjunction n holds rest.tail.tail
    else return (holds, rest)

end

/-- The rules with a number of levels of parentheses. -/
def rules (m : Machine) : Nat → Rules
  | 0 => ⟨fun _ => .error "closing paren expected"⟩
  | n + 1 => ⟨fun words => disjunction m (rules m n) (words.length + 1) false words⟩

/-- Whether all the words together are a condition that holds. -/
def whole (m : Machine) (words : List String) : Except String Bool := do
  let (holds, rest) ← (rules m (words.length + 1)).disjunction words
  match rest with
  | word :: _ :: _ =>
    .error (if word.isEmpty then "unexpected operator" else word ++ ": unexpected operator")
  | _ => return holds

/-- Whether the words of a test are a condition that holds. Three words with an operator in
the middle are a comparison; three or four words may be negated or in parentheses as a
whole. -/
def evaluate (m : Machine) : List String → Except String Bool
  | [] => .ok false
  | [a, operator, b] =>
    if kind? operator == some .binary then comparison m a operator b
    else if a == "(" && b == ")" then whole m [operator]
    else if a == "!" then (evaluate m [operator, b]).map fun holds => !holds
    else whole m [a, operator, b]
  | [a, b, c, d] =>
    if a == "(" && d == ")" then whole m [b, c]
    else if a == "!" then (evaluate m [b, c, d]).map fun holds => !holds
    else whole m [a, b, c, d]
  | words => whole m words

end CompileOrder.Shell.Condition
