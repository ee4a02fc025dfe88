import CompileOrder.Shell.Octets

/-!
# Arithmetic

Expressions are over integers of 64 bits, written in decimal, octal or hexadecimal
notation or held by variables. They are evaluated while they are read; what a
condition leaves out is read but not evaluated.
-/

namespace CompileOrder.Shell.Arithmetic

/-- A token of an expression. -/
inductive Symbol where
  /-- A number. -/
  | number (n : Int)
  /-- A variable. -/
  | name (s : String)
  /-- An operator. -/
  | operator (s : String)
  /-- Anything else. -/
  | unknown
  deriving DecidableEq, Repr

/-- The operators, longer ones before shorter ones that begin them. -/
def operators : List String :=
  ["<<=", ">>=", "==", "!=", "<=", ">=", "&&", "||", "<<", ">>", "+=", "-=", "*=", "/=", "%=", "&=",
    "^=", "|=", "=", "!", "<", ">", "&", "|", "+", "-", "*", "/", "%", "^", "~", "?", ":", "(", ")"]

/-- The greatest number. -/
def maxNumber : Int := 9223372036854775807

/-- The number that 64 bits hold. -/
def wrap (n : Int) : Int := Int.bmod n 18446744073709551616

/-- The value of a digit in a base. -/
def digit? (base : Nat) (c : Char) : Option Nat :=
  let value := if c.isDigit then some (c.toNat - 48)
    else if 'a' ≤ c && c ≤ 'f' then some (c.toNat - 87)
    else if 'A' ≤ c && c ≤ 'F' then some (c.toNat - 55)
    else none
  value.filter fun v => v < base

/-- The number that the digits of a base at the start of a text spell, and the rest. -/
def digits (base : Nat) (cs : List Char) : Nat × List Char :=
  let ds := cs.takeWhile fun c => (digit? base c).isSome
  (ds.foldl (fun n c => n * base + (digit? base c).getD 0) 0, cs.drop ds.length)

/-- The number without sign at the start of a text, in the notation that its first
characters tell, and the rest. -/
def literal (cs : List Char) : Nat × List Char :=
  match cs with
  | '0' :: x :: d :: rest =>
    if (x == 'x' || x == 'X') && (digit? 16 d).isSome then digits 16 (d :: rest) else digits 8 cs
  | '0' :: _ => digits 8 cs
  | _ => digits 10 cs

/-- The number that the value of a variable spells: blanks, a sign and digits. A value
that is empty counts as nought. -/
def valueOf? (text : String) : Option Int :=
  let cs := text.toList.dropWhile Octets.isSpace
  let (isNegative, cs) := match cs with
    | '-' :: cs => (true, cs)
    | '+' :: cs => (false, cs)
    | cs => (false, cs)
  let (n, rest) := literal cs
  let n : Int := if isNegative then -(n : Int) else n
  let isLarge := n > maxNumber || n < -maxNumber - 1
  let isNumber := cs.headD ' ' |>.isDigit
  if isLarge then none
  else if isNumber then if rest.all Octets.isSpace then some n else none
  else if text.toList.all Octets.isSpace then some 0 else none

/-- The symbols of an expression, of which there are at most `n`. -/
def symbolsFrom : Nat → List Char → List Symbol
  | 0, _ => []
  | _ + 1, [] => []
  | n + 1, c :: cs =>
    if c == ' ' || c == '\t' || c == '\n' then symbolsFrom n cs
    else if c.isDigit then
      let (value, rest) := literal (c :: cs)
      .number (min (value : Int) maxNumber) :: symbolsFrom n rest
    else if Octets.isNameStart c then
      let letters := (c :: cs).takeWhile Octets.isNamePart
      .name (String.ofList letters) :: symbolsFrom n ((c :: cs).drop letters.length)
    else match operators.find? fun o => o.toList.isPrefixOf (c :: cs) with
      | some o => .operator o :: symbolsFrom n ((c :: cs).drop o.length)
      | none => .unknown :: symbolsFrom n cs

/-- Why an expression has no value. -/
inductive Fault where
  /-- It is not an expression; the reason. -/
  | malformed (reason : String)
  /-- A variable holds something that is not a number. -/
  | illegalNumber (text : String)
  deriving DecidableEq, Repr

/-- The state of an evaluation. -/
structure State where
  /-- The symbols not yet read. -/
  rest : List Symbol
  /-- The values assigned, the latest first. -/
  assigned : List (String × Int) := []

/-- A step of an evaluation. -/
abbrev Eval := StateT State (Except Fault)

/-- The next symbol, which stays. -/
def peek : Eval (Option Symbol) := do return (← get).rest.head?

/-- The next symbol is read. -/
def advance : Eval Unit := modify fun s => { s with rest := s.rest.tail }

/-- The values of variables before the evaluation. -/
abbrev Values := String → String

/-- The number that a variable holds. -/
def lookup (values : Values) (name : String) : Eval Int := do
  match (← get).assigned.find? fun a => a.1 == name with
  | some (_, n) => return n
  | none =>
    match valueOf? (values name) with
    | some n => return n
    | none => throw (.illegalNumber (values name))

/-- One for true and nought for false. -/
def truth (b : Bool) : Int := if b then 1 else 0

/-- The pattern of 64 bits of a number. -/
def bits (n : Int) : Nat := (n % 18446744073709551616).toNat

/-- The number of places that a shift moves. -/
def places (n : Int) : Nat := bits n % 64

/-- The rank of an operator between two numbers; a lower rank binds closer. -/
def rank? : String → Option Nat
  | "*" | "/" | "%" => some 0
  | "+" | "-" => some 1
  | "<<" | ">>" => some 2
  | "<" | ">" | "<=" | ">=" => some 3
  | "==" | "!=" => some 4
  | "&" => some 5
  | "^" => some 6
  | "|" => some 7
  | _ => none

/-- The value of an operator between two numbers. -/
def combine (operator : String) (a b : Int) : Eval Int := do
  if (operator == "/" || operator == "%") && b == 0 then throw (.malformed "division by zero")
  return wrap <| match operator with
    | "*" => a * b
    | "/" => Int.tdiv a b
    | "%" => Int.tmod a b
    | "+" => a + b
    | "-" => a - b
    | "<<" => a * (2 : Int).pow (places b)
    | ">>" => Int.fdiv a ((2 : Int).pow (places b))
    | "<" => truth (a < b)
    | ">" => truth (a > b)
    | "<=" => truth (a ≤ b)
    | ">=" => truth (a ≥ b)
    | "==" => truth (a == b)
    | "!=" => truth (a != b)
    | "&" => (bits a &&& bits b : Nat)
    | "^" => (bits a ^^^ bits b : Nat)
    | _ => (bits a ||| bits b : Nat)

section

variable (values : Values) (inner : Bool → Eval Int)

/-- A number, a variable, or an expression in parentheses, with signs before it. -/
def primary (skip : Bool) : Nat → Eval Int
  | 0 => throw (.malformed "expecting primary")
  | n + 1 => do
    match ← peek with
    | some (.number v) =>
      advance
      return v
    | some (.name s) =>
      advance
      if skip then return 0 else lookup values s
    | some (.operator "(") =>
      advance
      let v ← inner skip
      if (← peek) != some (.operator ")") then throw (.malformed "expecting ')'")
      advance
      return v
    | some (.operator "+") =>
      advance
      primary skip n
    | some (.operator "-") =>
      advance
      return wrap (-(← primary skip n))
    | some (.operator "!") =>
      advance
      return truth ((← primary skip n) == 0)
    | some (.operator "~") =>
      advance
      return -(← primary skip n) - 1
    | _ => throw (.malformed "expecting primary")

/-- The operator between numbers that comes next, with its rank. -/
def nextOperator? : Eval (Option (String × Nat)) := do
  match ← peek with
  | some (.operator o) => return (rank? o).map fun r => (o, r)
  | _ => return none

/-- A number followed by operators of a rank below `limit`. -/
def chain (skip : Bool) (limit : Nat) : Nat → Int → Eval Int
  | 0, a => return a
  | n + 1, a => do
    match ← nextOperator? with
    | none => return a
    | some (o, r) =>
      if limit ≤ r then return a
      advance
      let b ← primary values inner skip (n + 1)
      let b ← match ← nextOperator? with
        | some (_, r') => if r' < r then chain skip r n b else pure b
        | none => pure b
      let v ← if skip then pure b else combine o a b
      chain skip limit n v

/-- Numbers joined by operators. -/
def binary (skip : Bool) (n : Nat) : Eval Int := do
  chain values inner skip 8 n (← primary values inner skip n)

/-- Values joined by `&&`. -/
def conjunction (skip : Bool) : Nat → Eval Int
  | 0 => throw (.malformed "expecting primary")
  | n + 1 => do
    let a ← binary values inner skip (n + 1)
    if (← peek) != some (.operator "&&") then return a
    advance
    let b ← conjunction (skip || a == 0) n
    return truth (a != 0 && b != 0)

/-- Values joined by `||`. -/
def disjunction (skip : Bool) : Nat → Eval Int
  | 0 => throw (.malformed "expecting primary")
  | n + 1 => do
    let a ← conjunction values inner skip (n + 1)
    if (← peek) != some (.operator "||") then return a
    advance
    let b ← disjunction (skip || a != 0) n
    return truth (a != 0 || b != 0)

/-- A choice between two values. -/
def choice (skip : Bool) : Nat → Eval Int
  | 0 => throw (.malformed "expecting primary")
  | n + 1 => do
    let a ← disjunction values inner skip (n + 1)
    if (← peek) != some (.operator "?") then return a
    advance
    let b ← inner (skip || a == 0)
    if (← peek) != some (.operator ":") then throw (.malformed "expecting ':'")
    advance
    let c ← choice (skip || a != 0) n
    return if a != 0 then b else c

end

/-- The operator that an assignment combines with. -/
def assigning? (o : String) : Option String :=
  if o == "=" then some "" else
    let start := Octets.takeFirst (o.length - 1) o
    if o.toList.getLast? == some '=' && (rank? start).isSome && (rank? o).isNone then some start
    else none

/-- An assignment or a choice, with at most `n` levels of parentheses. -/
def assignment (values : Values) : Nat → Bool → Eval Int
  | 0, _ => throw (.malformed "expecting primary")
  | n + 1, skip => do
    match (← get).rest with
    | .name s :: .operator o :: _ =>
      match assigning? o with
      | none => choice values (assignment values n) skip (n + 1)
      | some o =>
        advance
        advance
        let b ← assignment values n skip
        if skip then return b
        let v ← if o == "" then pure b else do combine o (← lookup values s) b
        modify fun st => { st with assigned := (s, v) :: st.assigned }
        return v
    | _ => choice values (assignment values n) skip (n + 1)

/-- The value of an expression and the values it assigns to variables, in order. -/
def evaluate (values : Values) (text : String) : Except Fault (Int × List (String × Int)) := do
  let symbols := symbolsFrom text.length text.toList
  let (v, s) ← (assignment values (symbols.length + 2) false).run { rest := symbols }
  if !s.rest.isEmpty then throw (.malformed "expecting EOF")
  return (v, s.assigned.reverse)

end CompileOrder.Shell.Arithmetic
