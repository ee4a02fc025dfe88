import CompileOrder.Toml.Value
import CompileOrder.Toml.Text

/-!
# TOML numbers

Whole numbers in four bases within 64 bits, and numbers with a fraction or an
exponent. Underscores may stand between two digits. A number too large for a
64-bit float is not accepted unless it is negative.
-/

namespace CompileOrder.Toml

/-- Digits of one kind with single underscores between them, given without these. -/
def readDigits (isDigit : Char → Bool) : List Char → Option (List Char × List Char)
  | [] => none
  | [c] => if isDigit c then some ([c], []) else none
  | c :: '_' :: d :: cs =>
    if isDigit c then
      if isDigit d then before c (readDigits isDigit (d :: cs)) else none
    else none
  | c :: d :: cs =>
    if isDigit c then
      if isDigit d then before c (readDigits isDigit (d :: cs)) else some ([c], d :: cs)
    else none

/-- The optional sign of a number: whether it is a minus. -/
def readSign : List Char → Bool × List Char
  | '+' :: cs => (false, cs)
  | '-' :: cs => (true, cs)
  | cs => (false, cs)

/-- The value of digits in a base. -/
def digitsValue (base : Nat) (digits : List Char) : Nat :=
  digits.foldl (fun n c => n * base + (hexValue? c).getD 0) 0

/-- A decimal number without superfluous zeros at its start: sign and digits. -/
def readDecimal (cs : List Char) : Option ((Bool × List Char) × List Char) :=
  let (negative, body) := readSign cs
  match body with
  | '0' :: rest => some ((negative, ['0']), rest)
  | _ => (readDigits Char.isDigit body).map fun r => ((negative, r.1), r.2)

/-- The least and the greatest whole number. -/
def minInteger : Int := -9223372036854775808

/-- The greatest whole number. -/
def maxInteger : Int := 9223372036854775807

/-- The number, if it is within bounds. -/
def bounded? (n : Int) : Option Value :=
  if minInteger ≤ n && n ≤ maxInteger then some (.integer n) else none

/-- A number in a base other than ten, after its two-character mark. -/
def readBased (base : Nat) (cs : List Char) : Option (Value × List Char) := do
  let isDigit := fun c => match hexValue? c with
    | some d => decide (d < base)
    | none => false
  let (digits, rest) ← readDigits isDigit cs
  let v ← bounded? (Int.ofNat (digitsValue base digits))
  return (v, rest)

/-- A whole number. -/
def readInteger (cs : List Char) : Option (Value × List Char) :=
  match cs with
  | '0' :: 'x' :: rest => readBased 16 rest
  | '0' :: 'o' :: rest => readBased 8 rest
  | '0' :: 'b' :: rest => readBased 2 rest
  | _ => do
    let ((negative, digits), rest) ← readDecimal cs
    let n := Int.ofNat (digitsValue 10 digits)
    let v ← bounded? (if negative then -n else n)
    return (v, rest)

/-- The digits of a fraction after its point. -/
def readFraction : List Char → Option (List Char × List Char)
  | '.' :: cs => readDigits Char.isDigit cs
  | _ => none

/-- An exponent after its letter: sign and digits. -/
def readExponent : List Char → Option ((Bool × List Char) × List Char)
  | c :: cs =>
    if c == 'e' || c == 'E' then
      let (negative, body) := readSign cs
      (readDigits Char.isDigit body).map fun r => ((negative, r.1), r.2)
    else none
  | [] => none

/-- The least whole number that rounds to infinity in a 64-bit float. -/
def floatLimit : Nat := Nat.pow 2 1024 - Nat.pow 2 970

/-- Whether `mantissa` times ten to the power `exponent` is too large for a 64-bit
float. Exponents far from the limit are decided by the number of digits alone. -/
def overflows (mantissa : List Char) (exponent : Int) : Bool :=
  let digits := mantissa.dropWhile (· == '0')
  let size := Int.ofNat digits.length + exponent
  if digits.isEmpty then false
  else if 310 < size then true
  else if size < 300 then false
  else
    let m := digitsValue 10 digits
    match exponent with
    | .ofNat e => decide (floatLimit ≤ m * Nat.pow 10 e)
    | .negSucc e => decide (floatLimit * Nat.pow 10 (e + 1) ≤ m)

/-- The power of ten that an exponent spells. -/
def exponentValue (e : Bool × List Char) : Int :=
  let n := Int.ofNat (digitsValue 10 e.2)
  if e.1 then -n else n

/-- A number with a fraction, an exponent, or both. -/
def readFloat (cs : List Char) : Option (Value × List Char) := do
  let ((negative, whole), rest) ← readDecimal cs
  let (fraction, rest') := (readFraction rest).getD ([], rest)
  let (exponent, rest'') := match readExponent rest' with
    | some (e, r) => (exponentValue e, r)
    | none => (0, rest')
  if rest''.length == rest.length then none
  else if !negative && overflows (whole ++ fraction) (exponent - Int.ofNat fraction.length) then
    none
  else some (.float (String.ofList (cs.take (cs.length - rest''.length))), rest'')

/-- The words for infinity and for no number at all, after an optional sign. -/
def readSpecial (cs : List Char) : Option (Value × List Char) :=
  match (readSign cs).2 with
  | 'i' :: 'n' :: 'f' :: rest => some (.float "inf", rest)
  | 'n' :: 'a' :: 'n' :: rest => some (.float "nan", rest)
  | _ => none

end CompileOrder.Toml
