import CompileOrder.Shell.Arithmetic
import CompileOrder.Shell.Escape
import CompileOrder.Shell.Real

/-!
# Formatted output

A format is a text in which directives stand for arguments. It is used again until
all arguments are used up; arguments that are missing count as nothing or nought. An
argument that should be a number and is none is reported, and as much of it is used as
can be.
-/

namespace CompileOrder.Shell.Format

/-- The outcome of formatting. -/
structure Result where
  /-- The text, the last character first. -/
  text : List Char := []
  /-- The reports about arguments, the last one first. -/
  reports : List String := []
  /-- The arguments that are left. -/
  args : List String := []
  /-- Whether the output was ended by an escape. -/
  isEnded : Bool := false
  /-- The error that ends the output. -/
  error : Option String := none

namespace Result

/-- A text is added. -/
def put (r : Result) (s : List Char) : Result := { r with text := s.reverseAux r.text }

/-- The next argument is taken. -/
def take (r : Result) : Option String × Result := (r.args.head?, { r with args := r.args.tail })

/-- A report is added. -/
def report (r : Result) (message : String) : Result := { r with reports := message :: r.reports }

end Result

/-- A directive. -/
structure Directive where
  /-- The flags. -/
  flags : List Char := []
  /-- The least width. -/
  width : Nat := 0
  /-- The precision. -/
  precision : Option Nat := none

namespace Directive

/-- A text filled up with blanks to the width. -/
def pad (d : Directive) (s : List Char) : List Char :=
  let fill := List.replicate (d.width - s.length) ' '
  if d.flags.contains '-' then s ++ fill else fill ++ s

/-- A number filled up with noughts after its sign, or with blanks. -/
def padNumber (d : Directive) (zeros : Bool) (sign digits : List Char) : List Char :=
  if zeros && d.flags.contains '0' && !d.flags.contains '-' then
    sign ++ List.replicate (d.width - sign.length - digits.length) '0' ++ digits
  else d.pad (sign ++ digits)

/-- The sign of a number. -/
def sign (d : Directive) (isNegative : Bool) : List Char :=
  if isNegative then ['-'] else if d.flags.contains '+' then ['+']
  else if d.flags.contains ' ' then [' '] else []

/-- The digits of a whole number, at least as many as the precision says. -/
def digits (d : Directive) (base n : Nat) : List Char :=
  let ds := if n == 0 && d.precision == some 0 then [] else Nat.toDigits base n
  List.replicate (d.precision.getD 1 - ds.length) '0' ++ ds

/-- A whole number with a sign. -/
def integer (d : Directive) (n : Int) : List Char :=
  d.padNumber d.precision.isNone (d.sign (n < 0)) (d.digits 10 n.natAbs)

/-- A whole number without a sign, in a base. -/
def natural (d : Directive) (base n : Nat) (isUpper : Bool) : List Char :=
  let ds := d.digits base n
  let ds := if isUpper then ds.map Char.toUpper else ds
  let lead := if !d.flags.contains '#' then []
    else if base == 16 && n != 0 then if isUpper then ['0', 'X'] else ['0', 'x']
    else []
  let ds := if base == 8 && d.flags.contains '#' && ds.head? != some '0' then '0' :: ds else ds
  d.padNumber d.precision.isNone lead ds

/-- A text, cut to the precision. -/
def string (d : Directive) (s : String) : List Char :=
  d.pad (match d.precision with
    | some n => s.toList.take n
    | none => s.toList)

end Directive

/-- A fraction with a decimal point as a directive writes it. -/
def Directive.quotient (d : Directive) (letter : Char) (isNegative : Bool) (a b : Nat) :
    List Char :=
  let precision := d.precision.getD 6
  let keepsPoint := d.flags.contains '#'
  let isUpper := letter.isUpper
  let ds := match letter.toLower with
    | 'f' => Real.fixedDigits a b precision keepsPoint
    | 'e' => Real.scientificDigits a b precision keepsPoint isUpper
    | _ => Real.generalDigits a b precision keepsPoint isUpper
  d.padNumber true (d.sign isNegative) ds

/-- A number with a point as a directive writes it. -/
def Directive.real (d : Directive) (letter : Char) (value : Real.Reading) : List Char :=
  let spell (word : String) : List Char :=
    if letter.isUpper then word.toList.map Char.toUpper else word.toList
  match value.size with
  | .infinite => d.pad (d.sign value.isNegative ++ spell "inf")
  | .undefined => d.pad (d.sign value.isNegative ++ spell "nan")
  | .finite x =>
    if letter.toLower == 'a' then
      let ds := Real.hexDigits x d.precision (d.flags.contains '#')
      d.padNumber true (d.sign value.isNegative ++ spell "0x") (spell (String.ofList ds))
    else
      let (a, b) := x.ratio
      d.quotient letter value.isNegative a b

/-- The report about a number that does not end where its argument does. -/
def Result.reportRest (r : Result) (arg : String) (rest : List Char) (isLarge : Bool) : Result :=
  if !rest.isEmpty then
    if rest.length == arg.length then r.report (arg ++ ": expected numeric value")
    else r.report (arg ++ ": not completely converted")
  else if isLarge then r.report (arg ++ ": Numerical result out of range")
  else r

/-- The greatest number without a sign. -/
def maxNatural : Int := 18446744073709551615

/-- The next argument as a whole number, between two bounds if it is `signed`. -/
def Result.takeInteger (r : Result) (signed : Bool) : Int × Result :=
  let (arg, r) := r.take
  match arg with
  | none => (0, r)
  | some arg =>
    match arg.toList with
    | '"' :: cs | '\'' :: cs => (((cs.headD '\x00').toNat : Int), r)
    | cs =>
      let ds := cs.dropWhile Octets.isSpace
      let (isNegative, ds) := match ds with
        | '-' :: ds => (true, ds)
        | '+' :: ds => (false, ds)
        | ds => (false, ds)
      let (n, rest) := Arithmetic.literal ds
      let rest := if (ds.headD ' ').isDigit then rest else cs
      let v : Int := if isNegative then -(n : Int) else n
      let (low, high) := if signed then (-Arithmetic.maxNumber - 1, Arithmetic.maxNumber)
        else (-maxNatural, maxNatural)
      let isLarge := v < low || high < v
      let v := if signed then max low (min high v) else if isLarge then maxNatural else v
      (v, r.reportRest arg rest isLarge)

/-- The next argument as a number with a point. -/
def Result.takeReal (r : Result) : Real.Reading × Result :=
  let (arg, r) := r.take
  match arg with
  | none => ({}, r)
  | some arg =>
    match arg.toList with
    | '"' :: cs | '\'' :: cs => ({ size := .finite ⟨(cs.headD '\x00').toNat, 0⟩ }, r)
    | _ =>
      let x := Real.read arg
      (x, r.reportRest arg x.rest x.isOutOfRange)

/-- A width or a precision: digits, or an asterisk for the next argument. -/
def count (r : Result) (cs : List Char) : Option Int × List Char × Result :=
  match cs with
  | '*' :: cs =>
    let (n, r) := r.takeInteger true
    (some n, cs, r)
  | cs =>
    let ds := cs.takeWhile Char.isDigit
    (if ds.isEmpty then none else some (Octets.number ds), cs.drop ds.length, r)

/-- What a directive with a letter writes. -/
def Directive.write (d : Directive) (r : Result) (letter : Char) (source : List Char) : Result :=
  match letter with
  | 's' =>
    let (arg, r) := r.take
    r.put (d.string (arg.getD ""))
  | 'b' =>
    let (arg, r) := r.take
    let (text, isEnded) := Escape.resolve (arg.getD "")
    { r.put (d.string text) with isEnded := isEnded }
  | 'c' =>
    let (arg, r) := r.take
    r.put (d.pad [(arg.getD "").toList.headD '\x00'])
  | 'd' | 'i' =>
    let (n, r) := r.takeInteger true
    r.put (d.integer n)
  | 'o' | 'u' | 'x' | 'X' =>
    let (n, r) := r.takeInteger false
    let base := if letter == 'o' then 8 else if letter == 'u' then 10 else 16
    r.put (d.natural base (Arithmetic.bits n) (letter == 'X'))
  | 'f' | 'F' | 'e' | 'E' | 'g' | 'G' | 'a' | 'A' =>
    let (v, r) := r.takeReal
    r.put (d.real letter v)
  | _ => { r with error := some (String.ofList source ++ ": invalid directive") }

/-- The directive after a percent sign, and the rest of the format. -/
def directive (r : Result) (cs : List Char) : Result × List Char :=
  let flags := cs.takeWhile fun c => "#-+ 0".toList.contains c
  let (width, after, r) := count r (cs.drop flags.length)
  let (precision, after, r) := match after with
    | '.' :: after =>
      let (p, after, r) := count r after
      (some (p.getD 0), after, r)
    | after => (none, after, r)
  let width := width.getD 0
  let d : Directive := {
    flags := if width < 0 then '-' :: flags else flags
    width := width.natAbs
    precision := precision.bind fun p => if p < 0 then none else some p.toNat }
  match after with
  | [] => ({ r with error := some "missing format character" }, [])
  | letter :: rest => (d.write r letter ('%' :: cs.take (cs.length - rest.length)), rest)

/-- The format used once. -/
def once : Nat → Result → List Char → Result
  | 0, r, _ => r
  | _ + 1, r, [] => r
  | n + 1, r, c :: cs =>
    if r.isEnded || r.error.isSome then r
    else if c == '\\' then
      let (x, rest) := Escape.character cs
      once n (r.put [x]) rest
    else if c != '%' then once n (r.put [c]) cs
    else match cs with
      | '%' :: rest => once n (r.put ['%']) rest
      | cs =>
        let (r, rest) := directive r cs
        once n r rest

/-- The format used again until no arguments are left, at most `n` times. -/
def repeated (format : List Char) : Nat → Result → Result
  | 0, r => r
  | n + 1, r =>
    let before := r.args.length
    let r := once (format.length + 1) r format
    if r.isEnded || r.error.isSome || r.args.isEmpty || r.args.length == before then r
    else repeated format n r

/-- A format used with arguments. -/
def run (format : String) (args : List String) : Result :=
  repeated format.toList (args.length + 1) { args := args }

/-- The text that was written. -/
def Result.output (r : Result) : String := String.ofList r.text.reverse

end CompileOrder.Shell.Format
