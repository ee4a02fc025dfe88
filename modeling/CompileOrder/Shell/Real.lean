import CompileOrder.Shell.Octets

/-!
# Numbers with a point

A number with a point is read from a text in decimal or hexadecimal notation and rounded
to a binary fraction of 53 digits. It is written with a number of places after the point,
with an exponent, or in hexadecimal notation; digits that do not fit are rounded to the
nearest, a half to the even neighbour.
-/

namespace CompileOrder.Shell.Real

/-- A number with a decimal point: its sign, and its digits as a whole number with a power
of ten. -/
structure Decimal where
  /-- Whether it is negative. -/
  isNegative : Bool := false
  /-- The digits. -/
  mantissa : Nat := 0
  /-- The power of ten. -/
  exponent : Int := 0

/-- The number at the start of a text, and the rest. -/
def decimal (text : String) : Decimal × List Char :=
  let cs := text.toList.dropWhile Octets.isSpace
  let (isNegative, cs) := match cs with
    | '-' :: cs => (true, cs)
    | '+' :: cs => (false, cs)
    | cs => (false, cs)
  let whole := cs.takeWhile Char.isDigit
  let cs := cs.drop whole.length
  let (part, cs) := match cs with
    | '.' :: rest =>
      let part := rest.takeWhile Char.isDigit
      if whole.isEmpty && part.isEmpty then ([], cs) else (part, rest.drop part.length)
    | cs => ([], cs)
  if whole.isEmpty && part.isEmpty then ({}, text.toList)
  else
    let (power, cs) := match cs with
      | e :: rest =>
        if e == 'e' || e == 'E' then
          let (minus, ds) := match rest with
            | '-' :: ds => (true, ds)
            | '+' :: ds => (false, ds)
            | ds => (false, ds)
          let digits := ds.takeWhile Char.isDigit
          if digits.isEmpty then ((0 : Int), cs)
          else
            let n : Int := Octets.number digits
            (if minus then -n else n, ds.drop digits.length)
        else (0, cs)
      | [] => (0, cs)
    (⟨isNegative, Octets.number (whole ++ part), power - part.length⟩, cs)

/-- The quotient rounded to the nearest whole number; a half goes to the even neighbour. -/
def roundDiv (a b : Nat) : Nat :=
  let q := a / b
  let r := a % b
  if 2 * r > b || (2 * r == b && q % 2 == 1) then q + 1 else q

/-- The absolute value of a binary fraction of 53 digits: numerator and denominator. -/
def ratio (x : Float) : Nat × Nat :=
  let bits := x.toBits.toNat
  let power := bits / Nat.pow 2 52 % 2048
  let low := bits % Nat.pow 2 52
  let (m, q) :=
    if power == 0 then (low, (-1074 : Int))
    else (low + Nat.pow 2 52, (power : Int) - 1075)
  if q < 0 then (m, Nat.pow 2 (-q).toNat) else (m * Nat.pow 2 q.toNat, 1)

/-- A whole number times a power of two. -/
structure Binary where
  /-- The whole number. -/
  mantissa : Nat
  /-- The power of two. -/
  exponent : Int
  deriving DecidableEq, Repr

namespace Binary

/-- The number of binary digits of the whole number, at most. -/
def precision : Nat := 53

/-- The least power of two. -/
def leastExponent : Int := -1074

/-- The value as numerator and denominator. -/
def ratio (x : Binary) : Nat × Nat :=
  if x.exponent < 0 then (x.mantissa, Nat.pow 2 (-x.exponent).toNat)
  else (x.mantissa * Nat.pow 2 x.exponent.toNat, 1)

/-- The quotient of two numbers divided by a power of two, rounded. -/
def scaledQuotient (a b : Nat) (exponent : Int) : Nat :=
  if exponent < 0 then roundDiv (a * Nat.pow 2 (-exponent).toNat) b
  else roundDiv a (b * Nat.pow 2 exponent.toNat)

/-- The nearest binary fraction to a quotient. -/
def nearest (a b : Nat) : Binary :=
  if a == 0 then ⟨0, 0⟩
  else
    let guess : Int := (Nat.log2 a : Int) - Nat.log2 b - precision
    let isShort := scaledQuotient a b (guess + 1) < Nat.pow 2 (precision - 1)
    let exponent := max (if isShort then guess else guess + 1) leastExponent
    ⟨scaledQuotient a b exponent, exponent⟩

/-- Whether the value is greater than any that is kept. -/
def isHuge (x : Binary) : Bool :=
  x.mantissa != 0 && 1024 ≤ (Nat.log2 x.mantissa : Int) + x.exponent

/-- Whether the value is a quotient rounded where few digits are left. -/
def isTiny (x : Binary) (a b : Nat) : Bool :=
  let (n, d) := x.ratio
  x.mantissa < Nat.pow 2 (precision - 1) && n * b != a * d

end Binary

/-- The size of a number. -/
inductive Size where
  /-- A binary fraction. -/
  | finite (x : Binary)
  /-- More than any number. -/
  | infinite
  /-- No number. -/
  | undefined
  deriving DecidableEq, Repr

/-- The greatest power of ten that matters. -/
def maxPower : Nat := 20000

/-- The number at the start of a text that is a decimal one. -/
def Decimal.quotient (d : Decimal) : Nat × Nat :=
  if d.mantissa == 0 then (0, 1)
  else
    let power := max (-(maxPower : Int)) (min maxPower d.exponent)
    if power < 0 then (d.mantissa, Nat.pow 10 (-power).toNat)
    else (d.mantissa * Nat.pow 10 power.toNat, 1)

/-- The value of a hexadecimal digit. -/
def hexDigit? (c : Char) : Option Nat :=
  if c.isDigit then some (c.toNat - 48)
  else if 'a' ≤ c.toLower && c.toLower ≤ 'f' then some (c.toLower.toNat - 87) else none

/-- The number that hexadecimal digits spell. -/
def hexNumber (ds : List Char) : Nat := ds.foldl (fun n c => n * 16 + (hexDigit? c).getD 0) 0

/-- An exponent after a letter, and the characters after it. -/
def exponentAfter (letter : Char) (cs : List Char) : Int × List Char :=
  match cs with
  | c :: rest =>
    if c.toLower != letter then (0, cs)
    else
      let (isNegative, ds) := match rest with
        | '-' :: ds => (true, ds)
        | '+' :: ds => (false, ds)
        | ds => (false, ds)
      let digits := ds.takeWhile Char.isDigit
      if digits.isEmpty then (0, cs)
      else
        let n : Int := Octets.number digits
        (if isNegative then -n else n, ds.drop digits.length)
  | [] => (0, [])

/-- The hexadecimal number after `0x` as numerator and denominator, and the characters
after it. -/
def hexQuotient? (cs : List Char) : Option ((Nat × Nat) × List Char) :=
  let isHex (c : Char) : Bool := (hexDigit? c).isSome
  let whole := cs.takeWhile isHex
  let cs := cs.drop whole.length
  let (part, cs) := match cs with
    | '.' :: rest =>
      let part := rest.takeWhile isHex
      (part, rest.drop part.length)
    | cs => ([], cs)
  if whole.isEmpty && part.isEmpty then none
  else
    let (power, cs) := exponentAfter 'p' cs
    let n := hexNumber (whole ++ part)
    let power := max (-(maxPower : Int)) (min maxPower (power - 4 * part.length))
    let quotient := if n == 0 then (0, 1)
      else if power < 0 then (n, Nat.pow 2 (-power).toNat) else (n * Nat.pow 2 power.toNat, 1)
    some (quotient, cs)

/-- A number read from a text. -/
structure Reading where
  /-- Whether it is negative. -/
  isNegative : Bool := false
  /-- Its size. -/
  size : Size := .finite ⟨0, 0⟩
  /-- What comes after it; all of the text if there is no number. -/
  rest : List Char := []
  /-- Whether it is greater or less than any number that is kept. -/
  isOutOfRange : Bool := false

/-- Characters after a word, in which case does not count. -/
def afterWord? (word : String) (cs : List Char) : Option (List Char) :=
  if (cs.take word.length).map Char.toLower == word.toList then some (cs.drop word.length)
  else none

/-- The characters after a remark in parentheses. -/
def afterRemark (cs : List Char) : List Char :=
  match cs with
  | '(' :: rest =>
    let inner := rest.takeWhile fun c => c.isAlphanum || c == '_'
    match rest.drop inner.length with
    | ')' :: after => after
    | _ => cs
  | cs => cs

/-- The number at the start of a text. -/
def read (text : String) : Reading :=
  let cs := text.toList.dropWhile Octets.isSpace
  let (isNegative, cs) := match cs with
    | '-' :: cs => (true, cs)
    | '+' :: cs => (false, cs)
    | cs => (false, cs)
  let ofQuotient (q : Nat × Nat) (rest : List Char) : Reading :=
    let x := Binary.nearest q.1 q.2
    if x.isHuge then ⟨isNegative, .infinite, rest, true⟩
    else ⟨isNegative, .finite x, rest, x.isTiny q.1 q.2⟩
  match afterWord? "infinity" cs, afterWord? "inf" cs, afterWord? "nan" cs with
  | some rest, _, _ | none, some rest, _ => ⟨isNegative, .infinite, rest, false⟩
  | none, none, some rest => ⟨isNegative, .undefined, afterRemark rest, false⟩
  | none, none, none =>
    let hex? := (afterWord? "0x" cs).bind hexQuotient?
    match hex? with
    | some (q, rest) => ofQuotient q rest
    | none =>
      let (d, rest) := decimal (String.ofList cs)
      if rest.length == cs.length then { rest := text.toList } else ofQuotient d.quotient rest

/-- The digits of a fraction with a number of places after the point. -/
def fixedDigits (a b places : Nat) (keepsPoint : Bool) : List Char :=
  let n := roundDiv (a * Nat.pow 10 places) b
  let ds := Nat.toDigits 10 n
  let ds := List.replicate (places + 1 - ds.length) '0' ++ ds
  let whole := ds.take (ds.length - places)
  let part := ds.drop (ds.length - places)
  if places == 0 && !keepsPoint then whole else whole ++ '.' :: part

/-- The power of ten that a fraction is at least, found from a first guess upward. -/
def magnitudeUp (a b : Nat) : Nat → Nat → Nat
  | 0, k => k
  | n + 1, k => if a < b * Nat.pow 10 (k + 1) then k else magnitudeUp a b n (k + 1)

/-- The number of places that a fraction below one has to be moved to reach one. -/
def magnitudeDown (a b : Nat) : Nat → Nat → Nat
  | 0, k => k
  | n + 1, k => if b ≤ a * Nat.pow 10 k then k else magnitudeDown a b n (k + 1)

/-- The exponent of a fraction in scientific notation. -/
def magnitude (a b : Nat) : Int :=
  if a == 0 then 0 else if b ≤ a then magnitudeUp a b 400 0 else -(magnitudeDown a b 400 1 : Nat)

/-- The digits of a fraction as a whole number with a number of places after the first,
and the exponent. -/
def scaled (a b places : Nat) : Nat × Int :=
  let e := magnitude a b
  let shift : Int := places - e
  let n := if shift < 0 then roundDiv a (b * Nat.pow 10 (-shift).toNat)
    else roundDiv (a * Nat.pow 10 shift.toNat) b
  if Nat.pow 10 (places + 1) ≤ n then (n / 10, e + 1) else (n, e)

/-- The exponent as it is written. -/
def exponentText (e : Int) (isUpper : Bool) : List Char :=
  let ds := Nat.toDigits 10 e.natAbs
  (if isUpper then 'E' else 'e') :: (if e < 0 then '-' else '+') ::
    List.replicate (2 - ds.length) '0' ++ ds

/-- The digits of a fraction in scientific notation. -/
def scientificDigits (a b places : Nat) (keepsPoint isUpper : Bool) : List Char :=
  let (n, e) := scaled a b places
  let ds := Nat.toDigits 10 n
  let ds := ds ++ List.replicate (places + 1 - ds.length) '0'
  let part := ds.drop 1
  ds.take 1 ++ (if part.isEmpty && !keepsPoint then [] else '.' :: part) ++ exponentText e isUpper

/-- Digits without the noughts at their end after a point. -/
def trimZeros (ds : List Char) : List Char :=
  if ds.contains '.' then
    let ds := (ds.reverse.dropWhile fun c => c == '0').reverse
    if ds.getLast? == some '.' then ds.dropLast else ds
  else ds

/-- The digits of a fraction in the shorter of both notations. -/
def generalDigits (a b : Nat) (precision : Nat) (keepsPoint isUpper : Bool) : List Char :=
  let p := if precision == 0 then 1 else precision
  let (_, e) := scaled a b (p - 1)
  let trim (ds : List Char) : List Char := if keepsPoint then ds else trimZeros ds
  if e < -4 || (p : Int) ≤ e then
    let ds := scientificDigits a b (p - 1) keepsPoint isUpper
    let mark := if isUpper then 'E' else 'e'
    let front := ds.takeWhile fun c => c != mark
    trim front ++ ds.drop front.length
  else trim (fixedDigits a b ((p : Int) - 1 - e).toNat keepsPoint)

/-- The digits of a binary fraction in hexadecimal notation after `0x`: the first one is
not nought unless the number is too small for that. -/
def hexDigits (x : Binary) (precision : Option Nat) (keepsPoint : Bool) : List Char :=
  let width := Binary.precision - 1
  let (mantissa, exponent) : Nat × Int :=
    if x.mantissa == 0 then (0, 0)
    else
      let shift := width - Nat.log2 x.mantissa
      let exponent := x.exponent - shift + width
      if exponent < -1022 then
        (x.mantissa * Nat.pow 2 (x.exponent - Binary.leastExponent).toNat, -1022)
      else (x.mantissa * Nat.pow 2 shift, exponent)
  let places := min (precision.getD 13) 13
  let kept := roundDiv mantissa (Nat.pow 16 (13 - places))
  let lead := kept / Nat.pow 16 places
  let part := Nat.toDigits 16 (kept % Nat.pow 16 places)
  let part := if places == 0 then [] else List.replicate (places - part.length) '0' ++ part
  let part := match precision with
    | none => (part.reverse.dropWhile fun c => c == '0').reverse
    | some n => part ++ List.replicate (n - 13) '0'
  Nat.toDigits 16 lead ++ (if part.isEmpty && !keepsPoint then [] else '.' :: part) ++
    'p' :: (if exponent < 0 then '-' else '+') :: Nat.toDigits 10 exponent.natAbs

end CompileOrder.Shell.Real
