import CompileOrder.Shell.Utility.Columns

/-!
# Figures with units

Numbers are read and written with letters for powers of a thousand or of 1024. A number is
an exact fraction; it is rounded once, when it is written.
-/

namespace CompileOrder.Shell.Utility

open Tool

/-- How letters after numbers scale them. -/
inductive Scale where
  | none | auto | si | iec | iecI
  deriving DecidableEq, Repr

/-- Which way numbers are rounded. -/
inductive Rounding where
  | up | down | fromZero | towardsZero | nearest
  deriving DecidableEq, Repr

/-- What happens with numbers that cannot be read. -/
inductive InvalidRule where
  | abort | fail | warn | ignore
  deriving DecidableEq, Repr

/-- The letters for the powers, from the first one on. -/
def scaleLetters : List Char := "KMGTPEZYRQ".toList

/-- A number as a fraction. -/
structure Figure where
  /-- The numerator. -/
  top : Int
  /-- The denominator. -/
  bottom : Nat

namespace Figure

/-- The number times a fraction. -/
def scaled (f : Figure) (times per : Nat) : Figure := ⟨f.top * times, f.bottom * per⟩

/-- Whether the number is less than a whole one, apart from its sign. -/
def isBelow (f : Figure) (n : Nat) : Bool := f.top.natAbs < n * f.bottom

/-- The whole number that the number is rounded to. -/
def round (f : Figure) (r : Rounding) : Int :=
  let magnitude := f.top.natAbs
  let low : Int := magnitude / f.bottom
  let high : Int := (magnitude + f.bottom - 1) / f.bottom
  let half : Int := (magnitude * 2 + f.bottom) / (f.bottom * 2)
  let isNegative := f.top < 0
  let signed (n : Int) : Int := if isNegative then -n else n
  match r with
  | .up => signed (if isNegative then low else high)
  | .down => signed (if isNegative then high else low)
  | .fromZero => signed high
  | .towardsZero => signed low
  | .nearest => signed half

/-- The number with a number of decimals, a half going to the even neighbour. -/
def decimal (f : Figure) (places : Nat) : String :=
  let power := Nat.pow 10 places
  let n := f.top.natAbs * power
  let low := n / f.bottom
  let twice := (n % f.bottom) * 2
  let n := if f.bottom < twice || (twice == f.bottom && low % 2 == 1) then low + 1 else low
  let digits := toString (n % power)
  let decimals := if places == 0 then ""
    else "." ++ String.ofList (List.replicate (places - digits.length) '0') ++ digits
  (if f.top < 0 then "-" else "") ++ toString (n / power) ++ decimals

/-- The number divided by a base until it is less than that, in at most `n` steps, and how
often that was. -/
def descend (base : Nat) : Nat → Figure → Nat → Figure × Nat
  | 0, f, power => (f, power)
  | n + 1, f, power =>
    if f.isBelow base then (f, power) else descend base n (f.scaled 1 base) (power + 1)

/-- A number in at most six digits, with a power of ten if it is great. -/
def short (f : Figure) : String :=
  let (m, power) := descend 10 400 f 0
  let text := Figure.decimal m 5
  let isFull := (text.toList.filter Char.isDigit).length == 7
  let power := if isFull then power + 1 else power
  let digits := (if isFull then Figure.decimal (m.scaled 1 10) 5 else text).toList
  let kept := (digits.reverse.dropWhile fun c => c == '0').dropWhile fun c => c == '.'
  let exponent := toString power
  String.ofList kept.reverse ++ "e+" ++
    (if exponent.length < 2 then "0" else "") ++ exponent

end Figure

/-- The format of a number: what stands around it, and how it is filled up. -/
structure FigureFormat where
  /-- What stands before it. -/
  before : String := ""
  /-- What stands after it. -/
  after : String := ""
  /-- The width that is filled with noughts. -/
  zeroWidth : Nat := 0
  /-- The number of decimals. -/
  places : Option Nat := none
  /-- The width that is filled with blanks, on the right if it is negative. -/
  width : Int := 0
  /-- Whether digits are grouped. -/
  isGrouped : Bool := false

/-- The percent sign of a format, and what stands before it; doubled signs are kept. -/
def beforeDirective : Nat → List Char → List Char → Option (List Char × List Char)
  | 0, _, _ => none
  | _ + 1, [], _ => none
  | n + 1, '%' :: '%' :: cs, seen => beforeDirective n cs ('%' :: seen)
  | _ + 1, '%' :: cs, seen => some (seen.reverse, cs)
  | n + 1, c :: cs, seen => beforeDirective n cs (c :: seen)

/-- The format that a text describes. -/
def figureFormat? (text : String) : Except String FigureFormat := do
  let quoted := Quote.inWords text
  let cs := text.toList
  match beforeDirective (cs.length + 1) cs [] with
  | none => throw ("format " ++ quoted ++ " has no % directive")
  | some (before, rest) =>
    let flags := rest.takeWhile fun c => c == ' ' || c == '\'' || c == '0'
    let rest := rest.drop flags.length
    let (isLeft, rest) := match rest with
      | '-' :: cs => (true, cs)
      | cs => (false, cs)
    let digits := rest.takeWhile Char.isDigit
    let rest := rest.drop digits.length
    let width := Octets.number digits
    let (places, rest) := match rest with
      | '.' :: cs =>
        let ds := cs.takeWhile Char.isDigit
        (some (Octets.number ds), cs.drop ds.length)
      | cs => (none, cs)
    match rest with
    | [] => throw ("format " ++ quoted ++ " ends in %")
    | 'f' :: after =>
      match beforeDirective (after.length + 1) after [] with
      | some _ => throw ("format " ++ quoted ++ " has too many % directives")
      | none =>
        let isZero := flags.contains '0' && !isLeft
        return { before := String.ofList before
                 after := (String.ofList after).replace "%%" "%"
                 zeroWidth := if isZero then width else 0
                 places := places
                 width := if isZero then 0 else if isLeft then -(width : Int) else width
                 isGrouped := flags.contains '\'' }
    | _ =>
      throw ("invalid format " ++ quoted ++ ", directive must be %[0]['][-][N][.][N]f")

/-- How numbers are converted. -/
structure FigureRules where
  /-- How letters scale what is read. -/
  source : Scale := .none
  /-- How letters scale what is written. -/
  target : Scale := .none
  /-- What one of what is read counts. -/
  sourceUnit : Nat := 1
  /-- What one of what is written counts. -/
  targetUnit : Nat := 1
  /-- How numbers are rounded. -/
  rounding : Rounding := .fromZero
  /-- What follows numbers. -/
  ending : String := ""
  /-- The format. -/
  format : FigureFormat := {}
  /-- The fields with numbers. -/
  fields : List Span := [(1, some 1)]
  /-- What separates fields, unless blanks do. -/
  separator : Option Char := none
  /-- What happens with numbers that cannot be read. -/
  invalid : InvalidRule := .abort

namespace FigureRules

/-- The number that a text spells and the number of its decimals, or why it spells none. -/
def read (r : FigureRules) (text : String) : Except String (Figure × Nat) := do
  let quoted := Quote.inWords text
  let (isNegative, cs) := match text.toList with
    | '-' :: cs => (true, cs)
    | cs => (false, cs)
  let whole := cs.takeWhile Char.isDigit
  let rest := cs.drop whole.length
  let (decimals, rest) := match rest with
    | '.' :: cs =>
      let ds := cs.takeWhile Char.isDigit
      if ds.isEmpty then ([], rest) else (ds, cs.drop ds.length)
    | cs => ([], cs)
  if whole.isEmpty && decimals.isEmpty then throw ("invalid number: " ++ quoted)
  if 33 < whole.length then throw ("value too large to be converted: " ++ quoted)
  let n : Int := Octets.number (whole ++ decimals)
  let figure : Figure := ⟨if isNegative then -n else n, Nat.pow 10 decimals.length⟩
  let missing : String := "missing 'i' suffix in input: " ++ quoted ++ " (e.g Ki/Mi/Gi)"
  match rest with
  | [] => if r.source == .iecI then throw missing else return (figure, decimals.length)
  | rest =>
    match rest.dropWhile fun c => c == ' ' || c == '\t' with
    | [] => throw ("invalid suffix in input: " ++ quoted)
    | c :: rest =>
      match scaleLetters.idxOf? c with
      | none => throw ("invalid suffix in input: " ++ quoted)
      | some i =>
        if r.source == .none then
          throw ("rejecting suffix in input: " ++ quoted ++ " (consider using --from)")
        let isBinary := r.source == .iec || r.source == .iecI ||
          (r.source == .auto && rest.head? == some 'i')
        let rest ← match r.source, rest with
          | .auto, 'i' :: rest | .iecI, 'i' :: rest => pure rest
          | .iecI, _ => throw missing
          | _, rest => pure rest
        if !rest.isEmpty then
          throw ("invalid suffix in input " ++ quoted ++ ": " ++
            Quote.inWords (String.ofList rest))
        return (figure.scaled (Nat.pow (if isBinary then 1024 else 1000) (i + 1)) 1, 0)

/-- A number in letters for powers of a base. -/
def withLetter (r : FigureRules) (f : Figure) : String :=
  let base := if r.target == .iec || r.target == .iecI then 1024 else 1000
  let (m, power) := f.descend base 20 0
  let adjust := match r.format.places with
    | some places => min (power * 3) places
    | none => if m.isBelow 10 then 1 else 0
  let shift := Nat.pow 10 adjust
  let m : Figure := ⟨(m.scaled shift 1).round r.rounding, shift⟩
  let (m, power) := if m.isBelow base then (m, power) else (m.scaled 1 base, power + 1)
  let places := r.format.places.getD
    (if m.top != 0 && m.isBelow 10 && 0 < power then 1 else 0)
  let letter := if power == 0 then "" else
    String.singleton (scaleLetters.getD (power - 1) '?') ++
      if r.target == .iecI then "i" else ""
  m.decimal places ++ letter

/-- A number filled up with noughts. -/
def zeroFilled (width : Nat) (text : String) : String :=
  match text.toList with
  | '-' :: cs =>
    "-" ++ String.ofList (List.replicate (width - 1 - cs.length) '0' ++ cs)
  | cs => String.ofList (List.replicate (width - cs.length) '0' ++ cs)

/-- A number as it is written, or why it cannot be. -/
def write (r : FigureRules) (f : Figure) (places : Nat) : Except String String := do
  let places := r.format.places.getD places
  let text ← if r.target == .none then
      if !f.isBelow (Nat.pow 10 18) then
        throw ("value too large to be printed: '" ++ f.short ++ "' (consider using --to)")
      let shift := Nat.pow 10 places
      pure (Figure.decimal ⟨(f.scaled shift 1).round r.rounding, shift⟩ places)
    else pure (r.withLetter f)
  return zeroFilled r.format.zeroWidth text ++ r.ending

/-- A field with a number, converted. -/
def convert (r : FigureRules) (field : String) (isLater : Bool) : Except String String := do
  let size := r.ending.length
  let isEnded := size < field.length && 0 < size &&
    r.ending.toList.isSuffixOf field.toList
  let bare := if isEnded then Octets.takeFirst (field.length - size) field else field
  let blanks := bare.toList.takeWhile fun c => c == ' ' || c == '\t'
  let (figure, places) ← r.read (Octets.dropFirst blanks.length bare)
  let places := if r.sourceUnit == 1 && r.targetUnit == 1 then places else 0
  let text ← r.write (figure.scaled r.sourceUnit r.targetUnit) places
  let width : Int := if r.format.width != 0 then r.format.width
    else if r.separator.isNone && (!blanks.isEmpty || isLater) then field.length
    else 0
  let padded := if width < 0 then Octets.padRight width.natAbs text
    else Octets.padLeft width.natAbs text
  return r.format.before ++ padded ++ r.format.after

/-- The fields of a line, in at most `n` steps; blanks before a field belong to it. -/
def fieldsOf (r : FigureRules) : Nat → List Char → List String
  | 0, _ => []
  | n + 1, cs =>
    let isBlank (c : Char) : Bool := c == ' ' || c == '\t' || c == '\n'
    let field := match r.separator with
      | some d => cs.takeWhile fun c => c != d
      | none =>
        let blanks := cs.takeWhile isBlank
        blanks ++ (cs.drop blanks.length).takeWhile fun c => !isBlank c
    match cs.drop field.length with
    | [] => [String.ofList field]
    | _ :: rest => String.ofList field :: fieldsOf r n rest

end FigureRules

/-- A line is converted and written; whether all its numbers could be, or nothing if that
ends the work. -/
def convertLine (r : FigureRules) (ending : String) (line : String) : Tool (Option Bool) := do
  let fields := r.fieldsOf (line.length + 1) line.toList
  let separator := match r.separator with
    | some c => String.singleton c
    | none => " "
  go separator true (fields.zipIdx 1)
where
  /-- The fields from a number on are converted and written. -/
  go (separator : String) (isGood : Bool) : List (String × Nat) → Tool (Option Bool)
    | [] => do
      out ending
      return some isGood
    | (field, i) :: rest => do
      let between := if rest.isEmpty then "" else separator
      if !inSpans r.fields i then
        out (field ++ between)
        return ← go separator isGood rest
      match r.convert field (1 < i) with
      | .ok text =>
        out (text ++ between)
        go separator isGood rest
      | .error message =>
        if r.invalid != .ignore then complain message
        if r.invalid == .abort then return none
        out (field ++ between)
        go separator false rest

/-- Lines are converted one after the other; the code to end with. -/
def convertLines (r : FigureRules) (ending : String) : List String → Bool → Tool Nat
  | [], isGood => return if isGood || r.invalid == .warn || r.invalid == .ignore then 0 else 2
  | line :: rest, isGood => do
    match ← convertLine r ending line with
    | none => return 2
    | some isFine => convertLines r ending rest (isGood && isFine)

/-- The scales that numbers can be written with. -/
def targetScales : List (String × Scale) :=
  [("none", .none), ("si", .si), ("iec", .iec), ("iec-i", .iecI)]

/-- The scales that numbers can be read with. -/
def sourceScales : List (String × Scale) :=
  [("none", .none), ("auto", .auto), ("si", .si), ("iec", .iec), ("iec-i", .iecI)]

/-- The number that a unit spells. -/
def unitSize? (text : String) : Option Nat :=
  let cs := text.toList
  let digits := cs.takeWhile Char.isDigit
  let n := if digits.isEmpty then 1 else Octets.number digits
  let power? := match cs.drop digits.length with
    | [] => some (if digits.isEmpty then 0 else 1)
    | [c] => (scaleLetters.idxOf? c).map fun i => Nat.pow 1000 (i + 1)
    | [c, 'i'] => (scaleLetters.idxOf? c).map fun i => Nat.pow 1024 (i + 1)
    | _ => none
  match power? with
  | some power => if n * power == 0 then none else some (n * power)
  | none => none

/-- An option is taken into account; a message tells whether a hint follows it. -/
def FigureRules.take (r : FigureRules) (option : Char × String) :
    Except (String × Bool) FigureRules := do
  let value := option.2
  let hinted {α : Type} (e : Except String α) : Except (String × Bool) α :=
    e.mapError fun message => (message, true)
  match option.1 with
  | '\x01' => return { r with source := ← hinted (Quote.choice "--from" sourceScales value) }
  | '\x02' => return { r with target := ← hinted (Quote.choice "--to" targetScales value) }
  | '\x03' =>
    match unitSize? value with
    | some n => return { r with sourceUnit := n }
    | none => throw ("invalid unit size: " ++ Quote.inWords value, false)
  | '\x04' =>
    match unitSize? value with
    | some n => return { r with targetUnit := n }
    | none => throw ("invalid unit size: " ++ Quote.inWords value, false)
  | '\x05' =>
    let choices := [("up", Rounding.up), ("down", .down), ("from-zero", .fromZero),
      ("towards-zero", .towardsZero), ("nearest", .nearest)]
    return { r with rounding := ← hinted (Quote.choice "--round" choices value) }
  | '\x06' => return { r with ending := value }
  | '\x07' =>
    let (isLeft, digits) := match value.toList with
      | '-' :: cs => (true, String.ofList cs)
      | _ => (false, value)
    match Octets.number? digits with
    | some (n + 1) =>
      let width : Int := if isLeft then -(n + 1 : Nat) else (n + 1 : Nat)
      return { r with format := { r.format with width := width } }
    | _ => throw ("invalid padding value " ++ Quote.inWords value, false)
  | '\x08' =>
    let choices := [("abort", InvalidRule.abort), ("fail", .fail), ("warn", .warn),
      ("ignore", .ignore)]
    return { r with invalid := ← hinted (Quote.choice "--invalid" choices value) }
  | '\x0e' =>
    match figureFormat? value with
    | .ok f =>
      let f := if f.width == 0 then { f with width := r.format.width } else f
      return { r with format := f }
    | .error message => throw (message, false)
  | '\x0f' =>
    match if value == "-" then .ok [(1, none)] else spans value with
    | .ok ss => return { r with fields := ss }
    | .error _ => throw ("invalid field value " ++ Quote.inWords value, true)
  | 'd' =>
    match value.toList with
    | [c] => return { r with separator := some c }
    | _ => throw ("the delimiter must be a single character", false)
  | _ => return r

/-- Converts numbers in and out of units. -/
def numfmt : Tool Nat :=
  withOptions [{ letter := '\x01', word := "from", takes := .required },
      { letter := '\x02', word := "to", takes := .required },
      { letter := '\x03', word := "from-unit", takes := .required },
      { letter := '\x04', word := "to-unit", takes := .required },
      { letter := '\x05', word := "round", takes := .required },
      { letter := '\x06', word := "suffix", takes := .required },
      { letter := '\x07', word := "padding", takes := .required },
      { letter := '\x08', word := "invalid", takes := .required },
      { letter := '\x0e', word := "format", takes := .required },
      { letter := '\x0f', word := "field", takes := .required },
      { letter := 'd', word := "delimiter", takes := .required },
      { letter := '\x10', word := "header", takes := .optional },
      { letter := '\x11', word := "grouping" }, { letter := '\x12', word := "debug" },
      { letter := 'z', word := "zero-terminated" }] 1 fun p => do
    match p.options.foldlM FigureRules.take {} with
    | .error (message, true) => misuse 1 message
    | .error (message, false) => fail 1 message
    | .ok r =>
      if (p.has '\x11' || r.format.isGrouped) && r.target != .none then
        return ← fail 1 "grouping cannot be combined with --to"
      if p.has '\x11' && p.has '\x0e' then
        return ← fail 1 "--grouping cannot be combined with --format"
      let ending := if p.has 'z' then "\x00" else "\n"
      let header? := match p.get? '\x10' with
        | some "" => some 1
        | some text => match Octets.number? text with
          | some (n + 1) => some (n + 1)
          | _ => none
        | none => some 0
      match header? with
      | none => fail 1 ("invalid header value " ++ Quote.inWords ((p.get? '\x10').getD ""))
      | some header =>
        if !p.operands.isEmpty then convertLines r ending p.operands true
        else match ← input with
          | .error fault => fail 1 ("error reading input: " ++ fault.words)
          | .ok text =>
            let parts := text.splitOn ending
            let lines := if parts.getLast? == some "" then parts.dropLast else parts
            (lines.take header).forM fun l => out (l ++ ending)
            convertLines r ending (lines.drop header) true

end CompileOrder.Shell.Utility
