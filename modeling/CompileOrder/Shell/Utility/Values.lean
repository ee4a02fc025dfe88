import CompileOrder.Shell.Condition
import CompileOrder.Shell.Format
import CompileOrder.Shell.Utility.Options
import CompileOrder.Shell.Utility.Quote

/-!
# Utilities that show values

Texts and numbers from arguments, the variables of the environment, and facts about
the system.
-/

namespace CompileOrder.Shell.Utility

open Tool

/-- The letters of an option of `echo`: none if the word is not one. -/
def echoLetters? (word : String) : Option (List Char) :=
  match word.toList with
  | '-' :: c :: cs =>
    if (c :: cs).all fun c => "neE".toList.contains c then some (c :: cs)
    else none
  | _ => none

/-- A hexadecimal digit as a number. -/
def hexDigit? (c : Char) : Option Nat :=
  if c.isDigit then some (c.toNat - 48)
  else if 'a' ≤ c && c ≤ 'f' then some (c.toNat - 87)
  else if 'A' ≤ c && c ≤ 'F' then some (c.toNat - 55)
  else none

/-- The octet with the number that up to two hexadecimal digits spell, and the rest. -/
def hexOctet? (cs : List Char) : Option (Char × List Char) :=
  let ds := (cs.take 2).filterMap hexDigit?
  let ds := if (cs.head?.bind hexDigit?).isNone then [] else ds
  if ds.isEmpty then none
  else some (Char.ofNat (ds.foldl (fun n d => n * 16 + d) 0), cs.drop ds.length)

/-- The texts of `echo` with escapes, the last character first, and whether they are
ended by one. -/
def unescapeFrom : Nat → List Char → List Char → List Char × Bool
  | 0, done, _ => (done, false)
  | _ + 1, done, [] => (done, false)
  | n + 1, done, '\\' :: c :: cs =>
    if c == 'c' then (done, true)
    else if c == 'x' then
      match hexOctet? cs with
      | some (x, rest) => unescapeFrom n (x :: done) rest
      | none => unescapeFrom n ('x' :: '\\' :: done) cs
    else if c == '0' then
      let ds := (cs.take 3).takeWhile Escape.isOctal
      unescapeFrom n (Escape.octet ds :: done) (cs.drop ds.length)
    else
      let (x, rest) := Escape.character (c :: cs)
      unescapeFrom n (x :: done) rest
  | n + 1, done, c :: cs => unescapeFrom n (c :: done) cs

/-- Shows its arguments. -/
def echo : Tool Nat := do
  let words ← args
  let options := words.takeWhile fun w => (echoLetters? w).isSome
  let letters := (options.filterMap echoLetters?).flatten
  let escapes := (letters.reverse.find? fun c => c == 'e' || c == 'E') == some 'e'
  let text := " ".intercalate (words.drop options.length)
  let ending := if letters.contains 'n' then "" else "\n"
  if escapes then
    let (done, isEnded) := unescapeFrom (text.length + 1) [] text.toList
    out (String.ofList done.reverse ++ (if isEnded then "" else ending))
  else out (text ++ ending)
  return 0

/-- Shows its arguments by a format. -/
def printf : Tool Nat := do
  let words ← args
  match if words.head? == some "--" then words.tail else words with
  | [] => misuse 1 "missing operand"
  | format :: rest =>
    let r := Format.run format rest
    out r.output
    for message in r.reports.reverse do
      let value := (message.splitOn ": ").headD ""
      complain (Quote.inWords value ++ ": " ++
        (if message == value ++ ": expected numeric value" then "expected a numeric value"
         else "value not completely converted"))
    match r.error with
    | some message => fail 1 message
    | none => return if r.reports.isEmpty then 0 else 1

/-- Whether a condition holds. -/
def test (words : List String) : Tool Nat := do
  match Condition.evaluate (← get) words with
  | .ok holds => return if holds then 0 else 1
  | .error message => fail 2 message

/-- Whether the condition of the arguments holds. -/
def testArguments : Tool Nat := do test (← args)

/-- Whether the condition of the arguments, up to a bracket, holds. -/
def bracket : Tool Nat := do
  let words ← args
  if words.getLast? != some "]" then fail 2 "missing ']'" else test words.dropLast

/-- A number with a decimal point: its digits as a whole number and the number of places. -/
structure Places where
  /-- The digits. -/
  value : Int
  /-- The number of places after the point. -/
  places : Nat
  deriving DecidableEq, Repr

/-- The number that a text spells. -/
def Places.ofText? (text : String) : Option Places :=
  let (d, rest) := Real.decimal text
  if text.isEmpty || !rest.isEmpty || (text.toList.all fun c => !c.isDigit) then none
  else
    let (mantissa, places) := if d.exponent < 0 then (d.mantissa, (-d.exponent).toNat)
      else (d.mantissa * Nat.pow 10 d.exponent.toNat, 0)
    some ⟨if d.isNegative then -(mantissa : Int) else mantissa, places⟩

/-- The digits of the number with more places. -/
def Places.scaled (p : Places) (places : Nat) : Int :=
  p.value * (Nat.pow 10 (places - p.places) : Nat)

/-- A whole number as one with places after the point. -/
def placesText (value : Int) (places : Nat) : String :=
  String.ofList ((if value < 0 then ['-'] else []) ++
    Real.fixedDigits value.natAbs (Nat.pow 10 places) places false)

/-- A number filled up with noughts after its sign. -/
def zeroPad (width : Nat) (text : String) : String :=
  match text.toList with
  | '-' :: cs => String.ofList ('-' :: List.replicate (width - text.length) '0' ++ cs)
  | cs => String.ofList (List.replicate (width - text.length) '0' ++ cs)

/-- Whether the word is a negative number and not an option. -/
def isNegativeNumber (word : String) : Bool :=
  match word.toList with
  | '-' :: c :: _ => c.isDigit || c == '.'
  | _ => false

/-- The options at the start of the words of `seq`, where negative numbers are none. -/
def seqOptions : List String → List String × List String
  | [] => ([], [])
  | word :: rest =>
    if isNegativeNumber word || word.toList.head? != some '-' || word == "-" then ([], word :: rest)
    else if word == "--" then ([], rest)
    else if word == "-s" || word == "-f" || word == "--separator" || word == "--format" then
      match rest with
      | [] => ([word], [])
      | value :: rest =>
        let (options, operands) := seqOptions rest
        (word :: value :: options, operands)
    else
      let (options, operands) := seqOptions rest
      (word :: options, operands)

/-- Shows numbers in steps. -/
def seq : Tool Nat := do
  let (options, operands) := seqOptions (← args)
  match Flag.parse [{ letter := 's', word := "separator", takes := .required },
      { letter := 'f', word := "format", takes := .required },
      { letter := 'w', word := "equal-width" }] options with
  | .error message => misuse 1 message
  | .ok p =>
    match operands with
    | [] => misuse 1 "missing operand"
    | _ :: _ :: _ :: extra :: _ => misuse 1 ("extra operand " ++ Quote.inWords extra)
    | operands =>
      match operands.find? fun w => (Places.ofText? w).isNone with
      | some w => misuse 1 ("invalid floating point argument: " ++ Quote.inWords w)
      | none =>
        let numbers := operands.filterMap Places.ofText?
        let one : Places := ⟨1, 0⟩
        let (first, step, last) := match numbers with
          | [last] => (one, one, last)
          | [first, last] => (first, one, last)
          | first :: step :: last :: _ => (first, step, last)
          | [] => (one, one, one)
        if step.value == 0 then
          misuse 1 ("invalid Zero increment value: " ++ Quote.inWords (operands.getD 1 ""))
        else
          let shown := max first.places step.places
          let scale := max shown last.places
          let a := first.scaled scale
          let d := step.scaled scale
          let z := last.scaled scale
          let count := if d > 0 then (if z < a then 0 else ((z - a) / d).toNat + 1)
            else if a < z then 0 else ((a - z) / (-d)).toNat + 1
          let unit : Int := (Nat.pow 10 (scale - shown) : Nat)
          let texts := (List.range count).map fun (i : Nat) => placesText ((a + d * i) / unit) shown
          let width := (texts.map String.length).foldl max 0
          let texts := if p.has 'w' then texts.map (zeroPad width) else texts
          let texts := match p.get? 'f' with
            | some format => texts.map fun t => (Format.run format [t]).output
            | none => texts
          if !texts.isEmpty then out (((p.get? 's').getD "\n").intercalate texts ++ "\n")
          return 0

/-- The number of times that a line is shown which would be shown for ever. -/
def endless : Nat := 20000

/-- Shows a line for ever. -/
def yes : Tool Nat := do
  let words ← args
  let line := (if words.isEmpty then "y" else " ".intercalate words) ++ "\n"
  out (String.join (List.replicate endless line))
  return 1

/-- The time that a text names, in thousandths of a second. -/
def duration? (text : String) : Option Nat :=
  let cs := text.toList
  let (unit, digits) := match cs.getLast? with
    | some 's' => (1000, cs.dropLast)
    | some 'm' => (60000, cs.dropLast)
    | some 'h' => (3600000, cs.dropLast)
    | some 'd' => (86400000, cs.dropLast)
    | _ => (1000, cs)
  match String.ofList digits with
  | "inf" | "infinity" => some (unit * 1000000)
  | digits =>
    match Places.ofText? digits with
    | some p => if p.value < 0 then none else some (p.value.toNat * unit / Nat.pow 10 p.places)
    | none => none

/-- Waits. -/
def sleep : Tool Nat :=
  withOptions [] 1 fun p => do
    if p.operands.isEmpty then misuse 1 "missing operand"
    else
      let wrong := p.operands.filter fun w => (duration? w).isNone
      if wrong.isEmpty then
        let time := (p.operands.filterMap duration?).foldl (· + ·) 0
        modify fun m => m.pass time
        return 0
      for w in wrong do complain ("invalid time interval " ++ Quote.inWords w)
      err ("Try '" ++ (← name) ++ " --help' for more information.\n")
      return 1

/-- Shows variables of the environment. -/
def printenv : Tool Nat :=
  withLeadingOptions [{ letter := '0', word := "null" }] 2 fun p => do
    let environment := (← read).environment
    if p.operands.isEmpty then
      outLines (environment.map fun (name, value) => name ++ "=" ++ value)
      return 0
    each p.operands fun name => do
      match environment.find? fun v => v.1 == name with
      | some (_, value) =>
        outLines [value]
        return 0
      | none => return 1

/-- Shows what the system is. -/
def uname : Tool Nat :=
  withOptions (Flag.ofLetters "asnrvmpio") 1 fun p => do
    let texts := [('s', "Linux"), ('n', "localhost"), ('r', "6.1.0"), ('v', "#1 SMP"),
      ('m', "x86_64"),
      ('p', "unknown"), ('i', "unknown"), ('o', "GNU/Linux")]
    let asked := texts.filter fun t =>
      p.has t.1 || (p.has 'a' && t.2 != "unknown") || (p.options.isEmpty && t.1 == 's')
    outLines [" ".intercalate (asked.map fun t => t.2)]
    return 0

/-- Shows the kind of the machine. -/
def arch : Tool Nat :=
  withOptions [] 1 fun p => do
    match p.operands with
    | extra :: _ => misuse 1 ("extra operand " ++ Quote.inWords extra)
    | [] =>
      outLines ["x86_64"]
      return 0

/-- Shows the name of the machine. -/
def hostname : Tool Nat := do
  outLines ["localhost"]
  return 0

/-- Shows the number of processors. -/
def nproc : Tool Nat := do
  outLines ["1"]
  return 0

/-- The smallest factor of a number from a candidate on, found in at most `n` steps. -/
def factorFrom (number : Nat) : Nat → Nat → Nat
  | 0, _ => number
  | n + 1, candidate =>
    if number < candidate * candidate then number
    else if number % candidate == 0 then candidate
    else factorFrom number n (candidate + 1)

/-- The prime factors of a number, at most `n` of them, in order. -/
def factors : Nat → Nat → List Nat
  | 0, _ => []
  | n + 1, number =>
    if number < 2 then []
    else
      let f := factorFrom number 100000 2
      f :: factors n (number / f)

/-- Shows the prime factors of numbers. -/
def factor : Tool Nat :=
  withOptions [] 1 fun p => do
    let words ← if p.operands.isEmpty then do
        match ← input with
        | .ok text => pure ((text.toList.splitBy fun a b =>
          !Octets.isSpace a && !Octets.isSpace b).filterMap
            fun cs => if cs.any Octets.isSpace then none else some (String.ofList cs))
        | .error _ => pure []
      else pure p.operands
    each words fun word => do
      match Octets.number? word with
      | some n =>
        outLines [toString n ++ ":" ++ String.join ((factors 70 n).map fun f => " " ++ toString f)]
        return 0
      | none => fail 1 (Quote.inWords word ++ " is not a valid positive integer")

end CompileOrder.Shell.Utility
