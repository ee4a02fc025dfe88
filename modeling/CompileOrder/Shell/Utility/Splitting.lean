import CompileOrder.Shell.Utility.Launching
import CompileOrder.Shell.Utility.Making
import CompileOrder.Shell.Utility.Reading

/-!
# Splitting files

A file is split into parts by lines, by octets, or into a number of parts; the parts go to
files whose names end in letters or digits that count up.
-/

namespace CompileOrder.Shell.Utility

open Tool

/-- How the names of parts count up. -/
structure Suffixes where
  /-- The digits. -/
  digits : List Char
  /-- The number of digits. -/
  width : Nat
  /-- Whether more digits are taken when there are no names left. -/
  isGrowing : Bool
  /-- The first number. -/
  start : Nat
  /-- What comes after the digits. -/
  ending : String

namespace Suffixes

/-- A number in some digits, with leading first digits. -/
def spell (digits : List Char) (width n : Nat) : String :=
  String.ofList ((List.range width).reverse.map fun i =>
    digits.getD (n / Nat.pow digits.length i % digits.length) '0')

/-- The ending of the name with a number; names that begin with the last digit are kept for
when more digits are needed, in at most `steps` steps. -/
def grow (digits : List Char) (width n : Nat) : Nat → String
  | 0 => ""
  | steps + 1 =>
    let names := Nat.pow digits.length (width - 1) * (digits.length - 1)
    if n < names then spell digits width n
    else String.singleton (digits.getLastD 'z') ++ grow digits (width + 1) (n - names) steps

/-- The ending of the name with a number, if there is one. -/
def name? (s : Suffixes) (i : Nat) : Option String :=
  let n := i + s.start
  if s.isGrowing then some (grow s.digits s.width n 20 ++ s.ending)
  else if n < Nat.pow s.digits.length s.width then some (spell s.digits s.width n ++ s.ending)
  else none

end Suffixes

/-- A list in stretches of a length. -/
def stretches {α : Type} (length : Nat) : Nat → List α → List (List α)
  | 0, _ => []
  | _ + 1, [] => []
  | n + 1, xs => xs.take length :: stretches length n (xs.drop length)

/-- The records of a text, each with the separator at its end. -/
def recordsOf (separator : Char) (text : String) : List String :=
  go text.toList []
where
  /-- The records, with the characters of the current one, the last first. -/
  go : List Char → List Char → List String
    | [], [] => []
    | [], held => [String.ofList held.reverse]
    | c :: cs, held =>
      if c == separator then String.ofList (c :: held).reverse :: go cs []
      else go cs (c :: held)

/-- Records in stretches of at most a number of octets; a record that is longer is cut. -/
def filledStretches (limit : Nat) : Nat → List String → String → List String
  | 0, _, held => if held.isEmpty then [] else [held]
  | _ + 1, [], held => if held.isEmpty then [] else [held]
  | n + 1, r :: rs, held =>
    if held.length + r.length ≤ limit then filledStretches limit n rs (held ++ r)
    else if !held.isEmpty then held :: filledStretches limit n (r :: rs) ""
    else Octets.takeFirst limit r :: filledStretches limit n (Octets.dropFirst limit r :: rs) ""

/-- The ends of a number of parts of a length that are as equal as they can be. -/
def partEnds (length count : Nat) : List Nat :=
  (List.range count).map fun k =>
    (k + 1) * (length / count) + min (k + 1) (length % count)

/-- How a file is split. -/
inductive Split where
  /-- After a number of records. -/
  | records (count : Nat)
  /-- After a number of octets. -/
  | octets (count : Nat)
  /-- After as many records as fit into a number of octets. -/
  | filled (count : Nat)
  /-- Into a number of parts of octets, of which one may be chosen. -/
  | parts (count : Nat) (chosen : Option Nat)
  /-- Into a number of parts of records, of which one may be chosen. -/
  | recordParts (count : Nat) (chosen : Option Nat)
  /-- Records go to a number of parts in turn, of which one may be chosen. -/
  | turns (count : Nat) (chosen : Option Nat)
  deriving DecidableEq, Repr

namespace Split

/-- The parts of a text. -/
def apply (s : Split) (separator : Char) (text : String) : List String :=
  let records := recordsOf separator text
  let cs := text.toList
  match s with
  | .records n => (stretches n (records.length + 1) records).map String.join
  | .octets n => (stretches n (cs.length + 1) cs).map String.ofList
  | .filled n => filledStretches n (2 * cs.length + 2) records ""
  | .parts n _ =>
    let ends := partEnds cs.length n
    (ends.zip (0 :: ends)).map fun (stop, start) =>
      String.ofList ((cs.drop start).take (stop - start))
  | .recordParts n _ =>
    let ends := partEnds cs.length n
    let starts := (records.foldl (fun (at_, done) r => (at_ + r.length, at_ :: done))
      ((0 : Nat), ([] : List Nat))).2.reverse
    (List.range n).map fun k =>
      String.join (((records.zip starts).filter fun (_, start) =>
        start < ends.getD k 0 && (k == 0 || ends.getD (k - 1) 0 ≤ start)).map fun r => r.1)
  | .turns n _ =>
    (List.range n).map fun k =>
      String.join ((records.zip (List.range records.length)).filterMap fun (r, i) =>
        if i % n == k then some r else none)

/-- The number of parts, if it is given. -/
def count? : Split → Option Nat
  | .parts n _ | .recordParts n _ | .turns n _ => some n
  | _ => none

/-- The part that is chosen. -/
def chosen? : Split → Option Nat
  | .parts _ k | .recordParts _ k | .turns _ k => k
  | _ => none

/-- The way of splitting into a number of parts that a text describes. -/
def ofParts (text : String) : Except String Split := do
  let wrong : Except String Split := .error ("invalid number of chunks: " ++ Quote.inWords text)
  let words := text.splitOn "/"
  let (kind, numbers) := match words with
    | "l" :: rest => ('l', rest)
    | "r" :: rest => ('r', rest)
    | rest => (' ', rest)
  let make (n : Nat) (k : Option Nat) : Split :=
    if kind == 'l' then .recordParts n k else if kind == 'r' then .turns n k else .parts n k
  match numbers with
  | [n] =>
    match amount? n with
    | some 0 | none => .error ("invalid number of chunks: " ++ Quote.inWords n)
    | some n => return make n none
  | [k, n] =>
    match amount? k, amount? n with
    | some k', some (n + 1) =>
      if k' == 0 || n + 1 < k' then .error ("invalid chunk number: " ++ Quote.inWords k)
      else return make (n + 1) (some k')
    | some _, _ => .error ("invalid number of chunks: " ++ Quote.inWords n)
    | none, _ => wrong
  | _ => wrong

end Split

/-- Words in which a hyphen with digits stands for a number of lines. -/
def spellLineCount (words : List String) : List String :=
  words.map fun w => match w.toList with
    | '-' :: c :: cs => if (c :: cs).all Char.isDigit then "-l" ++ String.ofList (c :: cs) else w
    | _ => w

/-- The number of digits that the last of some parts needs. -/
def digitsNeeded (base : Nat) : Nat → Nat → Nat
  | 0, _ => 1
  | n + 1, last => if last < base then 1 else 1 + digitsNeeded base n (last / base)

/-- Splits a file. -/
def split (launch : Launch) : Tool Nat := do
  let flags : List Flag := [{ letter := 'a', word := "suffix-length", takes := .required },
    { letter := '\x01', word := "additional-suffix", takes := .required },
    { letter := 'b', word := "bytes", takes := .required },
    { letter := 'C', word := "line-bytes", takes := .required }, { letter := 'd' },
    { letter := '\x02', word := "numeric-suffixes", takes := .optional }, { letter := 'x' },
    { letter := '\x03', word := "hex-suffixes", takes := .optional },
    { letter := 'e', word := "elide-empty-files" },
    { letter := '\x04', word := "filter", takes := .required },
    { letter := 'l', word := "lines", takes := .required },
    { letter := 'n', word := "number", takes := .required },
    { letter := 't', word := "separator", takes := .required },
    { letter := 'u', word := "unbuffered" }, { letter := '\x05', word := "verbose" }]
  match Flag.parse flags (spellLineCount (← args)) with
  | .error message => misuse 1 message
  | .ok p =>
    let ways := p.options.filter fun o => "bCln".toList.contains o.1
    if 1 < ways.length then return ← misuse 1 "cannot split in more than one way"
    let sized (word text : String) (f : Nat → Split) : Except String Split :=
      match amount? text with
      | some 0 | none => .error ("invalid number of " ++ word ++ ": " ++ Quote.inWords text)
      | some n => .ok (f n)
    let way := match ways with
      | ('b', text) :: _ => sized "bytes" text .octets
      | ('C', text) :: _ => sized "bytes" text .filled
      | ('l', text) :: _ => sized "lines" text .records
      | (_, text) :: _ => Split.ofParts text
      | [] => .ok (.records 1000)
    match way, p.operands with
    | .error message, _ => fail 1 message
    | _, _ :: _ :: extra :: _ => misuse 1 ("extra operand " ++ Quote.inWords extra)
    | .ok way, operands =>
      let path := operands.headD "-"
      let lead := operands.getD 1 "x"
      let kind := p.options.reverse.find? fun o => "dx\x02\x03".toList.contains o.1
      let digits := match kind with
        | some ('d', _) | some ('\x02', _) => "0123456789".toList
        | some _ => "0123456789abcdef".toList
        | none => "abcdefghijklmnopqrstuvwxyz".toList
      let start := (kind.bind fun k => Octets.number? k.2).getD 0
      let hasStart := match kind with
        | some (_, text) => !text.isEmpty
        | none => false
      let needed := match way.count? with
        | some n => digitsNeeded digits.length 64 (n - 1 + if start < n then start else 0)
        | none => 0
      let width := (p.get? 'a').bind Octets.number?
      match width with
      | some w =>
        if w != 0 && w < needed then
          return ← fail 1 ("the suffix length needs to be at least " ++ toString needed)
      | none => pure ()
      let given := width.filter fun w => w != 0
      let suffixes : Suffixes := {
        digits := digits
        width := given.getD (max 2 needed)
        isGrowing := given.isNone && way.count?.isNone && !hasStart
        start := start
        ending := (p.get? '\x01').getD "" }
      let separator := match (p.get? 't').map String.toList with
        | some [c] => c
        | some ['\\', '0'] => '\x00'
        | _ => '\n'
      match ← contents path with
      | .error .isDirectory =>
        fail 1 (Quote.ifNeeded path ++ ": read error: " ++ FileFault.isDirectory.words)
      | .error fault =>
        fail 1 ("cannot open " ++ Quote.always path ++ " for reading: " ++ fault.words)
      | .ok text =>
        let parts := way.apply separator text
        match way.chosen? with
        | some k =>
          out (parts.getD (k - 1) "")
          return 0
        | none =>
          let parts := if p.has 'e' then parts.filter fun t => !t.isEmpty else parts
          for (part, i) in parts.zip (List.range parts.length) do
            match suffixes.name? i with
            | none => return ← fail 1 "output file suffixes exhausted"
            | some ending =>
              let target := lead ++ ending
              if p.has '\x05' then
                out ((if p.has '\x04' then "executing with FILE=" else "creating file ") ++
                  Quote.always target ++ "\n")
              match p.get? '\x04' with
              | some command =>
                let (i, m) := (← get).openChannel (.pipe (Octets.toBytes part))
                set m
                let _ ← fun (call : Call) =>
                  let others := call.descriptors.filter fun d => d.1 != 0
                  let environment := setVariables call.environment [("FILE", target)]
                  launch ["sh", "-c", command]
                    { call with
                      descriptors := (0, i) :: others
                      environment := environment }
              | none =>
                match (← get).writeFile target (Octets.toBytes part) with
                | .ok m => set m
                | .error fault => return ← fail 1 (Quote.ifNeeded target ++ ": " ++ fault.words)
          return 0

end CompileOrder.Shell.Utility
