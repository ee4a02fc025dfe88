import CompileOrder.Shell.Utility.Options
import CompileOrder.Shell.Utility.Quote

/-!
# Joining lines

Lines of two files are joined if they have a field in common. Both files are read once,
side by side, and are expected to be in the order of that field; a file that is not is
told about as soon as a line has been found that has no partner.
-/

namespace CompileOrder.Shell.Utility

open Tool

/-- A line with its fields. -/
structure JoinLine where
  /-- The line. -/
  text : String
  /-- Its fields. -/
  fields : List String

/-- A field of the result: the common one, or one of a file. -/
inductive JoinField where
  | common
  | ofFile (isSecond : Bool) (field : Nat)
  deriving DecidableEq, Repr

/-- How lines are joined. -/
structure JoinRules where
  /-- The common field of the first file, from 0. -/
  first : Nat := 0
  /-- The common field of the second file, from 0. -/
  second : Nat := 0
  /-- What separates fields; blanks if nothing is said, nothing if it is a line feed. -/
  separator : Option Char := none
  /-- What stands for a field that is missing or empty. -/
  filler : String := ""
  /-- The fields of the result, if they are chosen. -/
  chosen : Option (List JoinField) := none
  /-- Whether a result has as many fields as the first lines of the files. -/
  isAuto : Bool := false
  /-- Whether lines of the first file without a partner are shown. -/
  showsFirst : Bool := false
  /-- Whether lines of the second file without a partner are shown. -/
  showsSecond : Bool := false
  /-- Whether joined lines are shown. -/
  showsPairs : Bool := true
  /-- Whether the size of letters is ignored. -/
  ignoresCase : Bool := false
  /-- Whether the first lines are joined without comparison. -/
  hasHeader : Bool := false
  /-- Whether the order is checked, if that is said. -/
  checks : Option Bool := none
  /-- What ends a line. -/
  ending : Char := '\n'

namespace JoinRules

/-- The fields that runs of blanks separate, in at most `n` steps; a blank at the end is
followed by an empty field. -/
def blankFields : Nat → List Char → List String
  | 0, _ => []
  | n + 1, cs =>
    let isBlank (c : Char) : Bool := c == ' ' || c == '\t' || c == '\n'
    let field := cs.takeWhile fun c => !isBlank c
    match cs.drop field.length with
    | [] => [String.ofList field]
    | rest =>
      match rest.dropWhile isBlank with
      | [] => [String.ofList field, ""]
      | rest => String.ofList field :: blankFields n rest

/-- The fields of a line. -/
def fields (r : JoinRules) (line : String) : List String :=
  match r.separator with
  | some '\n' => [line]
  | some c => if line.isEmpty then [] else line.splitOn (String.singleton c)
  | none =>
    match line.toList.dropWhile fun c => c == ' ' || c == '\t' || c == '\n' with
    | [] => []
    | cs => blankFields (cs.length + 1) cs

/-- The lines of a text. -/
def linesOf (r : JoinRules) (text : String) : List JoinLine :=
  let lines := if r.ending == '\n' then Octets.lines text
    else
      let parts := text.splitOn (String.singleton r.ending)
      if parts.getLast? == some "" then parts.dropLast else parts
  lines.map fun l => ⟨l, r.fields l⟩

/-- The order of two common fields. -/
def order (r : JoinRules) (a b : String) : Ordering :=
  if r.ignoresCase then compare (a.map Char.toUpper) (b.map Char.toUpper) else compare a b

/-- A field of the result, or what stands for it. -/
def field (r : JoinRules) (line : Option JoinLine) (n : Nat) : String :=
  match line.bind fun l => l.fields[n]? with
  | some "" | none => r.filler
  | some f => f

/-- The line that two lines give, one of which may be missing; `counts` are the numbers of
fields that a result has of each file, if they are fixed. -/
def joined (r : JoinRules) (counts : Nat × Nat) (a b : Option JoinLine) : String :=
  let separator := match r.separator with
    | some c => String.singleton c
    | none => " "
  let common := if a.isSome then r.field a r.first else r.field b r.second
  let others (line : Option JoinLine) (own count : Nat) : List String :=
    let n := if r.isAuto then count else (line.map fun l => l.fields.length).getD 0
    ((List.range n).filter fun i => i != own).map (r.field line)
  let parts := match r.chosen with
    | some chosen => chosen.map fun
      | .common => common
      | .ofFile false n => r.field a n
      | .ofFile true n => r.field b n
    | none => common :: others a r.first counts.1 ++ others b r.second counts.2
  String.intercalate separator parts ++ String.singleton r.ending

end JoinRules

/-- A file that is being joined. -/
structure JoinSide where
  /-- Its name. -/
  path : String
  /-- Its common field. -/
  key : Nat
  /-- The lines that have not been read. -/
  rest : List JoinLine
  /-- The number of lines that have been read. -/
  count : Nat := 0
  /-- The line that was read last. -/
  last : Option JoinLine := none
  /-- Whether it was told that it is out of order. -/
  isTold : Bool := false

/-- The common field of a line. -/
def JoinSide.keyOf (s : JoinSide) (line : JoinLine) : String := line.fields.getD s.key ""

/-- The state of a join. -/
structure JoinState where
  /-- The first file. -/
  first : JoinSide
  /-- The second file. -/
  second : JoinSide
  /-- Whether a line without a partner has been seen. -/
  sawSingle : Bool := false
  /-- The result. -/
  result : List String := []
  /-- The messages. -/
  told : List String := []

namespace JoinState

/-- The next line of a file, with a message if it is out of order. -/
def next (r : JoinRules) (isSecond : Bool) (s : JoinState) : Option JoinLine × JoinState :=
  let side := if isSecond then s.second else s.first
  match side.rest with
  | [] => (none, s)
  | line :: rest =>
    let checks := r.checks.getD s.sawSingle && !side.isTold
    let isWrong := checks && match side.last with
      | some last => r.order (side.keyOf last) (side.keyOf line) == .gt
      | none => false
    let count := side.count + 1
    let told := if isWrong then
        s.told ++ [Quote.ifNeeded side.path ++ ":" ++ toString count ++ ": is not sorted: " ++
          line.text]
      else s.told
    let side := { side with rest := rest, count := count, last := some line
                            isTold := side.isTold || isWrong }
    (some line, if isSecond then { s with second := side, told := told }
      else { s with first := side, told := told })

/-- Whether a file was out of order that has to be in order. -/
def isBroken (r : JoinRules) (s : JoinState) : Bool :=
  r.checks == some true && (s.first.isTold || s.second.isTold)

/-- A line of the result is added. -/
def add (s : JoinState) (line : String) : JoinState := { s with result := line :: s.result }

/-- The lines of a file with a common field, in at most `n` steps, and the line after them. -/
def run (r : JoinRules) (isSecond : Bool) (key : String) :
    Nat → JoinState → List JoinLine × Option JoinLine × JoinState
  | 0, s => ([], none, s)
  | n + 1, s =>
    match s.next r isSecond with
    | (none, s) => ([], none, s)
    | (some line, s) =>
      let side := if isSecond then s.second else s.first
      if r.order key (side.keyOf line) == .eq then
        let (lines, after, s) := run r isSecond key n s
        (line :: lines, after, s)
      else ([], some line, s)

/-- The files are joined, in at most `n` steps, from their current lines on; the lines that
are left. -/
def pairs (r : JoinRules) (counts : Nat × Nat) :
    Nat → Option JoinLine → Option JoinLine → JoinState →
      Option JoinLine × Option JoinLine × JoinState
  | n + 1, some a, some b, s =>
    if s.isBroken r then (none, none, s)
    else match r.order (s.first.keyOf a) (s.second.keyOf b) with
      | .lt =>
        let s := if r.showsFirst then s.add (r.joined counts (some a) none) else s
        let (a, s) := s.next r false
        pairs r counts n a (some b) { s with sawSingle := true }
      | .gt =>
        let s := if r.showsSecond then s.add (r.joined counts none (some b)) else s
        let (b, s) := s.next r true
        pairs r counts n (some a) b { s with sawSingle := true }
      | .eq =>
        let (as, nextA, s) := s.run r false (s.second.keyOf b) (s.first.rest.length + 1)
        let (bs, nextB, s) := s.run r true (s.first.keyOf a) (s.second.rest.length + 1)
        let lines := if r.showsPairs then
            (a :: as).flatMap fun x => (b :: bs).map fun y => r.joined counts (some x) (some y)
          else []
        pairs r counts n nextA nextB { s with result := lines.reverse ++ s.result }
  | _, a, b, s => (a, b, s)

/-- The lines that are left of a file, in at most `n` steps. -/
def tail (r : JoinRules) (isSecond isShown : Bool) (form : JoinLine → String) :
    Nat → JoinState → JoinState
  | 0, s => s
  | n + 1, s =>
    match s.next r isSecond with
    | (none, s) => s
    | (some line, s) =>
      let s := if isShown then s.add (form line) else s
      let isTold := if isSecond then s.second.isTold else s.first.isTold
      if s.isBroken r || isTold && !isShown then s else tail r isSecond isShown form n s

/-- The files are joined. -/
def all (r : JoinRules) (s : JoinState) : JoinState :=
  let size := s.first.rest.length + s.second.rest.length + 1
  let (a, s) := s.next r false
  let (b, s) := s.next r true
  let width (line : Option JoinLine) : Nat := (line.map fun l => l.fields.length).getD 0
  let counts := (width a, width b)
  let (a, b, s) := if r.hasHeader && (a.isSome || b.isSome) then
      let s := s.add (r.joined counts a b)
      let s := { s with first := { s.first with last := none }
                        second := { s.second with last := none } }
      let (a, s) := s.next r false
      let (b, s) := s.next r true
      (a, b, s)
    else (a, b, s)
  let (a, b, s) := s.pairs r counts size a b
  let checksTail := r.checks != some false && !(s.first.isTold && s.second.isTold)
  let s := match a with
    | some line =>
      if !s.isBroken r && (r.showsFirst || checksTail) then
        let form (l : JoinLine) : String := r.joined counts (some l) none
        let s := if r.showsFirst then s.add (form line) else s
        tail r false r.showsFirst form size { s with sawSingle := s.sawSingle || b.isSome }
      else s
    | none => s
  match b with
    | some line =>
      if !s.isBroken r && (r.showsSecond || checksTail) then
        let form (l : JoinLine) : String := r.joined counts none (some l)
        let s := if r.showsSecond then s.add (form line) else s
        tail r true r.showsSecond form size { s with sawSingle := s.sawSingle || a.isSome }
      else s
    | none => s

end JoinState

/-- The field that a text numbers, from 0. -/
def joinNumber? (text : String) : Except String Nat :=
  match Octets.number? text with
  | some (n + 1) => .ok n
  | _ => .error ("invalid field number: " ++ Quote.inWords text)

/-- The field of the result that a text chooses. -/
def joinField? (text : String) : Except String JoinField :=
  match text.toList with
  | ['0'] => .ok .common
  | '0' :: _ => .error ("invalid field specifier: " ++ Quote.inWords text)
  | c :: '.' :: cs =>
    if c == '1' || c == '2' then do return .ofFile (c == '2') (← joinNumber? (String.ofList cs))
    else .error ("invalid file number in field spec: " ++ Quote.inWords text)
  | c :: _ =>
    if c == '1' || c == '2' then .error ("invalid field specifier: " ++ Quote.inWords text)
    else .error ("invalid file number in field spec: " ++ Quote.inWords text)
  | [] => .error ("invalid file number in field spec: " ++ Quote.inWords text)

/-- The fields of the result that a list chooses. -/
def joinList (text : String) : Except String (List JoinField) :=
  (text.splitToList fun c => c == ',' || c == ' ' || c == '\t').mapM joinField?

/-- A field is set, unless it was set to another. -/
def joinKey (old : Option Nat) (n : Nat) : Except String (Option Nat) :=
  match old with
  | some m => if m == n then .ok old
    else .error ("incompatible join fields " ++ toString m ++ ", " ++ toString n)
  | none => .ok (some n)

/-- What has been read of the options. -/
structure JoinDraft where
  /-- The rules. -/
  rules : JoinRules := {}
  /-- The common field of the first file, if it was given. -/
  first : Option Nat := none
  /-- The common field of the second file, if it was given. -/
  second : Option Nat := none
  /-- What stands for missing fields, if it was given. -/
  filler : Option String := none

/-- An option is taken into account. -/
def JoinDraft.take (d : JoinDraft) (option : Char × String) : Except String JoinDraft := do
  let value := option.2
  let r := d.rules
  match option.1 with
  | 'a' | 'v' =>
    let r := if option.1 == 'v' then { r with showsPairs := false } else r
    match value with
    | "1" => return { d with rules := { r with showsFirst := true } }
    | "2" => return { d with rules := { r with showsSecond := true } }
    | _ => throw ("invalid field number: " ++ Quote.inWords value)
  | 'e' =>
    if d.filler.isSome && d.filler != some value then
      throw "conflicting empty-field replacement strings"
    return { d with filler := some value, rules := { r with filler := value } }
  | 'i' => return { d with rules := { r with ignoresCase := true } }
  | 'j' =>
    let n ← joinNumber? value
    return { d with first := ← joinKey d.first n, second := ← joinKey d.second n }
  | '1' => return { d with first := ← joinKey d.first (← joinNumber? value) }
  | '2' => return { d with second := ← joinKey d.second (← joinNumber? value) }
  | 'o' =>
    if value == "auto" then return { d with rules := { r with isAuto := true } }
    let chosen := r.chosen.getD [] ++ (← joinList value)
    return { d with rules := { r with chosen := some chosen } }
  | 't' =>
    let c ← match value.toList with
      | [] => pure '\n'
      | [c] => pure c
      | ['\\', '0'] => pure '\x00'
      | _ => throw ("multi-character tab " ++ Quote.inWords value)
    if r.separator.isSome && r.separator != some c then throw "incompatible tabs"
    return { d with rules := { r with separator := some c } }
  | 'z' => return { d with rules := { r with ending := '\x00' } }
  | '\x01' => return { d with rules := { r with checks := some true } }
  | '\x02' => return { d with rules := { r with checks := some false } }
  | '\x03' => return { d with rules := { r with hasHeader := true } }
  | _ => return d

/-- Joins lines of two files. -/
def join : Tool Nat :=
  withOptions ([{ letter := 'i', word := "ignore-case" },
    { letter := 'z', word := "zero-terminated" },
      { letter := '\x01', word := "check-order" }, { letter := '\x02', word := "nocheck-order" },
      { letter := '\x03', word := "header" }] ++ Flag.ofLetters "a:e:1:2:j:o:t:v:") 1 fun p => do
    match p.options.foldlM JoinDraft.take {} with
    | .error message => fail 1 message
    | .ok d =>
      let isList := p.has 'o' && p.get? 'o' != some "auto"
      let more := if isList then p.operands.dropLast.dropLast else []
      match more.mapM joinList, p.operands.drop more.length with
      | .error message, _ => fail 1 message
      | _, [] => misuse 1 "missing operand"
      | _, [a] => misuse 1 ("missing operand after " ++ Quote.inWords a)
      | _, _ :: _ :: extra :: _ => misuse 1 ("extra operand " ++ Quote.always extra)
      | .ok lists, [a, b] =>
        if a == "-" && b == "-" then
          return ← fail 1 ("both files cannot be standard input: " ++ FileFault.notFound.words)
        match ← contents a with
        | .error fault =>
          fail 1 ((if fault == .isDirectory then "read error" else Quote.ifNeeded a) ++ ": " ++
            fault.words)
        | .ok s =>
          match ← contents b with
          | .error fault =>
            fail 1 ((if fault == .isDirectory then "read error" else Quote.ifNeeded b) ++ ": " ++
              fault.words)
          | .ok t =>
            let r := { d.rules with
              first := d.first.getD 0
              second := d.second.getD 0
              chosen := d.rules.chosen.map fun c => c ++ lists.flatten }
            let state := JoinState.all r
              { first := { path := a, key := r.first, rest := r.linesOf s }
                second := { path := b, key := r.second, rest := r.linesOf t } }
            state.told.forM complain
            out (String.join state.result.reverse)
            if state.first.isTold || state.second.isTold then
              if r.checks != some true then complain "input is not in sorted order"
              return 1
            return 0

end CompileOrder.Shell.Utility
