import CompileOrder.Shell.Utility.Reading

/-!
# Utilities that compare lines

Lines in order, without repetitions, and lines that two files have in common.
-/

namespace CompileOrder.Shell.Utility

open Tool

/-- How keys are compared. -/
structure Collation where
  /-- As numbers. -/
  isNumeric : Bool := false
  /-- The other way round. -/
  isReversed : Bool := false
  /-- Letters in upper case. -/
  isFolded : Bool := false
  /-- Without blanks at the start. -/
  skipsBlanks : Bool := false
  /-- Only blanks, letters and digits count. -/
  isDictionary : Bool := false
  /-- Only characters that show count. -/
  isPrintable : Bool := false
  /-- By the names of months. -/
  isMonth : Bool := false
  /-- As numbers with units. -/
  isHuman : Bool := false
  /-- As versions. -/
  isVersion : Bool := false
  deriving DecidableEq, Repr

/-- The letters that say how keys are compared. -/
def Collation.letters : String := "bdfghiMnRrV"

/-- The order with what a letter says. -/
def Collation.add (o : Collation) (c : Char) : Collation :=
  match c with
  | 'n' | 'g' => { o with isNumeric := true }
  | 'r' => { o with isReversed := true }
  | 'f' => { o with isFolded := true }
  | 'b' => { o with skipsBlanks := true }
  | 'd' => { o with isDictionary := true }
  | 'i' => { o with isPrintable := true }
  | 'M' => { o with isMonth := true }
  | 'h' => { o with isHuman := true }
  | 'V' => { o with isVersion := true }
  | _ => o

/-- A part of lines that is compared. -/
structure SortKey where
  /-- The first field, from nought on. -/
  field : Nat := 0
  /-- The first character in it, from nought on. -/
  offset : Nat := 0
  /-- The last field and character; a character of nought is the end of the field. -/
  last : Option (Nat × Nat) := none
  /-- How it is compared. -/
  collation : Collation := {}
  /-- Whether blanks are skipped before the first character is counted. -/
  skipsStart : Bool := false
  /-- Whether blanks are skipped before the last character is counted. -/
  skipsEnd : Bool := false
  /-- Whether the order is its own. -/
  hasOwnCollation : Bool := false
  deriving DecidableEq, Repr

/-- One end of a key: a field, a character, and letters. -/
def keyEnd? (cs : List Char) : Option (Nat × Nat × List Char × List Char) :=
  let field := cs.takeWhile Char.isDigit
  let cs := cs.drop field.length
  let (offset, cs) := match cs with
    | '.' :: cs => (cs.takeWhile Char.isDigit, cs.dropWhile Char.isDigit)
    | cs => ([], cs)
  let letters := cs.takeWhile fun c => Collation.letters.toList.contains c
  if field.isEmpty then none
  else some (Octets.number field, Octets.number offset, letters, cs.drop letters.length)

/-- The key that a text describes. -/
def SortKey.ofText? (text : String) : Option SortKey := do
  let (field, offset, letters, rest) ← keyEnd? text.toList
  if field == 0 then none
  let collation := letters.foldl Collation.add {}
  let key : SortKey := {
    field := field - 1
    offset := offset - 1
    collation := collation
    skipsStart := letters.contains 'b'
    hasOwnCollation := !letters.isEmpty }
  match rest with
  | [] => return key
  | ',' :: rest =>
    let (field, offset, letters, rest) ← keyEnd? rest
    if !rest.isEmpty || field == 0 then none
    return { key with
      last := some (field - 1, offset)
      collation := letters.foldl Collation.add key.collation
      skipsEnd := letters.contains 'b'
      hasOwnCollation := key.hasOwnCollation || !letters.isEmpty }
  | _ => none

/-- A blank, a tabulator or a line feed. -/
def isBlank (c : Char) : Bool := c == ' ' || c == '\t' || c == '\n'

/-- The characters from a field on; without a separator a field has the blanks before it. -/
def fromField (separator : Option Char) : Nat → List Char → List Char
  | 0, cs => cs
  | n + 1, cs =>
    match separator with
    | some s =>
      match cs.dropWhile fun c => c != s with
      | [] => []
      | _ :: rest => fromField separator n rest
    | none => fromField separator n ((cs.dropWhile isBlank).dropWhile fun c => !isBlank c)

/-- The end of the field that the characters begin with. -/
def afterField (separator : Option Char) (cs : List Char) : List Char :=
  match separator with
  | some s => cs.dropWhile fun c => c != s
  | none => (cs.dropWhile isBlank).dropWhile fun c => !isBlank c

/-- The characters of a line that a key is. -/
def SortKey.of (key : SortKey) (separator : Option Char) (line : List Char) : List Char :=
  let start := fromField separator key.field line
  let start := (if key.skipsStart then start.dropWhile isBlank else start).drop key.offset
  match key.last with
  | none => start
  | some (field, count) =>
    let there := fromField separator field line
    let rest := if count == 0 then afterField separator there
      else (if key.skipsEnd then there.dropWhile isBlank else there).drop count
    start.take (start.length - rest.length)

/-- The number that characters begin with: its sign, its digits before and after the point. -/
def leadingNumber (cs : List Char) : Int × Nat × List Char :=
  let cs := cs.dropWhile isBlank
  let (isNegative, cs) := match cs with
    | '-' :: cs => (true, cs)
    | cs => (false, cs)
  let whole := cs.takeWhile Char.isDigit
  let rest := cs.drop whole.length
  let (part, rest) := match rest with
    | '.' :: rest => (rest.takeWhile Char.isDigit, rest.dropWhile Char.isDigit)
    | rest => ([], rest)
  let n : Int := Octets.number (whole ++ part)
  (if isNegative then -n else n, part.length, rest)

/-- The order of two numbers with places after the point. -/
def compareNumbers (a b : Int × Nat × List Char) : Ordering :=
  compare (a.1 * (Nat.pow 10 b.2.1 : Nat)) (b.1 * (Nat.pow 10 a.2.1 : Nat))

/-- The order of two texts. -/
def compareTexts : List Char → List Char → Ordering
  | [], [] => .eq
  | [], _ :: _ => .lt
  | _ :: _, [] => .gt
  | a :: as, b :: bs => (compare a.toNat b.toNat).then (compareTexts as bs)

/-- The month that characters begin with, from one on. -/
def month (cs : List Char) : Nat :=
  let name := String.ofList (((cs.dropWhile isBlank).take 3).map Char.toUpper)
  (["JAN", "FEB", "MAR", "APR", "MAY", "JUN", "JUL", "AUG", "SEP", "OCT", "NOV",
    "DEC"].idxOf? name).elim 0
    (· + 1)

/-- The rank of the unit after a number. -/
def unitRank (rest : List Char) : Nat :=
  match rest.head? with
  | some 'k' => 1
  | some c => ("KMGTPEZY".toList.idxOf? c).elim 0 (· + 1)
  | none => 0

/-- The order of two numbers with units. -/
def compareHuman (a b : Int × Nat × List Char) : Ordering :=
  let signOf (n : Int) : Int := if n < 0 then -1 else if n == 0 then 0 else 1
  let rank (x : Int × Nat × List Char) : Int := signOf x.1 * unitRank x.2.2
  (compare (signOf a.1) (signOf b.1)).then ((compare (rank a) (rank b)).then (compareNumbers a b))

/-- The rank of a character in a version. -/
def versionRank (c : Char) : Int :=
  if c == '~' then -1 else if c.isAlpha then c.toNat else c.toNat + 256

/-- The order of two versions, compared in at most `n` steps. -/
def compareVersions : Nat → List Char → List Char → Ordering
  | 0, _, _ => .eq
  | _ + 1, [], [] => .eq
  | n + 1, as, bs =>
    let digits (cs : List Char) : List Char := cs.takeWhile Char.isDigit
    match as, bs with
    | a :: as', b :: bs' =>
      if a.isDigit && b.isDigit then
        let x := digits as
        let y := digits bs
        (compare (Octets.number x) (Octets.number y)).then
          (compareVersions n (as.drop x.length) (bs.drop y.length))
      else if a.isDigit || b.isDigit then
        let rank (c : Char) : Int := if c.isDigit then 0 else versionRank c
        compare (rank a) (rank b)
      else (compare (versionRank a) (versionRank b)).then (compareVersions n as' bs')
    | a :: _, [] => if a == '~' then .lt else .gt
    | [], b :: _ => if b == '~' then .gt else .lt
    | [], [] => .eq

/-- The order of two keys. -/
def Collation.compareKeys (o : Collation) (a b : List Char) : Ordering :=
  let order :=
    if o.isNumeric then compareNumbers (leadingNumber a) (leadingNumber b)
    else if o.isHuman then compareHuman (leadingNumber a) (leadingNumber b)
    else if o.isMonth then compare (month a) (month b)
    else
      let prepare (cs : List Char) : List Char :=
        let cs := if o.skipsBlanks then cs.dropWhile isBlank else cs
        let cs := if o.isDictionary then cs.filter fun c => isBlank c || c.isAlphanum else cs
        let cs := if o.isPrintable then cs.filter Octets.isPrint else cs
        if o.isFolded then cs.map Char.toUpper else cs
      let x := prepare a
      let y := prepare b
      if o.isVersion then compareVersions (x.length + y.length + 1) x y else compareTexts x y
  if o.isReversed then order.swap else order

/-- How lines are put in order. -/
structure SortRule where
  /-- The character between fields. -/
  separator : Option Char
  /-- The keys. -/
  keys : List SortKey
  /-- The order of whole lines, and of keys without one of their own. -/
  whole : Collation
  /-- Whether lines with the same keys are compared as a whole. -/
  hasLastResort : Bool

/-- The order of two lines by the keys alone. -/
def SortRule.compareByKeys (r : SortRule) (a b : List Char) : Ordering :=
  if r.keys.isEmpty then r.whole.compareKeys a b
  else r.keys.foldl (fun order key =>
    order.then (
      let collation := if key.hasOwnCollation then key.collation else r.whole
      let key := if key.hasOwnCollation then key
        else { key with skipsStart := r.whole.skipsBlanks, skipsEnd := r.whole.skipsBlanks }
      collation.compareKeys (key.of r.separator a) (key.of r.separator b))) .eq

/-- The order of two lines. -/
def SortRule.compareLines (r : SortRule) (a b : List Char) : Ordering :=
  (r.compareByKeys a b).then (
    if !r.hasLastResort then .eq
    else
      let order := compareTexts a b
      if r.whole.isReversed then order.swap else order)

/-- The lines without those that are the same as the one before. -/
def SortRule.distinct (r : SortRule) : List (List Char) → List (List Char)
  | a :: b :: rest =>
    if (r.compareByKeys a b).isEq then r.distinct (a :: rest) else a :: r.distinct (b :: rest)
  | rest => rest
  termination_by lines => lines.length

/-- The first line that is out of order, with its number. -/
def SortRule.disorder? (r : SortRule) (isUnique : Bool) : Nat → List (List Char) →
    Option (Nat × List Char)
  | n, a :: b :: rest =>
    let order := r.compareLines a b
    if order.isGT || (isUnique && order.isEq) then some (n + 1, b)
    else r.disorder? isUnique (n + 1) (b :: rest)
  | _, _ => none

/-- Shows lines in order. -/
def sort : Tool Nat :=
  withOptions ([{ letter := 'c', word := "check", takes := .nothing }, { letter := 'C' },
      { letter := 'k', word := "key", takes := .required }, { letter := 'm', word := "merge" },
      { letter := 'o', word := "output", takes := .required }, { letter := 's', word := "stable" },
      { letter := 'S', takes := .required }, { letter := 'T', takes := .required },
      { letter := 't', word := "field-separator", takes := .required },
      { letter := 'u', word := "unique" },
      { letter := 'z', word := "zero-terminated" }, { letter := 'n', word := "numeric-sort" },
      { letter := 'r', word := "reverse" }, { letter := 'f', word := "ignore-case" },
      { letter := 'b', word := "ignore-leading-blanks" },
      { letter := 'h', word := "human-numeric-sort" },
      { letter := 'V', word := "version-sort" }, { letter := 'M', word := "month-sort" },
      { letter := '\x01', word := "parallel", takes := .required }] ++
      Flag.ofLetters "dgiR") 2 fun p => do
    let fields := p.options.filterMap fun o => if o.1 == 'k' then some o.2 else none
    match fields.find? fun f => (SortKey.ofText? f).isNone with
    | some f =>
      if (f.toList.headD 'x').isDigit then
        fail 2 ("field number is zero: invalid field specification " ++ Quote.inWords f)
      else fail 2 ("invalid number at field start: invalid count at start of " ++ Quote.inWords f)
    | none =>
      let separator := match p.get? 't' with
        | some "\\0" => some '\x00'
        | some t => t.toList.head?
        | none => none
      match p.get? 't' with
      | some t =>
        if t.isEmpty then return ← fail 2 "empty tab"
        if 1 < t.length && t != "\\0" then
          return ← fail 2 ("multi-character tab " ++ Quote.inWords t)
      | none => pure ()
      let whole := p.options.foldl (fun o x => Collation.add o x.1) {}
      let rule : SortRule := {
        separator := separator
        keys := fields.filterMap SortKey.ofText?
        whole := whole
        hasLastResort := !p.has 's' && !p.has 'u' }
      let mut texts : List String := []
      for path in orInput p.operands do
        match ← contents path with
        | .ok text => texts := texts ++ [text]
        | .error fault =>
          if fault == .isDirectory then
            return ← fail 2 ("read failed: " ++ Quote.ifNeeded path ++ ": " ++ fault.words)
          return ← fail 2 ("cannot read: " ++ Quote.ifNeeded path ++ ": " ++ fault.words)
      let lines := (texts.flatMap Octets.lines).map String.toList
      if p.has 'c' || p.has 'C' then
        match rule.disorder? (p.has 'u') 1 lines with
        | none => return 0
        | some (n, line) =>
          if p.has 'C' then return 1
          let path := (orInput p.operands).headD "-"
          fail 1 (path ++ ":" ++ toString n ++ ": disorder: " ++ String.ofList line)
      else
        let sorted := lines.mergeSort fun a b => (rule.compareLines a b).isLE
        let sorted := if p.has 'u' then rule.distinct sorted else sorted
        let text := String.join (sorted.map fun l => String.ofList l ++ "\n")
        match p.get? 'o' with
        | none =>
          out text
          return 0
        | some path =>
          match (← get).writeFile path (Octets.toBytes text) with
          | .ok m =>
            set m
            return 0
          | .error fault => fail 2 ("open failed: " ++ Quote.ifNeeded path ++ ": " ++ fault.words)

/-- Lines that are the same one after the other. -/
def runsOf (key : String → String) : List String → List (List String)
  | [] => []
  | line :: rest =>
    match runsOf key rest with
    | (next :: group) :: groups =>
      if key line == key next then (line :: next :: group) :: groups
      else [line] :: (next :: group) :: groups
    | groups => [line] :: groups

/-- Shows lines without repetitions. -/
def uniq : Tool Nat :=
  withOptions [{ letter := 'c', word := "count" }, { letter := 'd', word := "repeated" },
      { letter := 'D' }, { letter := 'f', word := "skip-fields", takes := .required },
      { letter := 'i', word := "ignore-case" },
      { letter := 's', word := "skip-chars", takes := .required },
      { letter := 'u', word := "unique" },
      { letter := 'w', word := "check-chars", takes := .required },
      { letter := 'z' }] 1 fun p => do
    let number (c : Char) : Option Nat := (p.get? c).bind Octets.number?
    match p.operands with
    | _ :: _ :: extra :: _ => misuse 1 ("extra operand " ++ Quote.inWords extra)
    | operands =>
      let path := operands.headD "-"
      match ← contents path with
      | .error .isDirectory => fail 1 ("error reading " ++ Quote.always path)
      | .error fault => fail 1 (Quote.ifNeeded path ++ ": " ++ fault.words)
      | .ok text =>
        let key (line : String) : String :=
          let cs := (fromField none ((number 'f').getD 0) line.toList).drop ((number 's').getD 0)
          let cs := match number 'w' with
            | some n => cs.take n
            | none => cs
          String.ofList (if p.has 'i' then cs.map Char.toUpper else cs)
        let groups := runsOf key (Octets.lines text)
        let shown := groups.flatMap fun group =>
          let isRepeated := 1 < group.length
          if p.has 'D' then if isRepeated then group else []
          else if (p.has 'd' && !isRepeated) || (p.has 'u' && isRepeated) then []
          else
            let line := group.headD ""
            [if p.has 'c' then Octets.padLeft 7 (toString group.length) ++ " " ++ line else line]
        match operands[1]? with
        | none | some "-" =>
          outLines shown
          return 0
        | some target =>
          match (← get).writeFile target
            (Octets.toBytes (String.join (shown.map fun l => l ++ "\n"))) with
          | .ok m =>
            set m
            return 0
          | .error fault => fail 1 (Quote.ifNeeded target ++ ": " ++ fault.words)

/-- The lines of two files in order, each with the column it belongs to. -/
def merge : Nat → List String → List String → List (Nat × String)
  | 0, _, _ => []
  | _ + 1, [], [] => []
  | n + 1, a :: as, [] => (1, a) :: merge n as []
  | n + 1, [], b :: bs => (2, b) :: merge n [] bs
  | n + 1, a :: as, b :: bs =>
    if a == b then (3, a) :: merge n as bs
    else if a < b then (1, a) :: merge n as (b :: bs)
    else (2, b) :: merge n (a :: as) bs

/-- Shows which lines two files have in common. -/
def comm : Tool Nat :=
  withOptions (Flag.ofLetters "123z" ++ [{ letter := '\x01', word := "nocheck-order" },
      { letter := '\x02', word := "check-order" },
      { letter := '\x03', word := "output-delimiter", takes := .required }]) 1 fun p => do
    match p.operands with
    | [] => misuse 1 "missing operand"
    | [one] => misuse 1 ("missing operand after " ++ Quote.inWords one)
    | _ :: _ :: extra :: _ => misuse 1 ("extra operand " ++ Quote.inWords extra)
    | [a, b] =>
      match ← contents a, ← contents b with
      | .error fault, _ => fail 1 (Quote.ifNeeded a ++ ": " ++ fault.words)
      | _, .error fault => fail 1 (Quote.ifNeeded b ++ ": " ++ fault.words)
      | .ok s, .ok t =>
        let delimiter := (p.get? '\x03').getD "\t"
        let columns := [1, 2, 3].filter fun n => !p.has (Char.ofNat (48 + n))
        let as := Octets.lines s
        let bs := Octets.lines t
        let rows := (merge (as.length + bs.length + 1) as bs).filter fun r => columns.contains r.1
        outLines (rows.map fun (n, line) =>
          String.join ((columns.filter fun c => c < n).map fun _ => delimiter) ++ line)
        return 0

end CompileOrder.Shell.Utility
