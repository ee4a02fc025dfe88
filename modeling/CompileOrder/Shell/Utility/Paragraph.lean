import CompileOrder.Shell.Utility.Reading

/-!
# Filling paragraphs

The words of lines with the same indentation are set in lines of nearly the same length.
Where lines end is chosen so that the costs of all lines together are least: a line costs
the more, the further it is from the width that is aimed at and the more it differs from
the line after it; ends of sentences are good places to break, and lines should not begin
or end with single words of a sentence.
-/

namespace CompileOrder.Shell.Utility

open Tool

/-- A word of a paragraph. -/
structure FilledWord where
  /-- The word. -/
  text : String
  /-- The number of blanks after it. -/
  space : Nat
  /-- Whether it begins with an opening mark. -/
  opens : Bool
  /-- Whether it ends in a mark. -/
  isMarked : Bool
  /-- Whether it ends like a sentence. -/
  hasPeriod : Bool
  /-- Whether it ends a sentence. -/
  isFinal : Bool
  deriving Inhabited

/-- How paragraphs are filled. -/
structure FillRules where
  /-- The greatest width of a line. -/
  limit : Nat := 75
  /-- The width that is aimed at. -/
  goal : Nat := 70
  /-- Whether the first two lines may have indentations of their own. -/
  isCrown : Bool := false
  /-- Whether the first line has another indentation than the second one. -/
  isTagged : Bool := false
  /-- Whether lines are split only. -/
  splits : Bool := false
  /-- Whether blanks between words are made alike. -/
  isUniform : Bool := false
  /-- The number of blanks that lines begin with, at least. -/
  lead : Nat := 0
  /-- What lines begin with after blanks. -/
  mark : String := ""
  /-- The length of the mark with the blanks at its end. -/
  fullMark : Nat := 0

/-- A line of the input. -/
structure FilledLine where
  /-- The number of blanks before the mark. -/
  before : Nat
  /-- The column of the text. -/
  column : Nat
  /-- The text. -/
  rest : List Char
  /-- Whether a line feed ends it. -/
  isEnded : Bool
  /-- Whether there are tabulators among the blanks before the text. -/
  hasTab : Bool

namespace FillRules

/-- The column after blanks, and the characters after them. -/
def afterBlanks : List Char → Nat → Nat × List Char
  | ' ' :: cs, n => afterBlanks cs (n + 1)
  | '\t' :: cs, n => afterBlanks cs ((n / 8 + 1) * 8)
  | cs, n => (n, cs)

/-- Characters that begin with a mark, as far as they do: the number that agree, and those
after them. -/
def alongMark : List Char → List Char → Nat → Nat × List Char
  | m :: ms, c :: cs, n => if m == c then alongMark ms cs (n + 1) else (n, c :: cs)
  | _, cs, n => (n, cs)

/-- A line of the input is taken apart. -/
def line (r : FillRules) (text : String) : FilledLine :=
  let cs := text.toList
  let isEnded := cs.getLast? == some '\n'
  let cs := if isEnded then cs.dropLast else cs
  let hasTab := (cs.takeWhile fun c => c == ' ' || c == '\t').contains '\t'
  let (column, rest) := afterBlanks cs 0
  if r.mark.isEmpty then ⟨min r.lead column, column, rest, isEnded, hasTab⟩
  else
    let (n, after) := alongMark r.mark.toList rest 0
    if n < r.mark.length then ⟨column, column + n, after, isEnded, hasTab⟩
    else
      let (stop, after) := afterBlanks after (column + n)
      ⟨column, stop, after, isEnded, hasTab⟩

/-- Whether a line has a text that can be filled. -/
def isFillable (r : FillRules) (l : FilledLine) : Bool :=
  !l.rest.isEmpty && r.lead ≤ l.before && l.before + r.fullMark ≤ l.column

/-- The word that characters are; it is followed by a number of blanks, or by the end of the
line or of the input. -/
def word (r : FillRules) (cs : List Char) (space : Nat) (isLast isEnd : Bool) : FilledWord :=
  let body := (cs.reverse.dropWhile fun c => ")]'\"".toList.contains c).reverse
  let final := (body.getLast?.getD (cs.headD ' '))
  let hasPeriod := ".?!".toList.contains final
  let isFinal := isEnd || (hasPeriod && (isLast || 1 < space))
  { text := String.ofList cs
    space := if isLast || r.isUniform then if isFinal then 2 else 1 else space
    opens := "(['\x60\"".toList.contains (cs.headD ' ')
    isMarked := match cs.getLast? with
      | some c => Octets.isPrint c && !c.isAlphanum && c != ' '
      | none => false
    hasPeriod := hasPeriod
    isFinal := isFinal }

/-- The words of a line from a column on, in at most `n` steps. -/
def words (r : FillRules) (isEnded : Bool) : Nat → Nat → List Char → List FilledWord
  | 0, _, _ => []
  | _ + 1, _, [] => []
  | n + 1, column, c :: cs =>
    let body := c :: cs.takeWhile fun c => !Octets.isSpace c
    let start := column + body.length
    let (stop, after) := afterBlanks (cs.drop (body.length - 1)) start
    let isLast := after.isEmpty
    r.word body (stop - start) isLast (isLast && !isEnded) :: words r isEnded n stop after

end FillRules

/-- The way to break the words from one on: its cost, the word that the next line begins
with, and the length of the line. -/
structure LineBreak where
  /-- The cost. -/
  cost : Int := 0
  /-- The word that the next line begins with. -/
  next : Nat := 0
  /-- The length of the line. -/
  length : Nat := 0
  deriving Inhabited

namespace FillRules

/-- The square of a number. -/
def square (n : Int) : Int := n * n

/-- What a line that begins with a word costs, whatever its length is. -/
def baseCost (words : Array FilledWord) (i : Nat) : Int :=
  let this := words.getD i default
  let before := words.getD (i - 1) default
  let cost : Int := square 70
  let cost := if i == 0 then cost
    else if before.hasPeriod then
      if before.isFinal then cost - square 50 else cost + square 600
    else if before.isMarked then cost - square 40
    else if 1 < i && (words.getD (i - 2) default).isFinal then
      cost + square 200 / (before.text.length + 2)
    else cost
  if this.opens then cost - square 40
  else if this.isFinal then cost + square 150 / (this.text.length + 2)
  else cost

/-- What a line of a length costs before the line that begins with a word. -/
def lineCost (r : FillRules) (count : Nat) (breaks : Array LineBreak) (next length : Nat) : Int :=
  if next == count then 0
  else
    let cost := square (((r.goal : Int) - length) * 10)
    let after := breaks.getD next default
    if after.next == count then cost
    else cost + square (((length : Int) - after.length) * 10) / 2

/-- The best end of a line that has a length up to a word, in at most `n` steps. -/
def bestBreak (r : FillRules) (words : Array FilledWord) (breaks : Array LineBreak) :
    Nat → Nat → Nat → Option LineBreak → LineBreak
  | 0, _, _, best => best.getD default
  | n + 1, next, length, best =>
    let cost := r.lineCost words.size breaks next length + (breaks.getD next default).cost
    let here : LineBreak := ⟨cost, next, length⟩
    let best := match best with
      | some b => if cost < b.cost then here else b
      | none => here
    if next == words.size then best
    else
      let length := length + (words.getD (next - 1) default).space +
        (words.getD next default).text.length
      if length < r.limit then bestBreak r words breaks n (next + 1) length (some best) else best

/-- The best ways to break the words, from the last word on to the first. -/
def breaks (r : FillRules) (first other : Nat) (words : Array FilledWord) : Array LineBreak :=
  (List.range words.size).foldl (fun breaks k =>
    let i := words.size - 1 - k
    let start := (if i == 0 then first else other) + (words.getD i default).text.length
    let best := r.bestBreak words breaks (words.size + 1) (i + 1) start none
    breaks.setIfInBounds i { best with cost := best.cost + baseCost words i })
    (Array.replicate (words.size + 1) default)

/-- Blanks from a column on, with tabulators if the input has them; the text and the column
after them. -/
def blanks (hasTabs : Bool) (column count : Nat) : String :=
  let target := column + count
  let stop := target / 8 * 8
  if hasTabs && column + 1 < stop then
    String.ofList (List.replicate (stop / 8 - column / 8) '\t' ++
      List.replicate (target - stop) ' ')
  else String.ofList (List.replicate count ' ')

/-- A line with words from a column on. -/
def joinWords (hasTabs : Bool) : Nat → List FilledWord → String
  | _, [] => ""
  | _, [w] => w.text
  | column, w :: ws =>
    let column := column + w.text.length
    w.text ++ blanks hasTabs column w.space ++ joinWords hasTabs (column + w.space) ws

/-- A line with words, the blanks and the mark before it. -/
def setLine (r : FillRules) (hasTabs : Bool) (before indent : Nat) (ws : List FilledWord) :
    String :=
  let marked := before + r.mark.length
  blanks hasTabs 0 before ++ r.mark ++ blanks hasTabs marked (indent - marked) ++
    joinWords hasTabs (max indent marked) ws ++ "\n"

/-- The lines of a paragraph, in at most `n` steps. -/
def setLines (r : FillRules) (hasTabs : Bool) (before other : Nat) (words : Array FilledWord)
    (breaks : Array LineBreak) : Nat → Nat → Nat → String
  | 0, _, _ => ""
  | n + 1, start, indent =>
    if words.size ≤ start then ""
    else
      let next := max (start + 1) (breaks.getD start default).next
      r.setLine hasTabs before indent (words.extract start next).toList ++
        setLines r hasTabs before other words breaks n next other

/-- A line that is not filled. -/
def copied (r : FillRules) (hasTabs : Bool) (l : FilledLine) : String :=
  let start := if l.before < l.column || !l.rest.isEmpty then
      let mark := r.mark.toList.take (l.column - l.before)
      let column := l.before + mark.length
      blanks hasTabs 0 l.before ++ String.ofList mark ++
        (if l.rest.isEmpty then "" else blanks hasTabs column (l.column - column)) ++
        (if l.rest.isEmpty && !l.isEnded && l.before + r.mark.length ≤ l.column then "\n" else "")
    else ""
  start ++ String.ofList l.rest ++ (if l.isEnded then "\n" else "")

/-- The words of a line. -/
def wordsOf (r : FillRules) (l : FilledLine) : List FilledWord :=
  r.words l.isEnded (l.rest.length + 1) l.column l.rest

/-- Whether there are tabulators between the words of a line. -/
def hasInnerTab (l : FilledLine) : Bool := l.rest.contains '\t'

/-- The paragraphs of lines, in at most `n` steps; `other` is the indentation of the lines
after the first one in the last paragraph. -/
def fill (r : FillRules) : Nat → Bool → Nat → List FilledLine → String
  | 0, _, _, _ => ""
  | _ + 1, _, _, [] => ""
  | n + 1, hasTabs, other, l :: ls =>
    let hasTabs := hasTabs || l.hasTab
    if !r.isFillable l then r.copied hasTabs l ++ fill r n hasTabs other ls
    else
      let isSame (k : FilledLine) : Bool := r.isFillable k && k.before == l.before
      let next := ls.head?
      let follows := match next with
        | some k => isSame k
        | none => false
      let column := (next.map fun k => k.column).getD 0
      let other := if r.splits then l.column
        else if r.isCrown then if follows then column else l.column
        else if r.isTagged then
          if follows && column != l.column then column
          else if other == l.column then if l.column == 0 then 3 else 0 else other
        else l.column
      let more := if r.splits then []
        else if r.isCrown then if follows then ls.takeWhile fun k => isSame k && k.column == other
          else []
        else if r.isTagged then
          if follows && column != l.column then ls.takeWhile fun k => isSame k && k.column == other
          else []
        else ls.takeWhile fun k => isSame k && k.column == other
      let rest := ls.drop more.length
      let hasTabs := hasTabs || hasInnerTab l ||
        more.any (fun k => k.hasTab || hasInnerTab k) ||
        ((rest.head?.map fun k => k.hasTab).getD false)
      let words := (l :: more).flatMap r.wordsOf
      let words := match words.reverse with
        | w :: ws => ({ w with hasPeriod := true, isFinal := true } :: ws).reverse
        | [] => []
      let words := words.toArray
      r.setLines hasTabs l.before other words (r.breaks l.column other words) (words.size + 1) 0
        l.column ++ fill r n hasTabs other rest

/-- A text with its paragraphs filled. -/
def text (r : FillRules) (t : String) : String :=
  let lines := (pieces t).map r.line
  r.fill (lines.length + 1) false 0 lines

end FillRules

/-- The width that a text gives, up to a limit. -/
def fillWidth (limit : Nat) (text : String) : Except String Nat :=
  match Octets.number? text with
  | none => .error ("invalid width: " ++ Quote.inWords text)
  | some n =>
    if n ≤ limit then .ok n
    else .error ("invalid width: " ++ Quote.inWords text ++ ": Numerical result out of range")

/-- The greatest width of a line and the width that is aimed at. -/
def fillWidths (width goal : Option String) : Except String (Nat × Nat) := do
  match width, goal with
  | none, none => return (75, 75 * 187 / 200)
  | some w, none =>
    let limit ← fillWidth 2500 w
    return (limit, limit * 187 / 200)
  | none, some g =>
    let goal ← fillWidth 75 g
    return (goal + 10, goal)
  | some w, some g =>
    let limit ← fillWidth 2500 w
    return (limit, ← fillWidth limit g)

/-- Fills paragraphs. -/
def fmt : Tool Nat := do
  let words ← args
  let words := match words with
    | w :: rest =>
      let digits := Octets.dropFirst 1 w
      if w.toList.head? == some '-' && (Octets.number? digits).isSome then "-w" :: digits :: rest
      else words
    | [] => []
  match Flag.parse [{ letter := 'c', word := "crown-margin" },
      { letter := 't', word := "tagged-paragraph" }, { letter := 's', word := "split-only" },
      { letter := 'u', word := "uniform-spacing" },
      { letter := 'w', word := "width", takes := .required },
      { letter := 'g', word := "goal", takes := .required },
      { letter := 'p', word := "prefix", takes := .required }] words with
  | .error message => misuse 1 message
  | .ok p =>
    match fillWidths (p.get? 'w') (p.get? 'g') with
    | .error message => fail 1 message
    | .ok (limit, goal) =>
      let mark := (p.get? 'p').getD ""
      let bare := Octets.dropFirst (mark.toList.takeWhile fun c => c == ' ').length mark
      let trimmed := String.ofList (bare.toList.reverse.dropWhile fun c => c == ' ').reverse
      let r : FillRules :=
        { limit := limit
          goal := goal
          isCrown := p.has 'c', isTagged := p.has 't', splits := p.has 's'
          isUniform := p.has 'u'
          lead := mark.length - bare.length
          mark := trimmed
          fullMark := bare.length }
      each (orInput p.operands) fun path => do
        match ← contents path with
        | .ok text =>
          out (r.text text)
          return 0
        | .error .isDirectory => fail 1 "read error"
        | .error fault =>
          fail 1 ("cannot open " ++ Quote.always path ++ " for reading: " ++ fault.words)

end CompileOrder.Shell.Utility
