import CompileOrder.Shell.Octets

/-!
# Patterns

In a pattern an asterisk stands for any text, a question mark for any character, and
brackets for one of some characters. A bracket that is not closed stands for itself,
and so does a character that is quoted or follows a backslash.
-/

namespace CompileOrder.Shell

/-- A character of a text in which some characters are quoted. -/
structure Glyph where
  /-- The character. -/
  char : Char
  /-- Whether it stands for itself. -/
  isQuoted : Bool
  deriving DecidableEq, Repr

/-- The characters of a text, all quoted or none. -/
def Glyph.ofText (s : String) (quoted : Bool) : List Glyph :=
  s.toList.map fun c => ⟨c, quoted⟩

/-- The text of some characters. -/
def Glyph.toText (gs : List Glyph) : String := String.ofList (gs.map fun g => g.char)

namespace Pattern

/-- The order of octets as signed numbers. -/
def signed (c : Char) : Int := if c.toNat < 128 then c.toNat else (c.toNat : Int) - 256

/-- A member of a set of characters. -/
inductive Member where
  /-- The characters from one to another. -/
  | range (low high : Char)
  /-- The characters of a class. -/
  | ofClass (p : Char → Bool)

/-- Whether the character is the member or belongs to it. -/
def Member.holds (c : Char) : Member → Bool
  | .range low high => signed low ≤ signed c && signed c ≤ signed high
  | .ofClass p => p c

/-- A part of a pattern. -/
inductive Item where
  /-- One character. -/
  | char (c : Char)
  /-- Any one character. -/
  | any
  /-- Any text. -/
  | star
  /-- One character of a set, or one that is not in it. -/
  | set (isInverted : Bool) (members : List Member)

/-- The classes of characters with their names. -/
def classes : List (String × (Char → Bool)) :=
  [("alnum", Char.isAlphanum), ("alpha", Char.isAlpha),
    ("blank", fun c => c == ' ' || c == '\t'),
    ("cntrl", fun c => c.toNat < 32 || c.toNat == 127), ("digit", Char.isDigit),
    ("graph", fun c => Octets.isPrint c && c != ' '), ("lower", Char.isLower),
      ("print", Octets.isPrint),
    ("punct", fun c => Octets.isPrint c && c != ' ' && !c.isAlphanum), ("space", Octets.isSpace),
    ("upper", Char.isUpper),
    ("xdigit", fun c => c.isDigit || ('a' ≤ c && c ≤ 'f') || ('A' ≤ c && c ≤ 'F'))]

/-- The class that a text names between colons and a bracket, and the text after it. -/
def classOf? (gs : List Glyph) : Option ((Char → Bool) × List Glyph) :=
  classes.findSome? fun (name, p) =>
    let word := (":" ++ name ++ ":]").toList
    if word.isPrefixOf (gs.map fun g => g.char) then some (p, gs.drop word.length) else none

/-- The characters without the backslashes that quote the character after them. -/
def unescape : List Glyph → List Glyph
  | ⟨'\\', false⟩ :: g :: gs => ⟨g.char, true⟩ :: unescape gs
  | g :: gs => g :: unescape gs
  | [] => []

/-- The members of a set up to the bracket that closes it, and what follows. -/
def members? : Nat → List Glyph → Option (List Member × List Glyph)
  | 0, _ => none
  | _ + 1, [] => none
  | n + 1, g :: gs =>
    let continued (m : Member) (rest : List Glyph) : Option (List Member × List Glyph) :=
      match rest with
      | ⟨']', false⟩ :: rest => some ([m], rest)
      | rest => (members? n rest).map fun (ms, rest) => (m :: ms, rest)
    let single : Option (List Member × List Glyph) :=
      match gs with
      | ⟨'-', false⟩ :: high :: rest =>
        if high.char == ']' && !high.isQuoted then continued (.range g.char g.char) gs
        else continued (.range g.char high.char) rest
      | gs => continued (.range g.char g.char) gs
    if g.char == '[' && !g.isQuoted then
      match classOf? gs with
      | some (p, rest) => continued (.ofClass p) rest
      | none => single
    else single

/-- The set after an opening bracket, and what follows it. -/
def set? (gs : List Glyph) : Option (Item × List Glyph) :=
  let isInverted := gs.head? == some ⟨'!', false⟩
  let gs := if isInverted then gs.tail else gs
  (members? (gs.length + 1) gs).map fun (ms, rest) => (.set isInverted ms, rest)

/-- The parts of a pattern, of which there are at most `n`. -/
def itemsFrom : Nat → List Glyph → List Item
  | 0, _ => []
  | _ + 1, [] => []
  | n + 1, g :: gs =>
    if g.isQuoted then .char g.char :: itemsFrom n gs
    else if g.char == '*' then .star :: itemsFrom n gs
    else if g.char == '?' then .any :: itemsFrom n gs
    else if g.char == '[' then
      match set? gs with
      | some (item, rest) => item :: itemsFrom n rest
      | none => .char '[' :: itemsFrom n gs
    else .char g.char :: itemsFrom n gs

/-- The parts of a pattern. -/
def items (gs : List Glyph) : List Item :=
  let gs := unescape gs
  itemsFrom gs.length gs

/-- Whether some end of the text, the text itself and nothing included, has a property. -/
def anyEnd (p : List Char → Bool) : List Char → Bool
  | [] => p []
  | c :: cs => p (c :: cs) || anyEnd p cs

/-- Whether the text is one that the parts describe. -/
def matchItems : List Item → List Char → Bool
  | [], text => text.isEmpty
  | .star :: p, text => anyEnd (fun rest => matchItems p rest) text
  | .char c :: p, d :: text => c == d && matchItems p text
  | .any :: p, _ :: text => matchItems p text
  | .set isInverted ms :: p, d :: text =>
    (ms.any (Member.holds d)) != isInverted && matchItems p text
  | _ :: _, [] => false

/-- Whether the text is one that the pattern describes. -/
def matchText (pattern : List Glyph) (text : String) : Bool :=
  matchItems (items pattern) text.toList

/-- The text before the first NUL. -/
def firstText (cs : List Char) : List Char := cs.takeWhile fun c => c != '\x00'

/-- The text without the shortest or longest start that the pattern describes. -/
def trimStart (longest : Bool) (pattern : List Glyph) (text : String) : String :=
  let p := items pattern
  let cs := text.toList
  let lengths :=
    if longest then (List.range (cs.length + 1)).reverse
    else List.range (cs.length + 1)
  match lengths.find? fun n => matchItems p (firstText (cs.take n)) with
  | some n => String.ofList (cs.drop n)
  | none => text

/-- The text without the shortest or longest end that the pattern describes. -/
def trimEnd (longest : Bool) (pattern : List Glyph) (text : String) : String :=
  let p := items pattern
  let cs := text.toList
  let starts := if longest then List.range (cs.length + 1) else (List.range (cs.length + 1)).reverse
  match starts.find? fun n => matchItems p (firstText (cs.drop n)) with
  | some n => String.ofList (cs.take n)
  | none => text

/-- Whether the pattern has a part that is not a character. -/
def hasMeaning (gs : List Glyph) : Bool :=
  (items gs).any fun i => match i with
    | .char _ => false
    | _ => true

end Pattern

end CompileOrder.Shell
