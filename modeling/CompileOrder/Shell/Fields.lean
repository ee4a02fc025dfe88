import CompileOrder.Shell.Pattern

/-!
# Fields

What a word expands to is a row of cells: characters, quoted or not, and the marks
that tell where it may be cut into fields. It is cut at separators that come from an
expansion that is not quoted. Separators that are blanks are cut out together; any
other separator ends a field, even an empty one.
-/

namespace CompileOrder.Shell

/-- A part of an expanded word. -/
inductive Cell where
  /-- A character; `splits` tells whether the word is cut there if it is a separator. -/
  | glyph (g : Glyph) (splits : Bool)
  /-- A quotation mark. -/
  | mark
  /-- The place between two parameters that counts as a blank. -/
  | gap
  /-- The place between two parameters that are fields of their own. -/
  | boundary
  /-- The start of a stretch in which the word may be cut, at boundaries alone or not. -/
  | stretch (isHard : Bool)
  deriving DecidableEq, Repr

namespace Cell

/-- The cells of a text that is the result of an expansion. -/
def ofValue (text : String) (quoted : Bool) : List Cell :=
  let cells := text.toList.map fun c => .glyph ⟨c, quoted⟩ !quoted
  if quoted then cells else .stretch false :: cells

/-- The characters of some cells. -/
def glyphs (cells : List Cell) : List Glyph :=
  cells.filterMap fun c => match c with
    | .glyph g _ => some g
    | .gap | .boundary => some ⟨'\x00', true⟩
    | _ => none

/-- The text of some cells. -/
def text (cells : List Cell) : String :=
  Glyph.toText ((glyphs cells).filter fun g => g.char != '\x00')

end Cell

/-- The state of cutting a word into fields. -/
structure Cutter where
  /-- The fields, the last one first. -/
  fields : List (List Glyph) := []
  /-- The characters of the field being read, the last one first. -/
  field : List Glyph := []
  /-- Whether a quotation mark stands in that field. -/
  hasMark : Bool := false
  /-- Whether a separator that is a blank was the last thing read. -/
  afterBlank : Bool := false
  /-- Whether the stretch is cut at boundaries alone. -/
  isHard : Bool := false
  /-- Whether the stretch before it was. -/
  afterHard : Bool := false
  /-- The number of fields that may still be cut off; none if there is no limit. -/
  limit : Option Nat := none
  /-- The length of the last field without the separators at its end. -/
  cut : Option Nat := none

namespace Cutter

/-- Whether nothing stands in the field being read. -/
def isBare (s : Cutter) : Bool := s.field.isEmpty && !s.hasMark

/-- The field being read is finished. -/
def finishField (s : Cutter) : Cutter :=
  { s with fields := s.field.reverse :: s.fields, field := [], hasMark := false }

/-- A character is added to the last of a limited number of fields. -/
def putLast (s : Cutter) (g : Glyph) (isSeparator isBlank : Bool) : Cutter :=
  let length := s.field.length
  let s := { s with field := g :: s.field }
  if isBlank then { s with cut := some (s.cut.getD length) }
  else { s with cut := if isSeparator && s.afterBlank then s.cut else none, afterBlank := false }

/-- A separator that ends a field. -/
def separate (s : Cutter) (g : Glyph) (isBlank : Bool) : Cutter :=
  let s := if s.afterHard || s.isHard then s else { s with afterBlank := isBlank }
  if s.isBare && s.afterBlank then { s with afterBlank := false }
  else match s.limit with
    | some 1 =>
      { s with limit := some 0, cut := some s.field.length, field := g :: s.field }
    | some n => { s.finishField with limit := some (n - 1) }
    | none => s.finishField

/-- A character at which the word may be cut. -/
def put (separators : List Char) (s : Cutter) (g : Glyph) : Cutter :=
  let isSeparator := g.char == '\x00' || separators.contains g.char
  let isBlank := isSeparator && (g.char == '\x00' || " \t\n".toList.contains g.char)
  if s.limit == some 0 then s.putLast g isSeparator isBlank
  else if s.afterBlank && isBlank then s
  else if s.afterBlank && isSeparator then { s with afterBlank := false }
  else if isSeparator && !s.afterBlank then s.separate g isBlank
  else { s with field := g :: s.field, afterBlank := false }

/-- A cell is read. -/
def step (separators : List Char) (s : Cutter) : Cell → Cutter
  | .glyph g true => s.put separators g
  | .glyph g false => { s with field := g :: s.field }
  | .mark => { s with hasMark := true }
  | .gap => s.put separators ⟨'\x00', false⟩
  | .boundary => s.put [] ⟨'\x00', false⟩
  | .stretch isHard => { s with isHard := isHard, afterHard := s.isHard, afterBlank := false }

/-- The fields at the end of a word. -/
def finish (s : Cutter) : List (List Glyph) :=
  let last := match s.cut with
    | some n => s.field.reverse.take n
    | none => s.field.reverse
  if s.isHard || s.hasMark || !last.isEmpty then (last :: s.fields).reverse else s.fields.reverse

end Cutter

/-- The fields of an expanded word. -/
def cutFields (separators : String) (limit : Option Nat) (cells : List Cell) : List (List Glyph) :=
  (cells.foldl (Cutter.step separators.toList) { limit := limit }).finish

end CompileOrder.Shell
