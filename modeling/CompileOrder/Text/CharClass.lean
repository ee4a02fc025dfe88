import CompileOrder.Text.Letters
import CompileOrder.Text.Numerals

/-!
# Character classes

The classes of characters that the lexer, the binding requests and the
configuration reader tell apart. ASCII is decided by arithmetic and everything
above it by the ranges of the Unicode property, so a question about an ASCII
character never reaches a table.
-/

namespace CompileOrder.Text

/-- Whether `n` lies in one of the closed ranges. -/
def inRanges (ranges : List (Nat × Nat)) (n : Nat) : Bool :=
  ranges.any fun r => decide (r.1 ≤ n) && decide (n ≤ r.2)

/-- The first 128 code points. -/
def isAscii (c : Char) : Bool := decide (c.toNat < 128)

/-- Letters of every script, in the sense of the Unicode property Alphabetic. -/
def isAlphabetic (c : Char) : Bool :=
  if isAscii c then c.isAlpha else inRanges alphabeticRanges c.toNat

/-- Decimal digits, letter numbers and other numbers of every script. -/
def isNumeric (c : Char) : Bool :=
  if isAscii c then c.isDigit else inRanges numericRanges c.toNat

/-- Letters and numbers of every script. -/
def isAlphanumeric (c : Char) : Bool := isAlphabetic c || isNumeric c

/-- The characters a name may consist of after its first letter. -/
def isWordChar (c : Char) : Bool := isAlphanumeric c || c == '_'

/-- The blanks above ASCII that carry the Unicode property White_Space. -/
def wideBlanks : List (Nat × Nat) :=
  [(0x85, 0x85), (0xA0, 0xA0), (0x1680, 0x1680), (0x2000, 0x200A), (0x2028, 0x2029),
   (0x202F, 0x202F), (0x205F, 0x205F), (0x3000, 0x3000)]

/-- Blanks and line separators, in the sense of the Unicode property White_Space. -/
def isBlank (c : Char) : Bool :=
  if isAscii c then c == ' ' || (decide (9 ≤ c.toNat) && decide (c.toNat ≤ 13))
  else inRanges wideBlanks c.toNat

/-- The control characters of ASCII and of the Latin-1 supplement. -/
def isControl (c : Char) : Bool :=
  decide (c.toNat < 32) || (decide (127 ≤ c.toNat) && decide (c.toNat ≤ 159))

/-- The visible characters of ASCII that are neither letters nor digits. -/
def isPunctuation (c : Char) : Bool :=
  decide (33 ≤ c.toNat) && decide (c.toNat ≤ 126) && !c.isAlphanum

/-- The text without the blanks at its two ends. -/
def trim (cs : List Char) : List Char :=
  ((cs.dropWhile isBlank).reverse.dropWhile isBlank).reverse

/-- A non-empty run of word characters. -/
def isWord (cs : List Char) : Bool := !cs.isEmpty && cs.all isWordChar

end CompileOrder.Text
