import CompileOrder.Shell.Octets
import CompileOrder.Text.CharClass

/-!
# Characters of texts of octets

Some utilities look at the characters that octets encode. An octet that belongs to no
character is kept as a character of its own, above those that texts use, so that every
text of octets can be had back from its characters.
-/

namespace CompileOrder.Shell.Characters

/-- What the characters that stand for single octets are counted from. -/
def base : Nat := 0x10FF00

/-- Whether a character stands for an octet that belongs to no character. -/
def isStray (c : Char) : Bool := base + 0x80 ≤ c.toNat

/-- The characters of bytes, after `skip` bytes of the character before. -/
def decodeFrom : Nat → Text.Bytes → List Char
  | _, [] => []
  | skip + 1, _ :: bs => decodeFrom skip bs
  | 0, b :: bs =>
    match Text.decodeChar b bs with
    | (some c, taken) =>
      if isStray c then Char.ofNat (base + b.toNat) :: decodeFrom 0 bs
      else c :: decodeFrom taken bs
    | (none, _) => Char.ofNat (base + b.toNat) :: decodeFrom 0 bs

/-- The characters of a text of octets. -/
def ofOctets (s : String) : List Char :=
  let cs := s.toList
  if cs.all fun c => c.toNat < 0x80 then cs else decodeFrom 0 (Octets.toBytes s)

/-- The octets of a character. -/
def octets (c : Char) : List Char :=
  if c.toNat < 0x80 then [c]
  else if isStray c then [Char.ofNat (c.toNat - base)]
  else (String.utf8EncodeChar c).map fun b => Char.ofNat b.toNat

/-- The text of octets with these characters. -/
def toOctets (cs : List Char) : String := String.ofList (cs.flatMap octets)

/-- The number of characters. -/
def count (s : String) : Nat := (ofOctets s).length

/-- Whether a character shows. -/
def isPrint (c : Char) : Bool :=
  (0x20 ≤ c.toNat && c.toNat < 0x7F) ||
    (0xA0 ≤ c.toNat && !isStray c && c.toNat != 0x2028 && c.toNat != 0x2029 &&
      c.toNat % 0x10000 < 0xFFFE)

/-- The characters that take two columns. -/
def wide : List (Nat × Nat) :=
  [(0x1100, 0x115F), (0x231A, 0x231B), (0x2329, 0x232A), (0x23E9, 0x23EC), (0x23F0, 0x23F0),
    (0x23F3, 0x23F3), (0x25FD, 0x25FE), (0x2614, 0x2615), (0x2648, 0x2653), (0x267F, 0x267F),
    (0x2693, 0x2693), (0x26A1, 0x26A1), (0x26AA, 0x26AB), (0x26BD, 0x26BE), (0x26C4, 0x26C5),
    (0x26CE, 0x26CE), (0x26D4, 0x26D4), (0x26EA, 0x26EA), (0x26F2, 0x26F3), (0x26F5, 0x26F5),
    (0x26FA, 0x26FA), (0x26FD, 0x26FD), (0x2705, 0x2705), (0x270A, 0x270B), (0x2728, 0x2728),
    (0x274C, 0x274C), (0x274E, 0x274E), (0x2753, 0x2755), (0x2757, 0x2757), (0x2795, 0x2797),
    (0x27B0, 0x27B0), (0x27BF, 0x27BF), (0x2B1B, 0x2B1C), (0x2B50, 0x2B50), (0x2B55, 0x2B55),
    (0x2E80, 0x303E), (0x3041, 0xA4C6), (0xA960, 0xA97C), (0xAC00, 0xD7A3), (0xF900, 0xFAFF),
    (0xFE10, 0xFE19), (0xFE30, 0xFE6B), (0xFF01, 0xFF60), (0xFFE0, 0xFFE6), (0x16FE0, 0x18AFF),
    (0x1B000, 0x1B2FB), (0x1F004, 0x1F004), (0x1F0CF, 0x1F0CF), (0x1F18E, 0x1F18E),
    (0x1F191, 0x1F19A), (0x1F200, 0x1F320), (0x1F32D, 0x1F335), (0x1F337, 0x1F37C),
    (0x1F37E, 0x1F393), (0x1F3A0, 0x1F3CA), (0x1F3CF, 0x1F3D3), (0x1F3E0, 0x1F3F0),
    (0x1F3F4, 0x1F3F4), (0x1F3F8, 0x1F43E), (0x1F440, 0x1F440), (0x1F442, 0x1F4FC),
    (0x1F4FF, 0x1F53D), (0x1F54B, 0x1F54E), (0x1F550, 0x1F567), (0x1F57A, 0x1F57A),
    (0x1F595, 0x1F596), (0x1F5A4, 0x1F5A4), (0x1F5FB, 0x1F64F), (0x1F680, 0x1F6C5),
    (0x1F6CC, 0x1F6CC), (0x1F6D0, 0x1F6D2), (0x1F6D5, 0x1F6D7), (0x1F6EB, 0x1F6EC),
    (0x1F6F4, 0x1F6FC), (0x1F7E0, 0x1F7EB), (0x1F90C, 0x1F93A), (0x1F93C, 0x1F945),
    (0x1F947, 0x1F9FF), (0x1FA70, 0x1FAFF), (0x20000, 0x2FFFD), (0x30000, 0x3FFFD)]

/-- The characters that stand over or under others and take no column. -/
def combining : List (Nat × Nat) :=
  [(0x300, 0x36F), (0x483, 0x489), (0x591, 0x5BD), (0x610, 0x61A), (0x64B, 0x65F),
    (0x1AB0, 0x1AFF), (0x1DC0, 0x1DFF), (0x200B, 0x200F), (0x202A, 0x202E), (0x2060, 0x2064),
    (0x20D0, 0x20F0), (0xFE00, 0xFE0F), (0xFE20, 0xFE2F), (0xFEFF, 0xFEFF), (0xE0100, 0xE01EF)]

/-- The number of columns that a character takes. -/
def width (c : Char) : Nat :=
  if !isPrint c || Text.inRanges combining c.toNat then 0
  else if Text.inRanges wide c.toNat then 2 else 1

end CompileOrder.Shell.Characters
