import CompileOrder.Text.Utf8

/-!
# Texts of octets

A shell does not look at the characters of a text but at its bytes. Its texts are
therefore kept as strings in which every character stands for one byte and is below
256. They are made from bytes or from the encoding of a text, and go back the same
way.
-/

namespace CompileOrder.Shell.Octets

open Text (Bytes)

/-- The text of octets that stands for some bytes. -/
def ofBytes (bytes : Bytes) : String := String.ofList (bytes.map fun b => Char.ofNat b.toNat)

/-- The bytes that a text of octets stands for. -/
def toBytes (s : String) : Bytes := s.toList.map fun c => UInt8.ofNat c.toNat

/-- The text of octets for the encoding of a text. -/
def ofText (text : String) : String := ofBytes (Text.encode text)

/-- The text whose encoding the octets are; ill-formed stretches are replaced. -/
def toText (s : String) : String := Text.decodeLossy (toBytes s)

/-- A letter that can begin a name. -/
def isNameStart (c : Char) : Bool := c.isAlpha || c == '_'

/-- A letter that can continue a name. -/
def isNamePart (c : Char) : Bool := c.isAlphanum || c == '_'

/-- Whether the text is a name. -/
def isName (s : String) : Bool :=
  match s.toList with
  | [] => false
  | c :: cs => isNameStart c && cs.all isNamePart

/-- A blank, a tabulator, a line feed, a vertical tabulator, a form feed or a carriage
return. -/
def isSpace (c : Char) : Bool := c == ' ' || (9 ≤ c.toNat && c.toNat ≤ 13)

/-- An octet that shows. -/
def isPrint (c : Char) : Bool := 32 ≤ c.toNat && c.toNat < 127

/-- The number that decimal digits spell. -/
def number (digits : List Char) : Nat :=
  digits.foldl (fun n c => n * 10 + (c.toNat - 48)) 0

/-- The number that a text of one or more decimal digits spells. -/
def number? (s : String) : Option Nat :=
  if !s.isEmpty && s.toList.all Char.isDigit then some (number s.toList) else none

/-- The lines of a text, each without its line feed; a last line may lack one. -/
def lines (s : String) : List String :=
  let stretches := s.splitOn "\n"
  if stretches.getLast? == some "" then stretches.dropLast else stretches

/-- The stretches of a text that are made of quotes alone or of none, between quotes. -/
def quotedFrom : Nat → List Char → String
  | 0, _ => ""
  | n + 1, cs =>
    let plain := cs.takeWhile fun c => c != '\''
    let rest := cs.drop plain.length
    let quotes := rest.takeWhile fun c => c == '\''
    let rest := rest.drop quotes.length
    let start := "'" ++ String.ofList plain ++ "'"
    if quotes.isEmpty then start
    else
      let marks := "\"" ++ String.ofList quotes ++ "\""
      start ++ marks ++ if rest.isEmpty then "" else quotedFrom n rest

/-- The text between single quotes, where quotes themselves are put between double quotes. -/
def quoted (s : String) : String := quotedFrom (s.length + 1) s.toList

/-- The text without its first `n` characters. -/
def dropFirst (n : Nat) (s : String) : String := String.ofList (s.toList.drop n)

/-- The first `n` characters of the text. -/
def takeFirst (n : Nat) (s : String) : String := String.ofList (s.toList.take n)

/-- The text flush right in a field of a width. -/
def padLeft (width : Nat) (s : String) : String :=
  String.ofList (List.replicate (width - s.length) ' ') ++ s

/-- The text flush left in a field of a width. -/
def padRight (width : Nat) (s : String) : String :=
  s ++ String.ofList (List.replicate (width - s.length) ' ')

end CompileOrder.Shell.Octets
