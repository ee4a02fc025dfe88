import CompileOrder.Shell.Octets

/-!
# Backslash escapes

A backslash and a letter stand for a control character, a backslash and up to three
octal digits for the octet with that number. In an argument an octal number may have a
nought more, and `\c` ends the text.
-/

namespace CompileOrder.Shell.Escape

/-- An octal digit. -/
def isOctal (c : Char) : Bool := '0' ≤ c && c ≤ '7'

/-- The octet with the number that octal digits spell. -/
def octet (digits : List Char) : Char :=
  Char.ofNat (digits.foldl (fun n c => n * 8 + (c.toNat - 48)) 0 % 256)

/-- The control character that a letter stands for. -/
def control? : Char → Option Char
  | '\\' => some '\\'
  | 'a' => some '\x07'
  | 'b' => some '\x08'
  | 'e' => some '\x1b'
  | 'f' => some '\x0c'
  | 'n' => some '\n'
  | 'r' => some '\r'
  | 't' => some '\t'
  | 'v' => some '\x0b'
  | _ => none

/-- The character that stands after a backslash, and the rest. A backslash before anything
else stands for itself. -/
def character (cs : List Char) : Char × List Char :=
  match cs with
  | [] => ('\\', [])
  | c :: rest =>
    match control? c with
    | some x => (x, rest)
    | none =>
      let digits := (cs.take 3).takeWhile isOctal
      if digits.isEmpty then ('\\', cs) else (octet digits, cs.drop digits.length)

/-- An argument with its escapes resolved, the last character first, and whether it was
ended by one. -/
def resolveFrom : Nat → List Char → List Char → List Char × Bool
  | 0, done, _ => (done, false)
  | _ + 1, done, [] => (done, false)
  | n + 1, done, '\\' :: cs =>
    match cs with
    | 'c' :: _ => (done, true)
    | '0' :: d :: rest =>
      let (c, rest) := character (if isOctal d then d :: rest else cs)
      resolveFrom n (c :: done) rest
    | cs =>
      let (c, rest) := character cs
      resolveFrom n (c :: done) rest
  | n + 1, done, c :: cs => resolveFrom n (c :: done) cs

/-- An argument with its escapes resolved, and whether it was ended by one. -/
def resolve (text : String) : String × Bool :=
  let (done, isEnded) := resolveFrom (text.length + 1) [] text.toList
  (String.ofList done.reverse, isEnded)

end CompileOrder.Shell.Escape
