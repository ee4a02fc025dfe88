/-!
# UTF-8

Decoding of bytes into characters. Source files are read permissively: each
maximal ill-formed stretch of bytes becomes one replacement character.
Configuration files are read strictly: an ill-formed stretch makes the whole
unreadable.
-/

namespace CompileOrder.Text

/-- The contents of a file. -/
abbrev Bytes := List UInt8

/-- A byte inside the closed range. -/
def byteIn (low high : Nat) (b : UInt8) : Bool :=
  decide (low ≤ b.toNat) && decide (b.toNat ≤ high)

/-- A byte that continues a sequence. -/
def isContinuation (b : UInt8) : Bool := byteIn 0x80 0xBF b

/-- The bytes that may follow the lead byte of a sequence of three. -/
def secondOfThree (lead b : UInt8) : Bool :=
  if lead == 0xE0 then byteIn 0xA0 0xBF b
  else if lead == 0xED then byteIn 0x80 0x9F b
  else isContinuation b

/-- The bytes that may follow the lead byte of a sequence of four. -/
def secondOfFour (lead b : UInt8) : Bool :=
  if lead == 0xF0 then byteIn 0x90 0xBF b
  else if lead == 0xF4 then byteIn 0x80 0x8F b
  else isContinuation b

/-- The six payload bits of a continuation byte appended to a code point. -/
def extendBy (n : Nat) (b : UInt8) : Nat := n * 64 + b.toNat % 64

/-- The sequence of two bytes begun by `lead`: its character, if it is well-formed,
and the number of bytes it takes after the lead byte. -/
def decodeTwo (lead : UInt8) : List UInt8 → Option Char × Nat
  | b :: _ =>
    if isContinuation b then (some (Char.ofNat (extendBy (lead.toNat % 32) b)), 1) else (none, 0)
  | [] => (none, 0)

/-- The sequence of three bytes begun by `lead`, as `decodeTwo` gives it. -/
def decodeThree (lead : UInt8) : List UInt8 → Option Char × Nat
  | b :: c :: _ =>
    if secondOfThree lead b then
      if isContinuation c then
        (some (Char.ofNat (extendBy (extendBy (lead.toNat % 16) b) c)), 2)
      else (none, 1)
    else (none, 0)
  | [b] => (none, if secondOfThree lead b then 1 else 0)
  | [] => (none, 0)

/-- The sequence of four bytes begun by `lead`, as `decodeTwo` gives it. -/
def decodeFour (lead : UInt8) : List UInt8 → Option Char × Nat
  | b :: c :: d :: _ =>
    if secondOfFour lead b then
      if isContinuation c then
        if isContinuation d then
          (some (Char.ofNat (extendBy (extendBy (extendBy (lead.toNat % 8) b) c) d)), 3)
        else (none, 2)
      else (none, 1)
    else (none, 0)
  | [b, c] =>
    (none, if secondOfFour lead b then (if isContinuation c then 2 else 1) else 0)
  | [b] => (none, if secondOfFour lead b then 1 else 0)
  | [] => (none, 0)

/-- The character begun by `lead`, if it is well-formed, and the number of bytes
that the sequence, or its maximal ill-formed part, takes after the lead byte. -/
def decodeChar (lead : UInt8) (rest : List UInt8) : Option Char × Nat :=
  if lead.toNat < 0x80 then (some (Char.ofNat lead.toNat), 0)
  else if byteIn 0xC2 0xDF lead then decodeTwo lead rest
  else if byteIn 0xE0 0xEF lead then decodeThree lead rest
  else if byteIn 0xF0 0xF4 lead then decodeFour lead rest
  else (none, 0)

/-- Decoding that first passes over `skip` bytes of the sequence before. -/
def decodeFrom : Nat → Bytes → List (Option Char)
  | _, [] => []
  | skip + 1, _ :: bs => decodeFrom skip bs
  | 0, b :: bs =>
    let (c, taken) := decodeChar b bs
    c :: decodeFrom taken bs

/-- The text of the bytes, one replacement character for each ill-formed stretch. -/
def decodeLossy (bytes : Bytes) : String :=
  String.ofList ((decodeFrom 0 bytes).map fun c => c.getD '\uFFFD')

/-- The text of the bytes, if they are well-formed throughout. -/
def decode? (bytes : Bytes) : Option String :=
  ((decodeFrom 0 bytes).mapM id).map String.ofList

/-- The bytes of a text. -/
def encode (text : String) : Bytes := text.toList.flatMap String.utf8EncodeChar

end CompileOrder.Text
