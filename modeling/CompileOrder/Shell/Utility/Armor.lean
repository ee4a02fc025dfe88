import CompileOrder.Shell.Utility.Reading

/-!
# Octets in letters

Octets are written with letters that stand for a few bits each, in groups; the last group
is filled up with equals signs.
-/

namespace CompileOrder.Shell.Utility

open Tool

/-- A code that writes octets in letters. -/
structure LetterCode where
  /-- The letters. -/
  letters : List Char
  /-- The number of bits that a letter stands for. -/
  bits : Nat
  /-- The number of letters of a group. -/
  group : Nat
  /-- Whether the good letters of a bad group count. -/
  keepsPart : Bool

namespace LetterCode

/-- The code with letters for six bits. -/
def sixBits : LetterCode :=
  ⟨"ABCDEFGHIJKLMNOPQRSTUVWXYZabcdefghijklmnopqrstuvwxyz0123456789+/".toList, 6, 4, true⟩

/-- The code with letters for five bits. -/
def fiveBits : LetterCode := ⟨"ABCDEFGHIJKLMNOPQRSTUVWXYZ234567".toList, 5, 8, false⟩

/-- The number of octets of a group. -/
def octets (c : LetterCode) : Nat := c.bits * c.group / 8

/-- The letters of the octets of a group. -/
def encodeGroup (c : LetterCode) (cs : List Char) : List Char :=
  let count := (cs.length * 8 + c.bits - 1) / c.bits
  let n := (cs ++ List.replicate (c.octets - cs.length) '\x00').foldl (fun n d =>
    n * 256 + d.toNat) 0
  let digits := (List.range c.group).map fun i =>
    n / Nat.pow 2 (c.bits * (c.group - 1 - i)) % Nat.pow 2 c.bits
  (digits.take count).map (fun d => c.letters.getD d '=') ++ List.replicate (c.group - count) '='

/-- The letters of octets, at most `n` groups. -/
def encodeFrom (c : LetterCode) : Nat → List Char → List Char
  | 0, _ => []
  | _ + 1, [] => []
  | n + 1, cs => c.encodeGroup (cs.take c.octets) ++ encodeFrom c n (cs.drop c.octets)

/-- The letters of octets. -/
def encode (c : LetterCode) (text : String) : String :=
  String.ofList (c.encodeFrom (text.length + 1) text.toList)

/-- The octets of a group of letters, and whether the group is good. -/
def decodeGroup (c : LetterCode) (group : List Char) : List Char × Bool :=
  let letters := group.takeWhile c.letters.contains
  let fill := group.drop letters.length
  let count := letters.length * c.bits / 8
  let n := (letters.filterMap c.letters.idxOf?).foldl (fun n d => n * Nat.pow 2 c.bits + d) 0
  let n := n / Nat.pow 2 (letters.length * c.bits - count * 8)
  let octets := (List.range count).map fun i =>
    Char.ofNat (n / Nat.pow 256 (count - 1 - i) % 256)
  let isGood := group.length == c.group && fill.all (fun d => d == '=') && 0 < count &&
    (count * 8 + c.bits - 1) / c.bits == letters.length
  (if isGood || c.keepsPart then octets else [], isGood)

/-- The octets of letters, at most `n` groups, and whether all groups are good. -/
def decodeFrom (c : LetterCode) : Nat → List Char → List Char × Bool
  | 0, _ => ([], true)
  | _ + 1, [] => ([], true)
  | n + 1, cs =>
    match c.decodeGroup (cs.take c.group) with
    | (octets, false) => (octets, false)
    | (octets, true) =>
      let (more, isGood) := decodeFrom c n (cs.drop c.group)
      (octets ++ more, isGood)

end LetterCode

/-- Characters in lines of a width. -/
def wrapped (width : Nat) : Nat → List Char → List String
  | 0, _ => []
  | _ + 1, [] => []
  | n + 1, cs => String.ofList (cs.take width) :: wrapped width n (cs.drop width)

/-- Writes files in letters, or reads them again. -/
def armor (c : LetterCode) : Tool Nat :=
  withOptions [{ letter := 'd', word := "decode" }, { letter := 'D', word := "decode" },
      { letter := 'i', word := "ignore-garbage" },
      { letter := 'w', word := "wrap", takes := .required }] 1 fun p => do
    match (p.get? 'w').map fun w => (w, Octets.number? w) with
    | some (w, none) => fail 1 ("invalid wrap size: " ++ Quote.inWords w)
    | width =>
      let width := (width.bind fun w => w.2).getD 76
      match p.operands with
      | _ :: extra :: _ => misuse 1 ("extra operand " ++ Quote.inWords extra)
      | operands =>
        let path := operands.headD "-"
        match ← contents path with
        | .error fault =>
          fail 1 ((if fault == .isDirectory then "read error" else Quote.ifNeeded path) ++ ": " ++
            fault.words)
        | .ok text =>
          if p.has 'd' then
            let cs := text.toList.filter fun d => d != '\n' &&
              (!p.has 'i' || d == '=' || c.letters.contains d)
            let (octets, isGood) := c.decodeFrom (cs.length + 1) cs
            out (String.ofList octets)
            if isGood then return 0 else fail 1 "invalid input"
          else
            let letters := c.encode text
            if width == 0 then out letters
            else outLines (wrapped width (letters.length + 1) letters.toList)
            return 0

end CompileOrder.Shell.Utility
