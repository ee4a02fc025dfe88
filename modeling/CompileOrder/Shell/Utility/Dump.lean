import CompileOrder.Shell.Utility.Reading

/-!
# Dumps and codes

The octets of files as numbers or characters, and files written with letters only.
-/

namespace CompileOrder.Shell.Utility

open Tool

/-- How octets are shown. -/
inductive DumpKind where
  /-- As characters. -/
  | chars
  /-- By their names. -/
  | names
  /-- As numbers of some octets in a base. -/
  | numbers (size base : Nat) (isSigned : Bool)
  deriving DecidableEq, Repr

/-- The number of octets of a unit. -/
def DumpKind.size : DumpKind → Nat
  | .chars | .names => 1
  | .numbers size _ _ => size

/-- The width of a unit, with the blank before it. -/
def DumpKind.width : DumpKind → Nat
  | .chars | .names => 4
  | .numbers size 8 _ => (size * 8 + 2) / 3 + 1
  | .numbers size 16 _ => size * 2 + 1
  | .numbers size _ isSigned =>
    (toString (Nat.pow 2 (size * 8 - (if isSigned then 1 else 0)))).length +
      (if isSigned then 1 else 0) + 1

/-- The names of octets that do not show. -/
def octetNames : List String :=
  ["nul", "soh", "stx", "etx", "eot", "enq", "ack", "bel", "bs", "ht", "nl", "vt", "ff", "cr",
    "so", "si", "dle", "dc1", "dc2", "dc3", "dc4", "nak", "syn", "etb", "can", "em", "sub", "esc",
    "fs", "gs", "rs", "us", "sp"]

/-- A character as it is dumped. -/
def dumpChar (c : Char) : String :=
  match c with
  | '\x00' => "\\0"
  | '\x07' => "\\a"
  | '\x08' => "\\b"
  | '\x0c' => "\\f"
  | '\n' => "\\n"
  | '\r' => "\\r"
  | '\t' => "\\t"
  | '\x0b' => "\\v"
  | c =>
    if Octets.isPrint c then String.singleton c
    else
      let ds := Nat.toDigits 8 c.toNat
      String.ofList (List.replicate (3 - ds.length) '0' ++ ds)

/-- A unit as it is dumped. -/
def DumpKind.show (cs : List Char) : DumpKind → String
  | .chars => dumpChar (cs.headD '\x00')
  | .names =>
    let n := (cs.headD '\x00').toNat % 128
    if n == 127 then "del" else octetNames.getD n (String.singleton (Char.ofNat n))
  | .numbers size base isSigned =>
    let n := cs.foldr (fun c n => n * 256 + c.toNat) 0
    if base == 10 then
      if isSigned && Nat.pow 2 (size * 8 - 1) ≤ n then "-" ++ toString (Nat.pow 2 (size * 8) - n)
      else toString n
    else
      let ds := Nat.toDigits base n
      let width := if base == 8 then (size * 8 + 2) / 3 else size * 2
      String.ofList (List.replicate (width - ds.length) '0' ++ ds)

/-- A line of a dump. -/
def DumpKind.line (k : DumpKind) (cs : List Char) : String :=
  go (cs.length + 1) cs
where
  /-- The units of a line. -/
  go : Nat → List Char → String
    | 0, _ => ""
    | _ + 1, [] => ""
    | n + 1, cs => Octets.padLeft k.width (k.show (cs.take k.size)) ++ go n (cs.drop k.size)

/-- The kinds of a dump that a text after `-t` names. -/
def dumpKinds : Nat → List Char → List DumpKind
  | 0, _ => []
  | _ + 1, [] => []
  | n + 1, c :: cs =>
    let size := match cs with
      | 'C' :: _ => some (1, 1)
      | 'S' :: _ => some (2, 1)
      | 'I' :: _ => some (4, 1)
      | 'L' :: _ => some (8, 1)
      | cs =>
        let ds := cs.takeWhile Char.isDigit
        if ds.isEmpty then none else some (Octets.number ds, ds.length)
    let (bytes, used) := size.getD (4, 0)
    let rest := dumpKinds n (cs.drop used)
    match c with
    | 'c' => .chars :: dumpKinds n cs
    | 'a' => .names :: dumpKinds n cs
    | 'o' => .numbers bytes 8 false :: rest
    | 'x' => .numbers bytes 16 false :: rest
    | 'd' => .numbers bytes 10 true :: rest
    | 'u' => .numbers bytes 10 false :: rest
    | _ => dumpKinds n cs

/-- An offset in a base. -/
def dumpOffset (base : Char) (n : Nat) : String :=
  match base with
  | 'd' => let ds := toString n; String.ofList (List.replicate (7 - ds.length) '0') ++ ds
  | 'x' => let ds := Nat.toDigits 16 n; String.ofList (List.replicate (6 - ds.length) '0' ++ ds)
  | 'n' => ""
  | _ => let ds := Nat.toDigits 8 n; String.ofList (List.replicate (7 - ds.length) '0' ++ ds)

/-- The lines of a dump; lines like the one before are left out. -/
def dumpLines (base : Char) (kinds : List DumpKind) (width : Nat) (showsAll : Bool) :
    Nat → Nat → Option (List Char) → Bool → List Char → List String
  | 0, _, _, _, _ => []
  | n + 1, offset, last, isStarred, cs =>
    match cs with
    | [] => if base == 'n' then [] else [dumpOffset base offset]
    | cs =>
      let here := cs.take width
      let rest := cs.drop width
      if !showsAll && last == some here && here.length == width && !rest.isEmpty then
        (if isStarred then [] else ["*"]) ++
          dumpLines base kinds width showsAll n (offset + width) last true rest
      else
        let lines := kinds.zipIdx.map fun (k, i) =>
          (if i == 0 then dumpOffset base offset
           else Octets.padRight (dumpOffset base offset).length "") ++ k.line here
        lines ++ dumpLines base kinds width showsAll n (offset + here.length) (some here) false rest

/-- Shows octets as numbers or characters. -/
def od : Tool Nat :=
  withOptions [{ letter := 'A', word := "address-radix", takes := .required },
      { letter := 't', word := "format", takes := .required },
      { letter := 'N', takes := .required },
      { letter := 'j', takes := .required }, { letter := 'v', word := "output-duplicates" },
      { letter := 'w', word := "width", takes := .optional }, { letter := 'a' }, { letter := 'b' },
      { letter := 'c' }, { letter := 'd' }, { letter := 'i' }, { letter := 'l' }, { letter := 'o' },
      { letter := 's' }, { letter := 'x' }, { letter := 'e' }, { letter := 'f' }] 1 fun p => do
    let kinds := p.options.flatMap fun (c, text) => match c with
      | 't' => dumpKinds (text.length + 1) text.toList
      | 'a' => [.names]
      | 'b' => [.numbers 1 8 false]
      | 'c' => [.chars]
      | 'd' => [.numbers 2 10 false]
      | 'i' => [.numbers 4 10 true]
      | 'l' => [.numbers 8 10 true]
      | 'o' => [.numbers 2 8 false]
      | 's' => [.numbers 2 10 true]
      | 'x' => [.numbers 2 16 false]
      | _ => []
    let kinds := if kinds.isEmpty then [.numbers 2 8 false] else kinds
    let mut text : List Char := []
    let mut code := 0
    for path in orInput p.operands do
      match ← contents path with
      | .ok t => text := text ++ t.toList
      | .error fault =>
        code := ← fail 1 (Quote.ifNeeded path ++ ": " ++
          (if fault == .isDirectory then "read error: " else "") ++ fault.words)
    let skip := ((p.get? 'j').bind Octets.number?).getD 0
    let shown := match (p.get? 'N').bind Octets.number? with
      | some n => (text.drop skip).take n
      | none => text.drop skip
    let base := ((p.get? 'A').bind fun a => a.toList.head?).getD 'o'
    let width := match p.get? 'w' with
      | some w => (Octets.number? w).getD 32
      | none => 16
    if code == 0 || !shown.isEmpty then
      outLines
        (dumpLines base kinds (max width 1) (p.has 'v') (shown.length + 2) skip none false shown)
    return code

end CompileOrder.Shell.Utility
