import CompileOrder.Shell.Utility.Armor
import CompileOrder.Shell.Utility.Digest.Wide
import CompileOrder.Shell.Utility.Reading

/-!
# Checksums of files

Digests and checksums of files are shown, one file a line, or a list of such lines is
checked against the files that it names.
-/

namespace CompileOrder.Shell.Utility

open Tool

/-- A kind of digest: its name and what it makes of a message. -/
structure DigestKind where
  /-- Its name. -/
  name : String
  /-- The number of octets. -/
  octets : Nat
  /-- The digest with a number of octets. -/
  digest : Nat → Text.Bytes → Text.Bytes
  /-- Whether the number of octets can be chosen. -/
  isFlexible : Bool := false

namespace DigestKind

/-- The digest of 128 bits. -/
def md5 : DigestKind := ⟨"MD5", 16, fun _ => Digest.digest128, false⟩

/-- The digest of 160 bits. -/
def sha1 : DigestKind := ⟨"SHA1", 20, fun _ => Digest.digest160, false⟩

/-- The digest of 224 bits. -/
def sha224 : DigestKind := ⟨"SHA224", 28, fun _ => Digest.digest224, false⟩

/-- The digest of 256 bits. -/
def sha256 : DigestKind := ⟨"SHA256", 32, fun _ => Digest.digest256, false⟩

/-- The digest of 384 bits. -/
def sha384 : DigestKind := ⟨"SHA384", 48, fun _ => Digest.digest384, false⟩

/-- The digest of 512 bits. -/
def sha512 : DigestKind := ⟨"SHA512", 64, fun _ => Digest.digest512, false⟩

/-- The mixed digest. -/
def blake2b : DigestKind := ⟨"BLAKE2b", 64, Digest.mixedDigest, true⟩

/-- The kinds by the words that choose them. -/
def named : List (String × DigestKind) :=
  [("md5", md5), ("sha1", sha1), ("sha224", sha224), ("sha256", sha256), ("sha384", sha384),
    ("sha512", sha512), ("blake2b", blake2b)]

end DigestKind

/-- A name in which line feeds and backslashes are spelled out, and whether there are any. -/
def plainName (name : String) : String × Bool :=
  let text := String.join (name.toList.map fun
    | '\\' => "\\\\"
    | '\n' => "\\n"
    | '\r' => "\\r"
    | c => String.singleton c)
  (text, text != name)

/-- The name that a text spells. -/
def spelledName : List Char → List Char
  | '\\' :: 'n' :: cs => '\n' :: spelledName cs
  | '\\' :: 'r' :: cs => '\r' :: spelledName cs
  | '\\' :: '\\' :: cs => '\\' :: spelledName cs
  | c :: cs => c :: spelledName cs
  | [] => []

/-- How digests are shown and checked. -/
structure DigestRules where
  /-- The kind, unless the lines that are checked tell it. -/
  kind : Option DigestKind
  /-- The number of octets. -/
  octets : Nat
  /-- Whether the kind is shown. -/
  hasTag : Bool := false
  /-- Whether lines have the mark of files that are no texts. -/
  hasMark : Bool := false
  /-- Whether digests are shown in letters for six bits. -/
  isDense : Bool := false
  /-- Whether lines end in nought. -/
  endsInNought : Bool := false
  /-- Whether good files are not told about. -/
  isQuiet : Bool := false
  /-- Whether nothing is told. -/
  isSilent : Bool := false
  /-- Whether bad lines are told about one by one. -/
  warns : Bool := false
  /-- Whether bad lines are a fault. -/
  isStrict : Bool := false
  /-- Whether missing files are left out. -/
  skipsMissing : Bool := false

/-- The digest of a message in letters. -/
def DigestRules.text (r : DigestRules) (kind : DigestKind) (octets : Nat) (message : Text.Bytes) :
    String :=
  let bytes := kind.digest octets message
  if r.isDense then LetterCode.sixBits.encode (Octets.ofBytes bytes) else Digest.hex bytes

/-- The line with the digest of a file. -/
def DigestRules.line (r : DigestRules) (kind : DigestKind) (path : String) (message : Text.Bytes) :
    String :=
  let digest := r.text kind r.octets message
  let (name, isEscaped) := if r.endsInNought then (path, false) else plainName path
  let mark := if isEscaped then "\\" else ""
  let ending := if r.endsInNought then "\x00" else "\n"
  if r.hasTag then
    let size := if kind.isFlexible && r.octets < kind.octets then "-" ++ toString (r.octets * 8)
      else ""
    mark ++ kind.name ++ size ++ " (" ++ name ++ ") = " ++ digest ++ ending
  else mark ++ digest ++ (if r.hasMark then " *" else "  ") ++ name ++ ending

/-- A line of a list of digests. -/
structure DigestLine where
  /-- The kind. -/
  kind : DigestKind
  /-- The number of octets. -/
  octets : Nat
  /-- The digest. -/
  digest : String
  /-- The name of the file. -/
  path : String
  /-- Whether the name was spelled out. -/
  isEscaped : Bool

namespace DigestLine

/-- Whether a text is a digest in hexadecimal digits with a number of octets. -/
def isHex (octets : Nat) (text : String) : Bool :=
  text.length == 2 * octets && text.toList.all fun c =>
    c.isDigit || ('a' ≤ c && c ≤ 'f') || ('A' ≤ c && c ≤ 'F')

/-- A line with the name of the kind. -/
def tagged? (kinds : List DigestKind) (text : String) : Option
    (DigestKind × Nat × String × String) :=
  kinds.findSome? fun kind => do
    let rest ← if kind.name.toList.isPrefixOf text.toList then
        some (text.toList.drop kind.name.length)
      else none
    let (octets, rest) := match rest with
      | '-' :: cs =>
        let ds := cs.takeWhile Char.isDigit
        (Octets.number ds / 8, cs.drop ds.length)
      | cs => (kind.octets, cs)
    let rest := if rest.head? == some ' ' then rest.tail else rest
    let inner ← match rest with
      | '(' :: cs => some (String.ofList cs)
      | _ => none
    match (inner.splitOn ") = ").reverse with
    | digest :: part :: parts =>
      if isHex octets digest then
        some (kind, octets, digest, String.intercalate ") = " (part :: parts).reverse)
      else none
    | _ => none

/-- A line without the name of the kind. -/
def bare? (kind : DigestKind) (text : String) : Option (DigestKind × Nat × String × String) :=
  let cs := text.toList
  let digest := cs.takeWhile fun c => c != ' '
  let octets := if kind.isFlexible then digest.length / 2 else kind.octets
  match cs.drop digest.length with
  | ' ' :: c :: name =>
    let name := if c == ' ' || c == '*' then name else c :: name
    if isHex octets (String.ofList digest) && 0 < octets && !name.isEmpty then
      some (kind, octets, String.ofList digest, String.ofList name)
    else none
  | _ => none

/-- What a line says; `kind` is known unless lines tell it. -/
def ofText? (kind : Option DigestKind) (text : String) : Option DigestLine := do
  let text := String.ofList (text.toList.dropWhile fun c => c == ' ' || c == '\t')
  let (isEscaped, text) := match text.toList with
    | '\\' :: cs => (true, String.ofList cs)
    | _ => (false, text)
  let kinds := match kind with
    | some k => [k]
    | none => DigestKind.named.map fun n => n.2
  let (kind, octets, digest, name) ← match tagged? kinds text, kind with
    | some found, _ => some found
    | none, some k => bare? k text
    | none, none => none
  let name := if isEscaped then String.ofList (spelledName name.toList) else name
  return ⟨kind, octets, digest.map Char.toLower, name, isEscaped⟩

end DigestLine

/-- The numbers of lines that were checked. -/
structure CheckCount where
  /-- Lines that can be read. -/
  good : Nat := 0
  /-- Lines that cannot be read. -/
  bad : Nat := 0
  /-- Files that cannot be read. -/
  unread : Nat := 0
  /-- Files that have another digest. -/
  differing : Nat := 0
  /-- Files that have the digest. -/
  matching : Nat := 0

/-- A list of digests is checked. -/
def checkDigests (r : DigestRules) (path : String) : Tool Nat := do
  let label := if path == "-" then "'standard input'" else Quote.ifNeeded path
  match ← contents path with
  | .error fault => fail 1 (label ++ ": " ++ fault.words)
  | .ok text =>
    let mut n : CheckCount := {}
    for (line, i) in (Octets.lines text).zipIdx do
      if line.toList.head? == some '#' then continue
      match DigestLine.ofText? r.kind line with
      | none =>
        if line.isEmpty then continue
        n := { n with bad := n.bad + 1 }
        if r.warns then
          complain (label ++ ": " ++ toString (i + 1) ++ ": improperly formatted " ++
            ((r.kind.map fun k => k.name).getD "CRC") ++ " checksum line")
      | some d =>
        if path == "-" && d.path == "-" then
          n := { n with bad := n.bad + 1 }
          continue
        n := { n with good := n.good + 1 }
        let shown := (if d.isEscaped then "\\" else "") ++ (plainName d.path).1
        match ← contents d.path with
        | .ok t =>
          let isSame := Digest.hex (d.kind.digest d.octets (Octets.toBytes t)) == d.digest
          n := if isSame then { n with matching := n.matching + 1 }
            else { n with differing := n.differing + 1 }
          if !r.isSilent && !(isSame && r.isQuiet) then
            out (shown ++ ": " ++ (if isSame then "OK" else "FAILED") ++ "\n")
        | .error fault =>
          if !(r.skipsMissing && fault == .notFound) then
            n := { n with unread := n.unread + 1 }
            complain (Quote.ifNeeded d.path ++ ": " ++ fault.words)
            if !r.isSilent then out (shown ++ ": FAILED open or read\n")
    if n.good == 0 then
      return ← fail 1 (label ++ ": no properly formatted checksum lines found")
    if !r.isSilent then
      let tell (count : Nat) (one many : String) : Tool Unit := do
        if count != 0 then
          complain ("WARNING: " ++ toString count ++ " " ++ (if count == 1 then one else many))
      tell n.bad "line is improperly formatted" "lines are improperly formatted"
      tell n.unread "listed file could not be read" "listed files could not be read"
      tell n.differing "computed checksum did NOT match" "computed checksums did NOT match"
      if r.skipsMissing && n.matching == 0 then complain (label ++ ": no file was verified")
    let isGood := n.unread == 0 && n.differing == 0 && !(r.skipsMissing && n.matching == 0) &&
      !(r.isStrict && n.bad != 0)
    return if isGood then 0 else 1

/-- The options of showing and checking digests. -/
def digestFlags : List Flag :=
  [{ letter := 'b', word := "binary" }, { letter := 'c', word := "check" },
    { letter := 't', word := "text" }, { letter := '\x04', word := "quiet" },
    { letter := 'w', word := "warn" }, { letter := '\x05', word := "status" },
    { letter := 'z', word := "zero" }, { letter := '\x01', word := "tag" },
    { letter := '\x02', word := "strict" }, { letter := '\x03', word := "ignore-missing" },
    { letter := 'l', word := "length", takes := .required }]

/-- The rules that options give. -/
def DigestRules.ofOptions (kind : Option DigestKind) (octets : Nat) (p : Parsed) : DigestRules :=
  { kind := kind, octets := octets, hasTag := p.has '\x01', hasMark := p.last? "bt" == some 'b'
    isDense := p.has '\x06', endsInNought := p.has 'z', isQuiet := p.has '\x04'
    isSilent := p.has '\x05', warns := p.has 'w', isStrict := p.has '\x02'
    skipsMissing := p.has '\x03' }

/-- What is wrong with the options. -/
def digestFault? (p : Parsed) : Option String :=
  if p.has '\x01' && p.last? "bt" == some 't' then some "--tag does not support --text mode"
  else if p.has '\x01' && p.has 'c' then
    some "the --tag option is meaningless when verifying checksums"
  else if p.has 'z' && p.has 'c' then
    some "the --zero option is not supported when verifying checksums"
  else if p.has 'c' then none
  else ([('\x03', "ignore-missing"), ('\x05', "status"), ('w', "warn"), ('\x04', "quiet"),
    ('\x02', "strict")].find? fun o => p.has o.1).map fun o =>
      "the --" ++ o.2 ++ " option is meaningful only when verifying checksums"

/-- The number of octets that an option asks for; messages if it cannot be had. -/
def digestLength (kind : DigestKind) (p : Parsed) : Except (List String) Nat :=
  match p.get? 'l' with
  | none => .ok kind.octets
  | some text =>
    let bad := "invalid length: " ++ Quote.inWords text
    match Octets.number? text with
    | none => .error [bad]
    | some 0 => .ok kind.octets
    | some n =>
      if kind.octets * 8 < n then
        .error [bad, "maximum digest length for " ++ Quote.inWords kind.name ++ " is " ++
          toString (kind.octets * 8) ++ " bits"]
      else if n % 8 != 0 then .error [bad, "length is not a multiple of 8"]
      else .ok (n / 8)

/-- The digests of files are shown or checked. -/
def showDigests (r : DigestRules) (p : Parsed) : Tool Nat :=
  each (orInput p.operands) fun path => do
    if p.has 'c' then return ← checkDigests r path
    match r.kind, ← contents path with
    | _, .error fault => fail 1 (Quote.ifNeeded path ++ ": " ++ fault.words)
    | some kind, .ok text =>
      out (r.line kind path (Octets.toBytes text))
      return 0
    | none, .ok _ => return 0

/-- Shows digests of files, or checks them. -/
def digests (kind : DigestKind) : Tool Nat :=
  let flags := if kind.isFlexible then digestFlags else digestFlags.filter fun f => f.letter != 'l'
  withOptions flags 1 fun p => do
    match digestFault? p, digestLength kind p with
    | some message, _ => misuse 1 message
    | none, .error messages =>
      messages.forM complain
      return 1
    | none, .ok octets => showDigests (.ofOptions (some kind) octets p) p

/-- Shows sums of files with the numbers of their blocks. -/
def showSums (text : Text.Bytes → String) (p : Parsed) : Tool Nat :=
  each (orInput p.operands) fun path => do
    match ← contents path with
    | .error fault => fail 1 (Quote.ifNeeded path ++ ": " ++ fault.words)
    | .ok content =>
      out (text (Octets.toBytes content) ++ (if p.operands.isEmpty then ""
        else " " ++ path) ++ "\n")
      return 0

/-- A turned sum and the number of blocks of 1024 octets. -/
def turnedSumText (message : Text.Bytes) : String :=
  let digits := toString (Digest.turnedSum message)
  String.ofList (List.replicate (5 - digits.length) '0') ++ digits ++ " " ++
    Octets.padLeft 5 (toString ((message.length + 1023) / 1024))

/-- A plain sum and the number of blocks of 512 octets. -/
def plainSumText (message : Text.Bytes) : String :=
  toString (Digest.plainSum message) ++ " " ++ toString ((message.length + 511) / 512)

/-- A checksum and the number of octets. -/
def checksumText (message : Text.Bytes) : String :=
  toString (Digest.checksum message) ++ " " ++ toString message.length

/-- Shows sums of files. -/
def sum : Tool Nat :=
  withOptions [{ letter := 'r' }, { letter := 's', word := "sysv" }] 1 fun p =>
    showSums (if p.last? "rs" == some 's' then plainSumText else turnedSumText) p

/-- The sums by the words that choose them. -/
def sumKinds : List (String × (Text.Bytes → String)) :=
  [("bsd", turnedSumText), ("sysv", plainSumText), ("crc", checksumText)]

/-- The words that choose a sum or a digest. -/
def checksumWords : List String :=
  sumKinds.map (fun s => s.1) ++ DigestKind.named.map (fun n => n.1) ++ ["sm3"]

/-- The word that a word, perhaps shortened, stands for. -/
def checksumWord? (word : String) : Option String :=
  if checksumWords.contains word then some word
  else match checksumWords.filter fun n => word.toList.isPrefixOf n.toList with
    | [n] => some n
    | _ => none

/-- Shows checksums or digests of files. -/
def cksum : Tool Nat :=
  withOptions (digestFlags ++ [{ letter := 'a', word := "algorithm", takes := .required },
      { letter := '\x07', word := "untagged" }, { letter := '\x06', word := "base64" },
      { letter := '\x08', word := "raw" }, { letter := '\x0b', word := "debug" }]) 1 fun p => do
    let chosen := p.get? 'a'
    match checksumWord? (chosen.getD "crc") with
    | none =>
      misuse 1 ("invalid argument " ++ Quote.inWords (chosen.getD "") ++ " for " ++
        Quote.inWords "--algorithm" ++ "\nValid arguments are:" ++
        String.join (checksumWords.map fun w => "\n  - " ++ Quote.inWords w))
    | some word =>
      let sum? := sumKinds.find? fun s => s.1 == word
      let kind? := DigestKind.named.find? fun n => n.1 == word
      match sum?, kind? with
      | some s, _ =>
        if p.has 'c' && chosen.isSome then
          return ← fail 1 "--check is not supported with --algorithm=\x7bbsd,sysv,crc\x7d"
        if p.has 'c' then
          match digestFault? p with
          | some message => misuse 1 message
          | none => showDigests (.ofOptions none 0 p) p
        else showSums s.2 p
      | none, some (_, kind) =>
        match digestFault? p, digestLength kind p with
        | some message, _ => misuse 1 message
        | none, .error messages =>
          messages.forM complain
          return 1
        | none, .ok octets =>
          let isTagged := p.last? "\x01\x07" != some '\x07'
          showDigests { DigestRules.ofOptions (some kind) octets p with hasTag := isTagged } p
      | none, none => return 1

end CompileOrder.Shell.Utility
