import CompileOrder.Shell.Utility.Details
import CompileOrder.Shell.Utility.Splitting

/-!
# Copying blocks

A file is copied in blocks, of which some at its start may be left out; octets may be
converted on the way. It is told how many blocks have been read and written.
-/

namespace CompileOrder.Shell.Utility

open Tool

/-- The number that a text spells, a product of numbers with factors. -/
def blockAmount? (text : String) : Option Nat :=
  (text.splitOn "x").foldlM (fun n part => (amount? part).map (n * ·)) 1

/-- The operands of copying blocks, as names and values. -/
abbrev BlockOptions := List (String × String)

namespace BlockOptions

/-- The last value of a name. -/
def get? (o : BlockOptions) (name : String) : Option String :=
  (o.reverse.find? fun v => v.1 == name).map fun v => v.2

/-- The words that the values of a name separate by commas. -/
def words (o : BlockOptions) (name : String) : List String :=
  (o.filter fun v => v.1 == name).flatMap fun v => v.2.splitOn ","

/-- The names that there are. -/
def names : List String :=
  ["if", "of", "bs", "ibs", "obs", "cbs", "count", "skip", "iseek", "seek", "oseek", "conv",
    "status", "iflag", "oflag"]

/-- The conversions that there are. -/
def conversions : List String :=
  ["ascii", "ebcdic", "ibm", "block", "unblock", "lcase", "ucase", "sparse", "swab", "sync",
    "excl", "nocreat", "notrunc", "noerror", "fdatasync", "fsync"]

/-- The levels of what is told. -/
def levels : List String := ["none", "noxfer", "progress"]

/-- The flags that there are. -/
def flagWords : List String :=
  ["append", "count_bytes", "skip_bytes", "seek_bytes", "fullblock", "direct", "directory", "dsync",
    "sync", "nonblock", "noatime", "nocache", "noctty", "nofollow", "binary", "text", "cio"]

/-- What is wrong with the operands: a message, and whether a hint follows it. -/
def fault? (o : BlockOptions) : Option (String × Bool) :=
  let number (v : String × String) : Option (String × Bool) :=
    let isSize := ["bs", "ibs", "obs", "cbs"].contains v.1
    let text := if !isSize && v.2.toList.getLast? == some 'B' &&
        (v.2.toList.dropLast.getLast?.map Char.isDigit).getD false then
        String.ofList v.2.toList.dropLast else v.2
    match blockAmount? text with
    | none => some ("invalid number: " ++ Quote.always v.2, false)
    | some 0 => if isSize then some ("invalid number: " ++ Quote.always v.2, false) else none
    | some _ => none
  let listed (kind : String) (valid : List String) (text : String) : Option (String × Bool) :=
    ((text.splitOn ",").find? fun w => !valid.contains w).map fun w =>
      ("invalid " ++ kind ++ ": " ++ Quote.inWords w, true)
  let one (v : String × String) : Option (String × Bool) :=
    match v.1 with
    | "if" | "of" => none
    | "conv" => listed "conversion" conversions v.2
    | "status" => listed "status level" levels v.2
    | "iflag" => listed "input flag" flagWords v.2
    | "oflag" => listed "output flag" flagWords v.2
    | _ => number v
  let conv := o.words "conv"
  let both (a b : String) : Option (String × Bool) :=
    if conv.contains a && conv.contains b then
      some ("cannot combine " ++ a ++ " and " ++ b, false) else none
  ((o.findSome? one).or (both "lcase" "ucase")).or
    ((both "block" "unblock").or (both "excl" "nocreat"))

end BlockOptions

/-- Pairs of octets change places. -/
def swapPairs : List UInt8 → List UInt8
  | a :: b :: rest => b :: a :: swapPairs rest
  | rest => rest

/-- Records that end in line feeds, each filled up with blanks or cut to a length, and the
number of those that were cut. -/
def blockRecords (length : Nat) (bytes : Text.Bytes) : Text.Bytes × Nat :=
  let records := (recordsOf '\n' (Octets.ofBytes bytes)).map fun r =>
    (r.toList.filter fun c => c != '\n').map fun c => UInt8.ofNat c.toNat
  (records.flatMap fun r => r.take length ++ List.replicate (length - r.length) 32,
    (records.filter fun r => length < r.length).length)

/-- Records of a length, each without the blanks at its end and with a line feed. -/
def unblockRecords (length : Nat) (bytes : Text.Bytes) : Text.Bytes :=
  (stretches length (bytes.length + 1) bytes).flatMap fun r =>
    (r.reverse.dropWhile fun b => b == 32).reverse ++ [10]

/-- The octets of some blocks after a number of octets; what gives octets without end gives
as many as are needed. -/
def blocksOfInput (m : Machine) (path : Option String) (size : Nat) (skip : Nat)
    (limit : Option Nat) : Tool (Except FileFault Text.Bytes) := do
  match path with
  | none =>
    match ← input with
    | .ok text =>
      let bytes := (Octets.toBytes text).drop skip
      return .ok (match limit with
        | some n => bytes.take n
        | none => bytes)
    | .error fault => return .error fault
  | some path =>
    match m.find path with
    | .error fault => return .error fault
    | .ok node =>
      match node with
      | .device kind _ =>
        if kind == .null || kind == .terminal then return .ok []
        else return .ok (List.replicate (limit.getD (64 * size)) 0)
      | node =>
        match FileTree.readNode node with
        | .ok bytes =>
          let bytes := bytes.drop skip
          return .ok (match limit with
            | some n => bytes.take n
            | none => bytes)
        | .error fault => return .error fault

/-- A number of octets to the nearest tenth of its unit, or to the nearest unit from ten of them
on; the next unit is taken, in at most `steps` steps, from `base` of one unit on. -/
def inUnits (base n : Nat) : String :=
  go 1 base 8
where
  /-- The text with the unit of a power of the base. -/
  go (power unit : Nat) : Nat → String
    | 0 => toString n
    | steps + 1 =>
      let letter := ["", if base == 1000 then "k" else "K", "M", "G", "T", "P", "E", "Z", "Y"].getD
        power ""
      let tenths := (n * 20 + unit) / (unit * 2)
      let whole := (n * 2 + unit) / (unit * 2)
      if tenths < 100 then toString (tenths / 10) ++ "." ++ toString (tenths % 10) ++ " " ++ letter
      else if whole < base then toString whole ++ " " ++ letter
      else go (power + 1) (unit * base) steps

/-- Copies a file in blocks. -/
def dd : Tool Nat := do
  let words := (← args).filter fun w => w != "--"
  let options : BlockOptions := words.map fun w =>
    let name := String.ofList (w.toList.takeWhile fun c => c != '=')
    (name, Octets.dropFirst (name.length + 1) w)
  match words.find? fun w => !(w.toList.contains '=') ||
      !(BlockOptions.names.contains (String.ofList (w.toList.takeWhile fun c => c != '='))) with
  | some w => return ← misuse 1 ("unrecognized operand " ++ Quote.always w)
  | none => pure ()
  match options.fault? with
  | some (message, true) => return ← misuse 1 message
  | some (message, false) => return ← fail 1 message
  | none => pure ()
  let number (name : String) : Option Nat := (options.get? name).bind blockAmount?
  let unit (name : String) (flag : Bool) (size : Nat) : Option Nat :=
    (options.get? name).bind fun text =>
      if text.toList.getLast? == some 'B' && (blockAmount? text).isNone then
        blockAmount? (String.ofList text.toList.dropLast)
      else (blockAmount? text).map fun n => if flag then n else n * size
  let both := number "bs"
  let ibs := (both.or (number "ibs")).getD 512
  let obs := (both.or (number "obs")).getD 512
  let conv := options.words "conv"
  let iflags := options.words "iflag"
  let oflags := options.words "oflag"
  let skip := ((unit "skip" (iflags.contains "skip_bytes") ibs).or
    (unit "iseek" (iflags.contains "skip_bytes") ibs)).getD 0
  let seek := ((unit "seek" (oflags.contains "seek_bytes") obs).or
    (unit "oseek" (oflags.contains "seek_bytes") obs)).getD 0
  let limit := unit "count" (iflags.contains "count_bytes") ibs
  let level := (options.get? "status").getD ""
  let source := options.get? "if"
  let target := options.get? "of"
  let m ← get
  match source with
  | some path =>
    match m.find path with
    | .error fault =>
      return ← fail 1 ("failed to open " ++ Quote.always path ++ ": " ++ fault.words)
    | .ok _ => pure ()
  | none => pure ()
  match target with
  | some path =>
    let opened : Except FileFault Machine :=
      if conv.contains "excl" && m.names path then .error .alreadyExists
      else if conv.contains "nocreat" && !m.holds path then .error .notFound
      else if m.isDirectory path then .error .isDirectory
      else if conv.contains "notrunc" && m.holds path then .ok m
      else
        let kept := if seek == 0 then [] else
          (Octets.toBytes ((m.read path).toOption.getD "")).take seek
        m.writeFile path kept
    match opened with
    | .error fault =>
      return ← fail 1 ("failed to open " ++ Quote.always path ++ ": " ++ fault.words)
    | .ok m => set m
  | none => pure ()
  let total := match source.bind fun path => (m.find path).toOption with
    | some (.file bytes _) => some bytes.length
    | _ => none
  if 0 < skip && (total.any fun n => n < skip) && level != "none" then
    complain (Quote.ifNeeded (source.getD "standard input") ++ ": cannot skip to specified offset")
  let (bytes, code) ← match ← blocksOfInput m source ibs skip limit with
    | .ok bytes => pure (bytes, 0)
    | .error fault => do
      let code ← fail 1 ("error reading " ++ Quote.always (source.getD "standard input") ++ ": " ++
        fault.words)
      pure ([], code)
  let fullIn := bytes.length / ibs
  let partIn := if bytes.length % ibs == 0 then 0 else 1
  let fill : UInt8 := if conv.contains "block" || conv.contains "unblock" then 32 else 0
  let bytes := if conv.contains "sync" && partIn != 0 then
      bytes ++ List.replicate (ibs - bytes.length % ibs) fill
    else bytes
  let bytes := if conv.contains "swab" then swapPairs bytes else bytes
  let change (f : Char → Char) : Text.Bytes :=
    bytes.map fun b => UInt8.ofNat (f (Char.ofNat b.toNat)).toNat
  let bytes := if conv.contains "lcase" then change Char.toLower
    else if conv.contains "ucase" then change Char.toUpper else bytes
  let cbs := number "cbs"
  let (bytes, cut) := match cbs with
    | some n =>
      if conv.contains "block" then blockRecords n bytes
      else if conv.contains "unblock" then (unblockRecords n bytes, 0) else (bytes, 0)
    | none => (bytes, 0)
  let isDirect := both.isSome && !(conv.any fun c =>
    ["block", "unblock", "lcase", "ucase", "swab", "ascii", "ebcdic", "ibm"].contains c)
  let (fullOut, partOut) := if isDirect then
      if conv.contains "sync" then (fullIn + partIn, 0) else (fullIn, partIn)
    else (bytes.length / obs, if bytes.length % obs == 0 then 0 else 1)
  let written : Except FileFault Unit ← match target with
    | none => do
      match ← channel? 1 with
      | none => pure (if bytes.isEmpty then .ok () else .error .notOpen)
      | some i =>
        match (← get).write? i bytes with
        | some m =>
          set m
          pure (.ok ())
        | none => pure (.error (((← get).outputFault? (some i)).getD .noRoom))
    | some path => do
      let m ← get
      match m.find path with
      | .ok (.file old _) =>
        let offset := if oflags.contains "append" then old.length else seek
        match m.writeFile path (if bytes.isEmpty then old
          else Machine.overwrite old offset bytes) with
        | .ok m =>
          set m
          pure (.ok ())
        | .error fault => pure (.error fault)
      | _ =>
        match m.writeFile path bytes with
        | .ok m =>
          set m
          pure (.ok ())
        | .error fault => pure (.error fault)
  let (outCounts, code) ← match written with
    | .ok () => pure ((fullOut, partOut, bytes.length), code)
    | .error fault => do
      let code ← fail 1 ("error writing " ++ Quote.always (target.getD "standard output") ++ ": " ++
        fault.words)
      pure ((0, 0, 0), code)
  if level != "none" then
    err (toString fullIn ++ "+" ++ toString partIn ++ " records in\n" ++ toString outCounts.1 ++
      "+" ++ toString outCounts.2.1 ++ " records out\n")
    if cut != 0 then
      err (toString cut ++ (if cut == 1 then " truncated record\n" else " truncated records\n"))
    if level != "noxfer" then
      let n := outCounts.2.2
      err (toString n ++ (if n == 1 then " byte" else " bytes") ++
        (if n < 1000 then "" else if n < 1024 then " (" ++ inUnits 1000 n ++ "B)"
          else " (" ++ inUnits 1000 n ++ "B, " ++ inUnits 1024 n ++ "iB)") ++
        " copied, 0.0001 s, " ++ toString (n / 100) ++ " kB/s\n")
  return code

end CompileOrder.Shell.Utility
