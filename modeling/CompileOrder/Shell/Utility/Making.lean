import CompileOrder.Shell.Calendar.Reading
import CompileOrder.Shell.Mode
import CompileOrder.Shell.Utility.Entry

/-!
# Making files

Directories, files, and pipes with names are made; files get a length or a time.
-/

namespace CompileOrder.Shell.Utility

open Tool

/-- Makes directories. -/
def mkdir : Tool Nat :=
  withOptions [{ letter := 'm', word := "mode", takes := .required },
      { letter := 'p', word := "parents" }, { letter := 'v', word := "verbose" },
      { letter := 'Z', word := "context", takes := .optional }] 1 fun p => do
    let changes := (p.get? 'm').map Mode.read?
    if p.operands.isEmpty then misuse 1 "missing operand"
    else if changes == some none then
      fail 1 ("invalid mode " ++ Quote.inWords ((p.get? 'm').getD ""))
    else each p.operands fun path => do
      let make (path : String) (isLast : Bool) : Tool Nat := do
        let m ← get
        if p.has 'p' && m.isDirectory path then return 0
        match m.tree.makeDirectory (Octets.toText path) with
        | .ok t =>
          set (m.withTree t)
          match changes, isLast, t.locate (Octets.toText path) with
          | some (some cs), true, .ok place =>
            modify fun m => amend m place fun a =>
              { a with mode := Mode.apply true m.tree.mask cs 0o777 }
          | _, _, _ => pure ()
          if p.has 'v' then out ((← name) ++ ": created directory " ++ Quote.always path ++ "\n")
          return 0
        | .error fault =>
          fail 1 ("cannot create directory " ++ Quote.inWords path ++ ": " ++ fault.words)
      if p.has 'p' && !path.isEmpty then
        let mut code := 0
        let steps := pathsDown path
        let last := withoutSlashes path
        for above in steps do
          if code == 0 then
            let m ← get
            if m.holds above && !m.isDirectory above && above != last then
              code := ← fail 1 ("cannot create directory " ++ Quote.inWords above ++ ": " ++
                FileFault.notDirectory.words)
            else code := ← make above (above == last)
        return code
      else make path true

/-- Makes pipes that have names. -/
def mkfifo : Tool Nat :=
  withOptions [{ letter := 'm', word := "mode", takes := .required },
      { letter := 'Z', word := "context", takes := .optional }] 1 fun p => do
    let changes := (p.get? 'm').map Mode.read?
    if p.operands.isEmpty then misuse 1 "missing operand"
    else if changes == some none then fail 1 "invalid mode"
    else each p.operands fun path => do
      let m ← get
      let result : Except FileFault (List String) := do
        let place ← newPlace m path
        if (m.tree.root.get? place).isSome then throw .alreadyExists
        else if Path.endsWithSlash path then throw .notFound
        else return place
      match result with
      | .error fault => fail 1 ("cannot create fifo " ++ Quote.always path ++ ": " ++ fault.words)
      | .ok place =>
        let attributes := match changes with
          | some (some cs) =>
            { m.tree.newAttributes 0o666 with mode := Mode.apply false m.tree.mask cs 0o666 }
          | _ => m.tree.newAttributes 0o666
        set (m.withTree (m.tree.put place (.pipe [] attributes)))
        return 0

/-- The time that a stamp spells: month, day, hour and minute in two digits each, perhaps
a year before them and seconds after a point. -/
def stampTime? (now : Time) (text : String) : Option Time := do
  let (main, seconds) ← match text.splitOn "." with
    | [main] => some (main.toList, ['0', '0'])
    | [main, seconds] => some (main.toList, seconds.toList)
    | _ => none
  if !main.all Char.isDigit || !seconds.all Char.isDigit || seconds.length != 2 then none
  let here := Moment.ofTime now
  let n := main.length
  let (year, rest) ← match n with
    | 8 => some (here.year, main)
    | 10 => some (Calendar.yearOf (main.take 2), main.drop 2)
    | 12 => some ((Octets.number (main.take 4) : Int), main.drop 4)
    | _ => none
  let pair (i : Nat) : Nat := Octets.number ((rest.drop i).take 2)
  let (month, day, hour, minute, second) := (pair 0, pair 2, pair 4, pair 6, Octets.number seconds)
  if Moment.ofDays (Moment.daysTo year month day) != (year, month, day) || month == 0 ||
      12 < month || 23 < hour || 59 < minute || 60 < second then none
  return Moment.toTime ⟨year, month, day, hour, minute, second, 0⟩

/-- Which times of files are set. -/
structure Stamping where
  /-- The time of use, if it is set. -/
  accessed : Option Time
  /-- The time of change, if it is set. -/
  modified : Option Time
  deriving DecidableEq, Repr

/-- The times that the options ask for; a failure is reported. -/
def stampingOf (p : Parsed) : Tool (Except Nat Stamping) := do
  let m ← get
  let reference ← match p.get? 'r' with
    | none => pure (some (m.time, m.time))
    | some path =>
      match if p.has 'h' then m.findSelf path else m.find path with
      | .ok n => pure (some (n.about.accessed, n.about.modified))
      | .error fault =>
        complain ("failed to get attributes of " ++ Quote.always path ++ ": " ++ fault.words)
        pure none
  match reference with
  | none => return .error 1
  | some (accessed, modified) =>
    let times? := match p.get? 'd', p.get? 't' with
      | some text, _ => do
        return (← Calendar.read? accessed text, ← Calendar.read? modified text)
      | none, some stamp => do
        let time ← stampTime? m.time stamp
        return (time, time)
      | none, none => some (accessed, modified)
    match times? with
    | none =>
      let text := ((p.get? 'd').or (p.get? 't')).getD ""
      return .error (← fail 1 ("invalid date format " ++ Quote.inWords text))
    | some (accessed, modified) =>
      let words := p.options.filterMap fun o => match o.1, o.2 with
        | 'a', _ | '\x01', "atime" | '\x01', "access" | '\x01', "use" => some 'a'
        | 'm', _ | '\x01', "mtime" | '\x01', "modify" => some 'm'
        | _, _ => none
      let all := words.isEmpty
      return .ok {
        accessed := if all || words.contains 'a' then some accessed else none
        modified := if all || words.contains 'm' then some modified else none }

/-- Sets the times of files, which are made if they are not there. -/
def touch : Tool Nat :=
  withOptions [{ letter := 'a' }, { letter := 'c', word := "no-create" },
      { letter := 'd', word := "date", takes := .required }, { letter := 'f' },
      { letter := 'h', word := "no-dereference" }, { letter := 'm' },
      { letter := 'r', word := "reference", takes := .required },
      { letter := 't', takes := .required },
      { letter := '\x01', word := "time", takes := .required }] 1
    fun p => do
      let words := ["atime", "access", "use", "mtime", "modify"]
      match p.options.find? fun o => o.1 == '\x01' && !words.contains o.2 with
      | some o =>
        complain ("invalid argument " ++ Quote.inWords o.2 ++ " for " ++ Quote.inWords "--time")
        let list (ws : List String) : String :=
          "  - " ++ ", ".intercalate (ws.map Quote.inWords) ++ "\n"
        err ("Valid arguments are:\n" ++ list (words.take 3) ++ list (words.drop 3))
        err ("Try '" ++ (← name) ++ " --help' for more information.\n")
        return 1
      | none => pure ()
      if p.has 't' && (p.has 'd' || p.has 'r') then
        return ← misuse 1 "cannot specify times from more than one source"
      match ← stampingOf p with
      | .error code => return code
      | .ok stamping =>
        if p.operands.isEmpty then return ← misuse 1 "missing file operand"
        each p.operands fun path => do
          if path == "-" then return 0
          let m ← get
          let made := if m.holds path || p.has 'c' || p.has 'h' then .ok m else m.writeFile path []
          match made with
          | .error fault =>
            if Path.endsWithSlash path then
              let fault := match m.find path with
                | .error f => f
                | .ok _ => fault
              fail 1 ("setting times of " ++ Quote.always path ++ ": " ++ fault.words)
            else fail 1 ("cannot touch " ++ Quote.always path ++ ": " ++ fault.words)
          | .ok m =>
            match if p.has 'h' then m.locateSelf path else m.locate path with
            | .ok place =>
              set (amend m place fun a => { a with
                accessed := stamping.accessed.getD a.accessed
                modified := stamping.modified.getD a.modified })
              return 0
            | .error fault =>
              if p.has 'c' then return 0
              fail 1 ("setting times of " ++ Quote.always path ++ ": " ++ fault.words)

/-- The factor that letters after a number stand for. -/
def factorOf? : List Char → Option Nat
  | [] => some 1
  | ['b'] => some 512
  | ['c'] => some 1
  | ['w'] => some 2
  | unit :: rest =>
    let powers := [('K', 1), ('k', 1), ('M', 2), ('G', 3), ('T', 4), ('P', 5), ('E', 6)]
    match powers.find? fun p => p.1 == unit, rest with
    | some (_, n), [] | some (_, n), ['i', 'B'] => some (Nat.pow 1024 n)
    | some (_, n), ['B'] | some (_, n), ['D'] => some (Nat.pow 1000 n)
    | _, _ => none

/-- The number that digits and perhaps letters for a factor spell. -/
def amount? (text : String) : Option Nat := do
  let cs := text.toList
  let ds := cs.takeWhile Char.isDigit
  let factor ← factorOf? (cs.drop ds.length)
  if ds.isEmpty then if cs.isEmpty then none else return factor
  return Octets.number ds * factor

/-- Makes files of a length. -/
def truncate : Tool Nat :=
  withOptions [{ letter := 'c', word := "no-create" },
      { letter := 's', word := "size", takes := .required },
      { letter := 'r', word := "reference", takes := .required },
      { letter := 'o', word := "io-blocks" }] 1 fun p => do
    let words (option : String) : String := Quote.inWords option
    let size? := (p.get? 's').map fun s =>
      let cs := s.toList.dropWhile Octets.isSpace
      let sign := cs.head?.filter fun c => "+-<>/%".toList.contains c
      (sign, amount? (String.ofList (if sign.isSome then cs.tail else cs)))
    match size?, p.get? 'r' with
    | some (_, none), _ => fail 1 ("Invalid number: " ++ words ((p.get? 's').getD ""))
    | some (some '/', some 0), _ | some (some '%', some 0), _ => fail 1 "division by zero"
    | none, none => misuse 1 ("you must specify either " ++ words "--size" ++ " or " ++
        words "--reference")
    | some (none, _), some _ => misuse 1 ("you must specify a relative " ++ words "--size" ++
        " with " ++ words "--reference")
    | size?, reference =>
      if p.has 'o' && size?.isNone then
        return ← misuse 1 (words "--io-blocks" ++ " was specified but " ++ words "--size" ++
          " was not")
      if p.operands.isEmpty then return ← misuse 1 "missing file operand"
      let m ← get
      let known ← match reference with
        | none => pure (some none)
        | some path =>
          match m.find path with
          | .ok (.file bytes _) => pure (some (some bytes.length))
          | .ok _ => pure (some (some 0))
          | .error fault =>
            complain ("cannot stat " ++ Quote.always path ++ ": " ++ fault.words)
            pure none
      match known with
      | none => return 1
      | some known =>
        each p.operands fun path => do
          let m ← get
          if p.has 'c' && !m.holds path then return 0
          if m.isDirectory path then
            return ← fail 1 ("cannot open " ++ Quote.always path ++ " for writing: " ++
              FileFault.isDirectory.words)
          let old := Octets.toBytes ((m.read path).toOption.getD "")
          let start := known.getD old.length
          let n := ((size?.bind fun s => s.2).getD 0) * (if p.has 'o' then 4096 else 1)
          let length := match size?.bind fun s => s.1 with
            | some '+' => start + n
            | some '-' => start - n
            | some '<' => min start n
            | some '>' => max start n
            | some '/' => start / n * n
            | some '%' => (start + n - 1) / n * n
            | _ => if size?.isSome then n else start
          match m.writeFile path (old.take length ++ List.replicate (length - old.length) 0) with
          | .ok m =>
            set m
            return 0
          | .error fault =>
            fail 1 ("cannot open " ++ Quote.always path ++ " for writing: " ++ fault.words)

/-- The first name of a form `stem`, a number and an ending that is not used, among the
next `n`. -/
def unusedName (m : Machine) (stem ending : String) : Nat → Nat → String
  | 0, i => stem ++ toString i ++ ending
  | n + 1, i =>
    let path := stem ++ toString i ++ ending
    if m.names path then unusedName m stem ending n (i + 1) else path

/-- Makes a file with a new name. -/
def mktemp : Tool Nat :=
  withOptions [{ letter := 'd', word := "directory" }, { letter := 'u', word := "dry-run" },
      { letter := 'q', word := "quiet" }, { letter := 'p', takes := .required },
      { letter := '\x02', word := "tmpdir", takes := .optional },
      { letter := 't' }, { letter := '\x01', word := "suffix", takes := .required }] 1 fun p => do
    let say (message : String) : Tool Nat := if p.has 'q' then return 1 else fail 1 message
    if 1 < p.operands.length then return ← misuse 1 "too many templates"
    let template := p.operands.head?.getD "tmp.XXXXXXXXXX"
    let cs := template.toList
    let (lead, ending) := match p.get? '\x01' with
      | some suffix => (cs, suffix)
      | none =>
        let after := (cs.reverse.takeWhile fun c => c != 'X').reverse
        (cs.take (cs.length - after.length), String.ofList after)
    if p.has '\x01' && cs.getLast? != some 'X' then
      return ← fail 1 ("with --suffix, template " ++ Quote.inWords template ++ " must end in X")
    if ending.toList.contains '/' then
      return ← fail 1 ("invalid suffix " ++ Quote.inWords ending ++
        ", contains directory separator")
    let stem := (lead.reverse.dropWhile fun c => c == 'X').reverse
    let width := lead.length - stem.length
    if width < 3 then
      return ← fail 1 ("too few X's in template " ++ Quote.inWords template)
    let asked := ((p.options.reverse.find? fun o => o.1 == 'p' || o.1 == '\x02').map fun o =>
      o.2).filter fun d => !d.isEmpty
    let isInside := p.operands.isEmpty || p.has 't' || p.has 'p' || p.has '\x02'
    let usual := ((← entry? "TMPDIR").filter fun d => !d.isEmpty).getD "/tmp"
    let directory := if p.has 't' then if usual != "/tmp" then usual else asked.getD usual
      else asked.getD usual
    if isInside && p.has 't' && cs.contains '/' then
      return ← fail 1 ("invalid template, " ++ Quote.inWords template ++
        ", contains directory separator")
    if isInside && cs.head? == some '/' then
      return ← fail 1 ("invalid template, " ++ Quote.inWords template ++
        "; with --tmpdir, it may not be absolute")
    let place := if isInside then entryPath directory "" else ""
    let path := unusedName (← get) (place ++ String.ofList stem ++
      String.ofList (List.replicate (width - 3) 'a')) ending 800 100
    let m ← get
    let made := if p.has 'd' then
        (m.tree.makeDirectoryWith 0o700 (Octets.toText path)).map m.withTree
      else (m.writeFile path []).map fun m => match m.locate path with
        | .ok place => amend m place fun a => { a with mode := 0o600 }
        | .error _ => m
    match made with
    | .ok made =>
      if !p.has 'u' then set made
      outLines [path]
      return 0
    | .error fault =>
      say ("failed to create " ++ (if p.has 'd' then "directory" else "file") ++
        " via template " ++ Quote.inWords (place ++ template) ++ ": " ++ fault.words)

end CompileOrder.Shell.Utility
