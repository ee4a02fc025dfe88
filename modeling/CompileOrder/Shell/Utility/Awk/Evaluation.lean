import CompileOrder.Shell.Utility.Awk.Grammar
import CompileOrder.Shell.Utility.Awk.Output

/-!
# Evaluation of scripts for records

Expressions are evaluated and actions are taken, with a number of levels to go down.
-/

namespace CompileOrder.Shell.Awk

open Tool

/-- How expressions are evaluated and actions are taken one level down. -/
structure Evaluator where
  /-- The value of an expression. -/
  eval : Expr → Run Value
  /-- An action is taken. -/
  exec : Statement → Run Unit

/-- Where a value is put. -/
inductive Slot where
  /-- In a variable. -/
  | name (s : String)
  /-- In a field. -/
  | field (n : Nat)
  /-- In an element of a table. -/
  | element (table : Nat) (key : String)

/-- The value in a slot. -/
def Slot.load : Slot → Run Value
  | .name s => getName s
  | .field n => getField n
  | .element t key => getElement t key

/-- A value is put into a slot. -/
def Slot.store (v : Value) : Slot → Run Unit
  | .name s => setName s v
  | .field n => setField n v
  | .element t key => setElement t key v

/-- A format that is used with values. -/
structure Formatting where
  /-- The text so far, the last character first. -/
  text : List Char := []
  /-- The values that are left. -/
  values : List Value
  /-- Whether there were too few. -/
  isShort : Bool := false

namespace Formatting

/-- A text is added. -/
def put (f : Formatting) (cs : List Char) : Formatting := { f with text := cs.reverseAux f.text }

/-- The next value is taken. -/
def take (f : Formatting) : Value × Formatting :=
  match f.values with
  | v :: rest => (v, { f with values := rest })
  | [] => (.unset, { f with isShort := true })

/-- A width or a precision. -/
def count (f : Formatting) (cs : List Char) : Option Int × List Char × Formatting :=
  match cs with
  | '*' :: cs =>
    let (v, f) := f.take
    (some (Value.truncate v.toNumber), cs, f)
  | cs =>
    let ds := cs.takeWhile Char.isDigit
    (if ds.isEmpty then none else some (Octets.number ds), cs.drop ds.length, f)

/-- What a directive with a letter writes. -/
def directive (f : Formatting) (d : Format.Directive) (letter : Char) (source : List Char) :
    Formatting :=
  if !("sdicouxXeEfFgG".toList.contains letter) then f.put source
  else
    let (v, f) := f.take
    if f.isShort then f
    else match letter with
      | 's' => f.put (d.string (v.toText "%.6g"))
      | 'c' =>
        match v with
        | .number x => f.put (d.pad [Char.ofNat ((Value.truncate x).toNat % 256)])
        | v => f.put (d.pad [(v.toText "").toList.headD '\x00'])
      | 'd' | 'i' =>
        let x := v.toNumber
        if x.isNaN || x.isInf then f.put (Value.written { d with precision := none } 'f' x)
        else f.put (d.integer (Value.truncate x))
      | 'o' | 'u' | 'x' | 'X' =>
        let base := if letter == 'o' then 8 else if letter == 'u' then 10 else 16
        f.put (d.natural base (Arithmetic.bits (Value.truncate v.toNumber)) (letter == 'X'))
      | letter => f.put (Value.written d letter v.toNumber)

/-- The format is used from a place on, in at most `n` steps. -/
def run : Nat → Formatting → List Char → Formatting
  | 0, f, _ => f
  | _ + 1, f, [] => f
  | n + 1, f, c :: cs =>
    if f.isShort then f
    else if c != '%' then run n (f.put [c]) cs
    else match cs with
      | '%' :: rest => run n (f.put ['%']) rest
      | cs =>
        let flags := cs.takeWhile fun c => "#-+ 0".toList.contains c
        let (width, after, f) := f.count (cs.drop flags.length)
        let (precision, after, f) := match after with
          | '.' :: after =>
            let (p, after, f) := f.count after
            (some (p.getD 0), after, f)
          | after => (none, after, f)
        let width := width.getD 0
        let d : Format.Directive := {
          flags := if width < 0 then '-' :: flags else flags
          width := width.natAbs
          precision := precision.bind fun p => if p < 0 then none else some p.toNat }
        match after with
        | [] => f.put ('%' :: cs)
        | letter :: rest =>
          run n (f.directive d letter ('%' :: cs.take (cs.length - rest.length))) rest

end Formatting

/-- Values by a format; what was written of it if there are too few. -/
def formatted (format : String) (values : List Value) : Except String String :=
  let f := Formatting.run (format.length + 1) { values := values } format.toList
  let text := String.ofList f.text.reverse
  if f.isShort then .error text else .ok text

/-- What a stretch is replaced by: an ampersand stands for the stretch. -/
def replacement (found : String) : List Char → List Char
  | [] => []
  | '\\' :: '&' :: cs => '&' :: replacement found cs
  | '\\' :: '\\' :: cs => '\\' :: replacement found cs
  | '&' :: cs => found.toList ++ replacement found cs
  | c :: cs => c :: replacement found cs

/-- The stretches of a text that a regular expression describes are replaced, from a place
on, the first one or all of at most `n`. The text and the number of stretches. -/
def substituteFrom (r : Regex) (new : List Char) (isAll : Bool) (chars : Array Char) :
    Nat → Nat → Bool → List Char × Nat
  | 0, place, _ => (chars.toList.drop place, 0)
  | n + 1, place, afterMatch =>
    let accept (first last : Nat) : Bool := !(afterMatch && first == place && last == place)
    match r.search chars place false accept with
    | none => (chars.toList.drop place, 0)
    | some found =>
      let before := (Regex.stretch chars place found.first).toList
      let written := before ++ replacement (Regex.stretch chars found.first found.last) new
      if !isAll then (written ++ chars.toList.drop found.last, 1)
      else if found.first == found.last then
        if chars.size ≤ found.last then (written, 1)
        else
          let kept := (Regex.stretch chars found.last (found.last + 1)).toList
          let (rest, count) := substituteFrom r new isAll chars n (found.last + 1) false
          (written ++ kept ++ rest, count + 1)
      else
        let (rest, count) := substituteFrom r new isAll chars n found.last true
        (written ++ rest, count + 1)

/-- A part of a text by its place and its length. -/
def part (s : String) (start : Float) (length : Option Float) : String :=
  let round (x : Float) : Float := (x + 0.5).floor
  let first := round start
  let last := match length with
    | some n => first + round n
    | none => s.length.toFloat + 1
  let low := if first < 1 then 1 else first
  let high := if s.length.toFloat + 1 < last then s.length.toFloat + 1 else last
  if high ≤ low then ""
  else
    let i := (Value.truncate low).toNat - 1
    String.ofList ((s.toList.drop i).take ((Value.truncate high).toNat - 1 - i))

/-- The place at which a text stands in another; nought if it does not. -/
def placeOf (text : List Char) : Nat → List Char → Nat
  | i, [] => if text.isEmpty then i + 1 else 0
  | i, c :: cs => if text.isPrefixOf (c :: cs) then i + 1 else placeOf text (i + 1) cs

section

variable (launch : Launch) (e : Evaluator)

/-- The key that expressions stand for. -/
def keyOf (keys : List Expr) : Run String := do
  let texts ← keys.mapM fun k => do textOf (← e.eval k)
  match texts with
  | [t] => return t
  | ts => return (← globalText "SUBSEP").intercalate ts

/-- The slot that an expression stands for. -/
def slot (target : Expr) : Run Slot := do
  match target with
  | .name s => return .name s
  | .field place => return .field (← fieldNumber (← e.eval place))
  | .element name keys =>
    let key ← keyOf e keys
    return .element (← tableNamed name) key
  | _ => throw (.runFault "bad assignment")

/-- The regular expression that an expression stands for. -/
def patternOf (x : Expr) : Run Regex := do
  match x with
  | .pattern s => return regex s
  | x => return regex (← textOf (← e.eval x))

/-- A record that was read is put where it belongs. The value is one, or nought if there
was none. -/
def deliver (target : Option Expr) (record : Option String) : Run Value := do
  match record with
  | none => return .number 0
  | some text =>
    match target with
    | some t => (← slot e t).store (.input text)
    | none => setRecord (.input text)
    return .number 1

/-- The number of records is counted up. -/
def countRecord (record : Option String) : Run Unit := do
  if record.isSome then setGlobal "NR" (.number ((← global "NR").toNumber + 1))

/-- What a call passes for an argument. -/
def passed (arg : Expr) : Run Local := do
  match arg with
  | .name s =>
    match ← local? s with
    | some l => return l
    | none =>
      let state ← get
      if let some n := state.names[s]? then return .table n
      if state.globals.contains s then return .value (← getName s)
      return .free (← newTable)
  | arg => return .value (← e.eval arg)

/-- Names that were nothing before a call and are tables after it get these tables. -/
def adopt (arg : Expr) (before : Local) (after : Option Local) : Run Unit := do
  match arg, before, after with
  | .name s, .free _, some (.table n) =>
    match ← local? s with
    | some _ => setLocal s (.table n)
    | none => modify fun state => { state with names := state.names.insert s n }
  | _, _, _ => pure ()

/-- A function of the script is called. -/
def callProcedure (p : Procedure) (args : List Expr) : Run Value := do
  let given ← args.mapM (passed e)
  let missing ← (p.parameters.drop args.length).mapM fun _ => do return Local.free (← newTable)
  let outer := (← get).frame
  modify fun s => { s with frame := p.parameters.zip (given ++ missing) }
  let result ← try
      e.exec p.body
      pure Value.unset
    catch jump =>
      match jump with
      | .return v => pure v
      | jump => throw jump
  let inner := (← get).frame
  modify fun s => { s with frame := outer }
  for ((arg, before), name) in (args.zip given).zip p.parameters do
    adopt arg before ((inner.find? fun f => f.1 == name).map fun f => f.2)
  return result

/-- Stretches of a text are replaced. -/
def substitute (isAll : Bool) (args : List Expr) : Run Value := do
  match args with
  | pattern :: new :: rest =>
    let r ← patternOf e pattern
    let new ← textOf (← e.eval new)
    let place ← slot e (rest.headD (.field (.number 0)))
    let text ← textOf (← place.load)
    let chars := text.toList.toArray
    let (changed, count) := substituteFrom r new.toList isAll chars (chars.size + 2) 0 false
    if count != 0 then place.store (.text (String.ofList changed))
    return .number count.toFloat
  | _ => return .unset

/-- A text is divided into the elements of a table. -/
def split (args : List Expr) : Run Value := do
  match args with
  | text :: .name name :: rest =>
    let text ← textOf (← e.eval text)
    let parts ← match rest with
      | .pattern s :: _ =>
        pure (if text.isEmpty then []
          else stretchesFrom (regex s) text.toList.toArray (text.length + 1) 0 0)
      | separator :: _ => do
        let separator ← textOf (← e.eval separator)
        pure (divide separator text)
      | [] => do
        let separator ← globalText "FS"
        pure (divide separator text)
    let n ← tableNamed name
    setTable n ∅
    for (p, i) in parts.zipIdx do setElement n (toString (i + 1)) (.input p)
    return .number parts.length.toFloat
  | _ => throw (.runFault "split() needs a table")

/-- A function of one number. -/
def numeric? : String → Option (Float → Float)
  | "sin" => some Float.sin
  | "cos" => some Float.cos
  | "exp" => some Float.exp
  | "log" => some Float.log
  | "sqrt" => some Float.sqrt
  | "int" => some fun x => if x < 0 then x.ceil else x.floor
  | _ => none

/-- Values by the format before them, for the function with a name. -/
def format (name : String) (values : List Value) : Run (Except String String × String) := do
  match values with
  | [] => return (.ok "", "")
  | f :: values =>
    let format ← textOf f
    return (formatted format values,
      "not enough arguments passed to " ++ name ++ "(\"" ++ format ++ "\")")

/-- A function that every script has. -/
def callBuiltin (name : String) (args : List Expr) : Run Value := do
  match name, args with
  | "length", [] => return .number (← textOf (← getField 0)).length.toFloat
  | "length", [.name s] =>
    let state ← get
    let isTable := match ← local? s with
      | some (.table _) => true
      | some _ => false
      | none => state.names.contains s
    if isTable then return .number (← table (← tableNamed s)).size.toFloat
    return .number (← textOf (← getName s)).length.toFloat
  | "sub", args => substitute e false args
  | "gsub", args => substitute e true args
  | "split", args => split e args
  | "match", text :: pattern :: _ =>
    let text ← textOf (← e.eval text)
    let found := (← patternOf e pattern).search text.toList.toArray 0
    let (start, length) : Float × Float := match found with
      | some m => ((m.first + 1).toFloat, (m.last - m.first).toFloat)
      | none => (0, -1)
    setGlobal "RSTART" (.number start)
    setGlobal "RLENGTH" (.number length)
    return .number start
  | name, args =>
    let values ← args.mapM e.eval
    let first := values.headD .unset
    if let some f := numeric? name then return .number (f first.toNumber)
    match name, values with
    | "length", v :: _ => return .number (← textOf v).length.toFloat
    | "substr", s :: start :: rest =>
      return .text (part (← textOf s) start.toNumber (rest.head?.map Value.toNumber))
    | "index", s :: t :: _ =>
      return .number (placeOf (← textOf t).toList 0 (← textOf s).toList).toFloat
    | "atan2", y :: x :: _ => return .number (Float.atan2 y.toNumber x.toNumber)
    | "tolower", s :: _ => return .text (String.ofList ((← textOf s).toList.map Char.toLower))
    | "toupper", s :: _ => return .text (String.ofList ((← textOf s).toList.map Char.toUpper))
    | "sprintf", values =>
      match ← format "sprintf" values with
      | (.ok text, _) => return .text text
      | (.error _, message) => throw (.runFault message)
    | "system", c :: _ =>
      flushFiles
      let code ← tool (runCommand launch (← textOf c) [])
      return .number code.toFloat
    | "close", s :: _ => return .number (Float.ofInt (← close launch (← textOf s)))
    | "fflush", _ =>
      flushFiles
      return .number 0
    | "rand", _ =>
      modify fun s => { s with seed := (s.seed * 1103515245 + 12345) % 2147483648 }
      return .number ((← get).seed.toFloat / 2147483648)
    | "srand", _ =>
      let old := (← get).seed
      modify fun s => { s with seed := (Value.truncate first.toNumber).toNat % 2147483648 }
      return .number old.toFloat
    | _, _ => return .unset

/-- The value of an expression. -/
def evaluate (x : Expr) : Run Value := do
  let numberOf (x : Expr) : Run Float := do return (← e.eval x).toNumber
  match x with
  | .number x => return .number x
  | .text s => return .text s
  | .pattern s => return .ofBool ((regex s).isIn (← textOf (← getField 0)))
  | .name s => getName s
  | .field place => getField (← fieldNumber (← e.eval place))
  | .element name keys =>
    let key ← keyOf e keys
    getElement (← tableNamed name) key
  | .assign none target value =>
    let v ← e.eval value
    (← slot e target).store v
    return v
  | .assign (some operation) target value =>
    let v ← numberOf value
    let place ← slot e target
    let result := Value.number (Value.operate operation (← place.load).toNumber v)
    place.store result
    return result
  | .step isBefore isUp target =>
    let place ← slot e target
    let old := (← place.load).toNumber
    let new := if isUp then old + 1 else old - 1
    place.store (.number new)
    return .number (if isBefore then new else old)
  | .negative a => return .number (-(← numberOf a))
  | .positive a => return .number (← numberOf a)
  | .operate operation a b =>
    let x ← numberOf a
    return .number (Value.operate operation x (← numberOf b))
  | .join a b =>
    let s ← textOf (← e.eval a)
    return .text (s ++ (← textOf (← e.eval b)))
  | .compare relation a b =>
    let v ← e.eval a
    let w ← e.eval b
    return .ofBool (Value.compare (← globalText "CONVFMT") relation v w)
  | .matching isWanted a b =>
    let s ← textOf (← e.eval a)
    return .ofBool ((← patternOf e b).isIn s == isWanted)
  | .isIn keys name =>
    let key ← keyOf e keys
    return .ofBool ((← table (← tableNamed name)).contains key)
  | .not a => return .ofBool (!(← e.eval a).holds)
  | .and a b =>
    if (← e.eval a).holds then return .ofBool (← e.eval b).holds
    return .ofBool false
  | .or a b =>
    if (← e.eval a).holds then return .ofBool true
    return .ofBool (← e.eval b).holds
  | .choose c a b => if (← e.eval c).holds then e.eval a else e.eval b
  | .call name args =>
    match (← get).script.procedures.find? fun p => p.1 == name with
    | some (_, p) => callProcedure e p args
    | none => return .unset
  | .builtin name args => callBuiltin launch e name args
  | .readInput target =>
    let record ← nextRecord
    deliver e target record
  | .readFile target path =>
    match ← fileRecord (← textOf (← e.eval path)) with
    | none => return .number (-1)
    | some record => deliver e target record
  | .readCommand target command =>
    let record ← commandRecord launch (← textOf (← e.eval command))
    countRecord record
    deliver e target record

/-- A text is written where it is to go. -/
def writeOut (destination : Destination) (text : String) : Run Unit := do
  match destination with
  | .output => tool (out text)
  | .file path => writeTo (← textOf (← e.eval path)) false false text
  | .endOf path => writeTo (← textOf (← e.eval path)) false true text
  | .command command => writeTo (← textOf (← e.eval command)) true false text

/-- A value as `print` writes it. -/
def printedText (v : Value) : Run String := do
  match v with
  | .number x => return Value.numberText (← globalText "OFMT") x
  | v => textOf v

/-- A body is run as long as a condition holds, at most `n` times; a step follows each
pass. -/
def loopFrom (condition : Run Bool) (body step : Run Unit) : Nat → Run Unit
  | 0 => return
  | n + 1 => do
    if !(← condition) then return
    let isLeft ← try
        body
        pure false
      catch jump =>
        match jump with
        | .leave => pure true
        | .again => pure false
        | jump => throw jump
    if isLeft then return
    step
    loopFrom condition body step n

/-- The number of passes that a loop makes at most. -/
def maxPasses : Nat := 10000000

/-- An action is taken. -/
def execute (s : Statement) : Run Unit := do
  let holds (c : Expr) : Run Bool := do return (← e.eval c).holds
  match s with
  | .evaluate x => let _ ← e.eval x
  | .print args destination =>
    let values ← if args.isEmpty then do pure [← getField 0] else args.mapM e.eval
    let texts ← values.mapM printedText
    writeOut e destination ((← globalText "OFS").intercalate texts ++ (← globalText "ORS"))
  | .printf args destination =>
    let values ← args.mapM e.eval
    match ← format "printf" values with
    | (.ok text, _) => writeOut e destination text
    | (.error text, message) =>
      writeOut e destination text
      throw (.runFault message)
  | .block body => body.forM e.exec
  | .branch c body otherwise =>
    if ← holds c then e.exec body
    else match otherwise with
      | some s => e.exec s
      | none => pure ()
  | .while c body => loopFrom (holds c) (e.exec body) (pure ()) maxPasses
  | .repeat body c =>
    let isLeft ← try
        e.exec body
        pure false
      catch jump =>
        match jump with
        | .leave => pure true
        | .again => pure false
        | jump => throw jump
    if !isLeft then loopFrom (holds c) (e.exec body) (pure ()) maxPasses
  | .loop start c step body =>
    if let some s := start then e.exec s
    let condition : Run Bool := match c with
      | some c => holds c
      | none => pure true
    let step : Run Unit := match step with
      | some s => e.exec s
      | none => pure ()
    loopFrom condition (e.exec body) step maxPasses
  | .forEach name tableName body =>
    let n ← tableNamed tableName
    let keys := keysOf (← table n)
    let pass (key : String) : Run Bool := do
      setName name (.text key)
      try
        e.exec body
        pure true
      catch jump =>
        match jump with
        | .leave => pure false
        | .again => pure true
        | jump => throw jump
    let mut goesOn := true
    for key in keys do
      if goesOn then goesOn := ← pass key
  | .leave => throw .leave
  | .again => throw .again
  | .next => throw .next
  | .nextFile => throw .nextFile
  | .exit none => throw (.exit none)
  | .exit (some c) => throw (.exit (some ((Value.truncate (← e.eval c).toNumber) % 256).toNat))
  | .return none => throw (.return .unset)
  | .return (some v) => throw (.return (← e.eval v))
  | .delete name [] => setTable (← tableNamed name) ∅
  | .delete name keys =>
    let key ← keyOf e keys
    let n ← tableNamed name
    setTable n ((← table n).erase key)

end

/-- The way expressions are evaluated with a number of levels to go down. -/
def evaluator (launch : Launch) : Nat → Evaluator
  | 0 => ⟨fun _ => throw (.runFault "function call nesting too deep"), fun _ => return⟩
  | n + 1 => ⟨fun x => evaluate launch (evaluator launch n) x,
      fun s => execute (evaluator launch n) s⟩

end CompileOrder.Shell.Awk
