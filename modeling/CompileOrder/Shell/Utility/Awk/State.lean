import CompileOrder.Shell.Utility.Awk.Value
import CompileOrder.Shell.Utility.Reading
import Std.Data.HashMap

/-!
# Scripts for records at work

What a running script knows: its variables and tables, the record at hand with its
fields, the input, and the files and commands it reads from and writes to. Fields are
found when they are needed; a field that is set makes the record anew.
-/

namespace CompileOrder.Shell.Awk

open Tool

/-- A table: its elements, each with the time of its last use. -/
abbrev Table := Std.HashMap String (Nat × Value)

/-- What a parameter of a function is. -/
inductive Local where
  /-- A value. -/
  | value (v : Value)
  /-- The table with a number. -/
  | table (number : Nat)
  /-- Nothing yet; it may become the table with a number. -/
  | free (number : Nat)

/-- What is written and not yet passed on, the last part first. -/
structure Sink where
  /-- The file or the command. -/
  name : String
  /-- Whether it is a command. -/
  isCommand : Bool
  /-- What is written. -/
  parts : List String := []

/-- What a running script knows. -/
structure State where
  /-- The script. -/
  script : Script
  /-- The variables. -/
  globals : Std.HashMap String Value := ∅
  /-- The numbers of the tables of the script. -/
  names : Std.HashMap String Nat := ∅
  /-- The tables by their numbers. -/
  tables : Std.HashMap Nat Table := ∅
  /-- The number of the next table. -/
  nextTable : Nat := 0
  /-- The parameters of the function that is running. -/
  frame : List (String × Local) := []
  /-- The record at hand. -/
  record : Value := .unset
  /-- Its fields, if they were needed. -/
  fields : Option (Array Value) := none
  /-- The arguments that are left. -/
  operands : List String := []
  /-- What is left of the file at hand. -/
  input : Option (List Char) := none
  /-- Whether a file was named. -/
  hasFile : Bool := false
  /-- The files that are read, with what is left of them. -/
  files : List (String × List Char) := []
  /-- The commands whose output is read, with what is left of it. -/
  commands : List (String × List Char) := []
  /-- The files and commands that are written to. -/
  sinks : List Sink := []
  /-- The numbers of the rules whose last record has not come. -/
  active : List Nat := []
  /-- The number of uses of tables. -/
  ticks : Nat := 0
  /-- The last number drawn. -/
  seed : Nat := 1

/-- Why the script goes on somewhere else. -/
inductive Jump where
  /-- The record is done. -/
  | next
  /-- The file is done. -/
  | nextFile
  /-- The script ends. -/
  | exit (code : Option Nat)
  /-- The function ends. -/
  | return (v : Value)
  /-- The loop is left. -/
  | leave
  /-- The pass of the loop is over. -/
  | again
  /-- Something is not possible. -/
  | fault (message : String)
  /-- Something is not possible for the record at hand. -/
  | runFault (message : String)

/-- An action of a script. -/
abbrev Run := ExceptT Jump (StateT State Tool)

/-- The value of a variable of the script. -/
def global (name : String) : Run Value := do return (← get).globals.getD name .unset

/-- The text that a value is. -/
def textOf (v : Value) : Run String := do
  match v with
  | .number x =>
    if Value.isWhole x then return Value.numberText "" x
    return Value.numberText ((← global "CONVFMT").toText "") x
  | v => return v.toText ""

/-- The text of a variable of the script. -/
def globalText (name : String) : Run String := do textOf (← global name)

/-- The value of a variable of the script is set. -/
def setGlobal (name : String) (v : Value) : Run Unit :=
  modify fun s => { s with globals := s.globals.insert name v }

/-- The fields of a record. -/
def fieldsOf (record : String) : Run (Array Value) := do
  let separator ← globalText "FS"
  let isParagraph := (← globalText "RS").isEmpty
  let parts := if isParagraph && separator != " " then
      (record.splitOn "\n").flatMap fun line => divide separator line
    else divide separator record
  return (parts.map Value.input).toArray

/-- The fields of the record at hand. -/
def fields : Run (Array Value) := do
  match (← get).fields with
  | some fs => return fs
  | none =>
    let fs ← fieldsOf (← textOf (← get).record)
    modify fun s => { s with
      fields := some fs
      globals := s.globals.insert "NF" (.number fs.size.toFloat) }
    return fs

/-- The record at hand is replaced. -/
def setRecord (v : Value) : Run Unit := modify fun s => { s with record := v, fields := none }

/-- The fields are replaced, and the record is made of them. -/
def setFields (fs : Array Value) : Run Unit := do
  let separator ← globalText "OFS"
  let texts ← fs.toList.mapM textOf
  modify fun s => { s with
    fields := some fs
    record := .input (separator.intercalate texts)
    globals := s.globals.insert "NF" (.number fs.size.toFloat) }

/-- The fields with a number of them, empty ones added or the last ones left out. -/
def resized (fs : Array Value) (n : Nat) : Array Value :=
  fs.take n ++ Array.replicate (n - fs.size) (.text "")

/-- The number of a field. -/
def fieldNumber (v : Value) : Run Nat := do
  let x := v.toNumber
  if x < 0 then throw (.runFault ("negative field index $" ++ Value.numberText "%.6g" x))
  return (Value.truncate x).toNat

/-- The field with a number; nought is the record. -/
def getField (n : Nat) : Run Value := do
  if n == 0 then return (← get).record
  return (← fields).getD (n - 1) .unset

/-- The field with a number is set. -/
def setField (n : Nat) (v : Value) : Run Unit := do
  if n == 0 then setRecord v
  else
    let fs ← fields
    setFields ((resized fs (max n fs.size)).setIfInBounds (n - 1) v)

/-- What a name stands for in the function that is running. -/
def local? (name : String) : Run (Option Local) := do
  return ((← get).frame.find? fun e => e.1 == name).map fun e => e.2

/-- What a parameter stands for is replaced. -/
def setLocal (name : String) (l : Local) : Run Unit :=
  modify fun s => { s with frame := s.frame.map fun e => if e.1 == name then (name, l) else e }

/-- The value of a variable. -/
def getName (name : String) : Run Value := do
  match ← local? name with
  | some (.value v) => return v
  | some _ => return .unset
  | none =>
    if name == "NF" then let _ ← fields
    global name

/-- The value of a variable is set. -/
def setName (name : String) (v : Value) : Run Unit := do
  match ← local? name with
  | some _ => setLocal name (.value v)
  | none =>
    if name == "NF" then setFields (resized (← fields) (Value.truncate v.toNumber).toNat)
    else setGlobal name v

/-- The number of a new table. -/
def newTable : Run Nat := do
  let n := (← get).nextTable
  modify fun s => { s with nextTable := n + 1 }
  return n

/-- The number of the table with a name. -/
def tableNamed (name : String) : Run Nat := do
  match ← local? name with
  | some (.table n) => return n
  | some (.free n) =>
    setLocal name (.table n)
    return n
  | some (.value _) => throw (.runFault ("type error in arg: " ++ name))
  | none =>
    match (← get).names[name]? with
    | some n => return n
    | none =>
      let n ← newTable
      modify fun s => { s with names := s.names.insert name n }
      return n

/-- The table with a number. -/
def table (n : Nat) : Run Table := do return (← get).tables.getD n ∅

/-- The table with a number is replaced. -/
def setTable (n : Nat) (t : Table) : Run Unit :=
  modify fun s => { s with tables := s.tables.insert n t }

/-- An element of a table; there is one afterwards. -/
def getElement (n : Nat) (key : String) : Run Value := do
  let v := ((← table n)[key]?.map fun e => e.2).getD .unset
  modify fun s =>
    let t := s.tables.getD n ∅
    { s with ticks := s.ticks + 1, tables := s.tables.insert n (t.insert key (s.ticks, v)) }
  return v

/-- An element of a table is set. -/
def setElement (n : Nat) (key : String) (v : Value) : Run Unit :=
  modify fun s =>
    let t := s.tables.getD n ∅
    { s with ticks := s.ticks + 1, tables := s.tables.insert n (t.insert key (s.ticks, v)) }

/-- The keys of a table in the order in which it is gone through. -/
def keysOf (t : Table) : List String :=
  let entries := t.toList.map fun (key, tick, _) => (bucket key, tick, key)
  let isBefore (a b : Nat × Nat × String) : Bool := a.1 < b.1 || (a.1 == b.1 && b.2.1 ≤ a.2.1)
  (entries.mergeSort isBefore).map fun e => e.2.2

/-- The next record of a text, and the rest. -/
def cutRecord (separator : String) (cs : List Char) : Option (String × List Char) :=
  match cs with
  | [] => none
  | cs =>
    match separator.toList with
    | [c] =>
      let record := cs.takeWhile fun d => d != c
      some (String.ofList record, cs.drop (record.length + 1))
    | [] =>
      let cs := cs.dropWhile fun c => c == '\n'
      if cs.isEmpty then none
      else
        let lines := (String.ofList cs).splitOn "\n"
        let record := lines.takeWhile fun l => !l.isEmpty
        let rest := (lines.drop record.length).dropWhile fun l => l.isEmpty
        some ("\n".intercalate record, ("\n".intercalate rest).toList)
    | _ =>
      let chars := cs.toArray
      match (regex separator).search chars 0 with
      | some found =>
        if found.first == found.last then some (String.ofList cs, [])
        else some (Regex.stretch chars 0 found.first, cs.drop found.last)
      | none => some (String.ofList cs, [])

/-- The contents of a file that the script reads. -/
def readWhole (path : String) : Run (List Char) := do
  let found ← liftM (n := Run) (contents path : Tool _)
  match found with
  | .ok text => return text.toList
  | .error .isDirectory => throw (.fault ("read error (" ++ FileFault.isDirectory.words ++ ")"))
  | .error fault => throw (.fault ("cannot open \"" ++ path ++ "\" (" ++ fault.words ++ ")"))

/-- The name and the value of an argument that sets a variable. -/
def assignmentOf? (word : String) : Option (String × Value) :=
  let cs := word.toList
  let name := cs.takeWhile fun c => c != '='
  if name.length < cs.length && Octets.isName (String.ofList name) then
    let value := cs.drop (name.length + 1)
    let text := match Token.quoted (value.length + 2) [] (value ++ ['"']) with
      | some (done, []) => String.ofList done.reverse
      | _ => String.ofList value
    some (String.ofList name, .input text)
  else none

/-- The next record of the input; at most `n` arguments are looked at. -/
def nextInput : Nat → Run (Option String)
  | 0 => return none
  | n + 1 => do
    let s ← get
    match s.input with
    | some cs =>
      match cutRecord (← globalText "RS") cs with
      | some (record, rest) =>
        let count (name : String) : Run Unit := do
          setGlobal name (.number ((← global name).toNumber + 1))
        modify fun s => { s with input := some rest }
        count "NR"
        count "FNR"
        return some record
      | none =>
        modify fun s => { s with input := none }
        nextInput n
    | none =>
      match s.operands with
      | [] =>
        if s.hasFile then return none
        let cs ← readWhole "-"
        modify fun s => { s with input := some cs, hasFile := true }
        nextInput n
      | word :: rest =>
        modify fun s => { s with operands := rest }
        match assignmentOf? word with
        | some (name, v) =>
          setName name v
          nextInput n
        | none =>
          if word.isEmpty then nextInput n
          else
            let cs ← readWhole word
            modify fun s => { s with input := some cs, hasFile := true }
            setGlobal "FILENAME" (.text word)
            setGlobal "FNR" (.number 0)
            nextInput n

/-- The next record of the input. -/
def nextRecord : Run (Option String) := do
  let s ← get
  nextInput (2 * s.operands.length + 4)

end CompileOrder.Shell.Awk
