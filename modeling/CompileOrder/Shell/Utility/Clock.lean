import CompileOrder.Shell.Calendar.Reading
import CompileOrder.Shell.Utility.Entry
import CompileOrder.Shell.Utility.Options
import CompileOrder.Shell.Utility.Quote

/-!
# The time of day

Shows the present, a time in words or the time of a file by a format. The clock itself
cannot be set.
-/

namespace CompileOrder.Shell.Utility

open Tool

/-- How exactly a time is shown in a standard format. -/
inductive Precision where
  | hours | minutes | date | seconds | ns
  deriving DecidableEq, Repr

namespace Precision

/-- The names of the precisions. -/
def names : List (String × Precision) :=
  [("hours", .hours), ("minutes", .minutes), ("date", .date), ("seconds", .seconds), ("ns", .ns)]

/-- The format of the time of day and the offset after a date. -/
def format (mark decimals : String) : Precision → String
  | .date => ""
  | .hours => mark ++ "%H%:z"
  | .minutes => mark ++ "%H:%M%:z"
  | .seconds => mark ++ "%H:%M:%S%:z"
  | .ns => mark ++ "%H:%M:%S" ++ decimals ++ "%N%:z"

end Precision

/-- The options that ask for a format of their own, as formats; or a message. -/
def dateFormats : List (Char × String) → Except String (List String)
  | [] => .ok []
  | (letter, value) :: rest =>
    let choice (option : String) (allowed : List (String × Precision)) (make : Precision → String) :
        Except String (List String) :=
      do return make (← Quote.choice option allowed value) :: (← dateFormats rest)
    match letter with
    | 'I' =>
      if value.isEmpty then (dateFormats rest).map fun fs => "%Y-%m-%d" :: fs
      else choice "--iso-8601" Precision.names fun p => "%Y-%m-%d" ++ p.format "T" ","
    | 'R' => (dateFormats rest).map fun fs => "%a, %d %b %Y %H:%M:%S %z" :: fs
    | '\x01' =>
      choice "--rfc-3339" (Precision.names.drop 2) fun p => "%Y-%m-%d" ++ p.format " " "."
    | _ => dateFormats rest

/-- The usual format of a time. -/
def usualDateFormat : String := "%a %b %e %H:%M:%S %Z %Y"

/-- A time that a text describes is shown. -/
def showDate (format text : String) : Tool Nat := do
  match Calendar.read? (← get).time text with
  | some time =>
    out ((Moment.ofTime time).text format ++ "\n")
    return 0
  | none => fail 1 ("invalid date " ++ Quote.inWords text)

/-- Shows times. -/
def date : Tool Nat :=
  withOptions [{ letter := 'd', word := "date", takes := .required },
      { letter := 'f', word := "file", takes := .required },
      { letter := 'I', word := "iso-8601", takes := .optional },
      { letter := 'R', word := "rfc-email" }, { letter := 'R', word := "rfc-2822" },
      { letter := 'R', word := "rfc-822" },
      { letter := '\x01', word := "rfc-3339", takes := .required },
      { letter := 'r', word := "reference", takes := .required },
      { letter := 's', word := "set", takes := .required },
      { letter := 'u', word := "utc" }, { letter := 'u', word := "universal" },
      { letter := 'u', word := "uct" }, { letter := '\x02', word := "debug" },
      { letter := '\x03', word := "resolution" }] 1 fun p => do
    match dateFormats p.options with
    | .error message => misuse 1 message
    | .ok formats =>
      let sources := ['d', 'f', 'r', '\x03'].filter p.has
      if 1 < formats.length then return ← fail 1 "multiple output formats specified"
      if 1 < sources.length then
        return ← misuse 1 "the options to specify dates for printing are mutually exclusive"
      if !sources.isEmpty && p.has 's' then
        return ← misuse 1 "the options to print and set the time may not be used together"
      match p.operands with
      | _ :: extra :: _ => misuse 1 ("extra operand " ++ Quote.inWords extra)
      | operands =>
        let operand := operands.headD "+"
        let isFormat := operand.toList.head? == some '+'
        if !operands.isEmpty && isFormat && !formats.isEmpty then
          return ← fail 1 "multiple output formats specified"
        if !isFormat && (!sources.isEmpty || p.has 's') then
          return ← misuse 1 ("the argument " ++ Quote.inWords operand ++
            " lacks a leading '+';\nwhen using an option to specify date(s), any non-option\n" ++
            "argument must be a format string beginning with '+'")
        let format := match formats, operands with
          | f :: _, _ => f
          | [], _ :: _ => if isFormat then Octets.dropFirst 1 operand else usualDateFormat
          | [], [] => if p.has '\x03' then "%s.%N" else usualDateFormat
        match p.get? 'd', p.get? 'f', p.get? 'r', p.get? 's' with
        | some text, _, _, _ => showDate format text
        | none, some path, _, _ =>
          match ← contents path with
          | .ok text => each (Octets.lines text) (showDate format)
          | .error fault => fail 1 (Quote.ifNeeded path ++ ": " ++ fault.words)
        | none, none, some path, _ =>
          match (← get).find path with
          | .ok node =>
            out ((Moment.ofTime node.about.modified).text format ++ "\n")
            return 0
          | .error fault => fail 1 (Quote.ifNeeded path ++ ": " ++ fault.words)
        | none, none, none, some text =>
          match Calendar.read? (← get).time text with
          | none => fail 1 ("invalid date " ++ Quote.inWords text)
          | some time =>
            complain ("cannot set date: " ++ FileFault.notPermitted.words)
            out ((Moment.ofTime time).text format ++ "\n")
            return 1
        | none, none, none, none =>
          if isFormat then
            out ((Moment.ofTime (← get).time).text format ++ "\n")
            return 0
          else fail 1 ("invalid date " ++ Quote.inWords operand)

end CompileOrder.Shell.Utility
