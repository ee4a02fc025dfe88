import CompileOrder.Shell.Condition
import CompileOrder.Shell.Format
import CompileOrder.Shell.Session

/-!
# The shell's own commands for texts

Options of the shell's own commands, writing of arguments, and conditions.
-/

namespace CompileOrder.Shell.Builtin

/-- The options at the start of some words, each with its argument, and the words after
them. A letter with a colon after it in `letters` takes an argument. -/
def optionsFrom (letters : List Char) : Nat → List (Char × String) → List String →
    Act (List (Char × String) × List String)
  | 0, found, words => return (found.reverse, words)
  | n + 1, found, words =>
    match words with
    | [] => return (found.reverse, [])
    | word :: rest =>
      match word.toList with
      | ['-', '-'] => return (found.reverse, rest)
      | '-' :: c :: more => do
        if c == ':' || !letters.contains c then
          Act.error ("Illegal option -" ++ String.singleton c)
        let takesArgument := ((letters.dropWhile fun d => d != c).drop 1).head? == some ':'
        if takesArgument then
          match more, rest with
          | [], [] => Act.error ("No arg for -" ++ String.singleton c ++ " option")
          | [], arg :: rest => optionsFrom letters n ((c, arg) :: found) rest
          | more, rest => optionsFrom letters n ((c, String.ofList more) :: found) rest
        else
          let rest := if more.isEmpty then rest else String.ofList ('-' :: more) :: rest
          optionsFrom letters n ((c, "") :: found) rest
      | _ => return (found.reverse, words)

/-- The options at the start of some words and the words after them. -/
def options (letters : String) (words : List String) :
    Act (List (Char × String) × List String) :=
  let size := words.foldl (fun n w => n + w.length + 1) 1
  optionsFrom letters.toList size [] words

/-- The text of `echo`: its arguments with a blank between them. -/
def echoText : List String → String
  | [] => "\n"
  | word :: rest =>
    let (text, isEnded) := Escape.resolve word
    if isEnded then text
    else if rest.isEmpty then text ++ "\n"
    else text ++ " " ++ echoText rest

/-- Writes its arguments. -/
def echo (args : List String) : Act Nat := do
  match args with
  | "-n" :: rest =>
    let text := echoText rest
    let isEnded := rest.any fun word => (Escape.resolve word).2
    Act.print (if isEnded then text else Octets.takeFirst (text.length - 1) text)
  | args => Act.print (echoText args)
  return 0

/-- Writes its arguments by a format. -/
def printf (args : List String) : Act Nat := do
  let (_, args) ← options "" args
  match args with
  | [] => Act.error "usage: printf format [arg ...]"
  | format :: args =>
    let r := Format.run format args
    for message in r.reports.reverse do Act.warn message
    Act.print r.output
    match r.error with
    | some message => Act.error message
    | none => return if r.reports.isEmpty then 0 else 1

/-- Whether a condition holds. -/
def test (words : List String) : Act Nat := do
  match Condition.evaluate (← Act.machine) words with
  | .ok holds => return if holds then 0 else 1
  | .error message => Act.error message

/-- Whether a condition in brackets holds. -/
def bracket (words : List String) : Act Nat := do
  if (words.getLast?.bind fun w => w.toList.head?) != some ']' then Act.error "missing ]"
  test words.dropLast

end CompileOrder.Shell.Builtin
