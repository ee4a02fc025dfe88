import CompileOrder.CommandLine.Argument
import CompileOrder.CommandLine.Sources

/-!
# Invocations

A command line asks for one of two commands, for help or for the version, or it is
misused. The first word that settles this does: what stands after a call for help
is not looked at.
-/

namespace CompileOrder.CommandLine

/-- What help can be asked for. -/
inductive Topic where
  /-- The program as a whole. -/
  | program
  /-- The command that orders files. -/
  | order
  /-- The command that lists units. -/
  | units
  /-- The command that shows help. -/
  | help
  deriving DecidableEq, Repr

/-- Why a command line does not lead to a run. -/
inductive Usage where
  /-- Help is asked for. -/
  | help (topic : Topic)
  /-- The version is asked for. -/
  | version
  /-- The words follow no known form. -/
  | misuse
  deriving DecidableEq, Repr

/-- The options of the command that orders files. -/
structure OrderOptions where
  /-- Where the sources are. -/
  sources : SourceOptions := {}
  /-- Further architecture selections of the target library. -/
  selections : List String := []
  /-- Further top-level requests of the target library. -/
  tops : List String := []
  /-- The template of a line. -/
  format : Option String := none
  /-- The template of a command. -/
  execute : Option String := none
  /-- The file that the list is written to. -/
  output : Option String := none
  /-- The file that the sources are copied into. -/
  archive : Option String := none
  /-- Whether the output is for all libraries together. -/
  all : Bool := false
  /-- How levels are assigned. -/
  strategy : Option Strategy := none
  /-- Whether names of other libraries order files. -/
  crossLibrary : Bool := false
  /-- Whether a warning makes the run fail. -/
  denyWarnings : Bool := false
  deriving DecidableEq, Repr

/-- A command with its options. -/
inductive Invocation where
  /-- The files are put in order. -/
  | order (options : OrderOptions)
  /-- The units are listed, as text or as JSON. -/
  | units (sources : SourceOptions) (json : Bool)
  deriving DecidableEq, Repr

/-- What is known before a command is named. -/
def Vocabulary.program : Vocabulary := ⟨[.verbose, .help, .version], []⟩

/-- What the command that orders files knows. -/
def Vocabulary.order : Vocabulary where
  flags := [.all, .crossLibrary, .denyWarnings, .verbose, .help]
  settings := [.library, .libraryPath, .config, .selection, .top, .format, .execute, .output,
    .archive, .strategy]

/-- What the command that lists units knows. -/
def Vocabulary.units : Vocabulary where
  flags := [.json, .verbose, .help]
  settings := [.library, .libraryPath, .config]

/-- Whether the argument gives this setting a value. -/
def Argument.sets (s : Setting) : Argument → Bool
  | .setting t _ => s == t
  | _ => false

/-- One more argument after `earlier` ones. Only some settings may be repeated, a value
has to be one that its setting takes, and a path is not empty. -/
def accept (topic : Topic) (earlier : List Argument) (a : Argument) :
    Except Usage (List Argument) :=
  match a with
  | .flag .help => .error (.help topic)
  | .flag .version => .error .version
  | .flag _ => if earlier.contains a then .error .misuse else .ok (earlier ++ [a])
  | .setting s value =>
    if s.accepts value && (s.isRepeatable || !earlier.any (Argument.sets s)) then
      .ok (earlier ++ [a])
    else .error .misuse
  | .path text => if text.isEmpty then .error .misuse else .ok (earlier ++ [a])
  | .refused => .error .misuse

/-- The arguments that some words make up, if all of them are accepted. -/
def arguments (v : Vocabulary) (topic : Topic) (words : List String) :
    Except Usage (List Argument) :=
  (v.read words).foldlM (accept topic) []

namespace Argument

/-- The value that the argument gives the setting, if it does. -/
def value? (s : Setting) : Argument → Option String
  | .setting t value => if s == t then some value else none
  | _ => none

/-- The path that the argument is, if it is one. -/
def path? : Argument → Option String
  | .path text => some text
  | _ => none

end Argument

/-- The sources that some arguments name. -/
def SourceOptions.ofArguments (as : List Argument) : SourceOptions where
  paths := as.filterMap Argument.path?
  library := as.findSome? (Argument.value? .library)
  libraryPaths := as.filterMap (Argument.value? .libraryPath)
  config := as.findSome? (Argument.value? .config)

/-- The options of an order that some arguments give. -/
def OrderOptions.ofArguments (as : List Argument) : OrderOptions where
  sources := SourceOptions.ofArguments as
  selections := as.filterMap (Argument.value? .selection)
  tops := as.filterMap (Argument.value? .top)
  format := as.findSome? (Argument.value? .format)
  execute := as.findSome? (Argument.value? .execute)
  output := as.findSome? (Argument.value? .output)
  archive := as.findSome? (Argument.value? .archive)
  all := as.contains (.flag .all)
  strategy := (as.findSome? (Argument.value? .strategy)).bind Strategy.parse?
  crossLibrary := as.contains (.flag .crossLibrary)
  denyWarnings := as.contains (.flag .denyWarnings)

/-- Whether a word before the command gives flags. -/
def isOption (word : String) : Bool := !isValue word && word != "--"

/-- The topic that a word names. -/
def topic? : String → Option Topic
  | "order" => some .order
  | "units" => some .units
  | "help" => some .help
  | _ => none

/-- The help that the words after the command for it ask for. -/
def readHelp : List String → Usage
  | [] => .help .program
  | [word] => ((topic? word).map .help).getD .misuse
  | _ => .misuse

/-- The invocation that the words of a command line make up. -/
def Invocation.parse (words : List String) : Except Usage Invocation := do
  let options := words.takeWhile isOption
  let _ ← arguments .program .program options
  match words.drop options.length with
  | [] => .error .misuse
  | command :: rest =>
    match topic? command with
    | some .order => do
      return .order (OrderOptions.ofArguments (← arguments .order .order rest))
    | some .units => do
      let as ← arguments .units .units rest
      return .units (SourceOptions.ofArguments as) (as.contains (.flag .json))
    | some .help => .error (readHelp rest)
    | _ => .error .misuse

end CompileOrder.CommandLine
