import CompileOrder.CommandLine.Invocation

/-!
# Help

The help on a topic tells what it does and how it is called, and has a line for
every argument. The descriptions of the arguments stand in one column.
-/

namespace CompileOrder.CommandLine

/-- The name of the program. -/
def programName : String := "hdlsort"

/-- The version of the program. -/
def programVersion : String := "0.2.0"

/-- What a flag does. -/
def Flag.summary : Flag → String
  | .verbose => "Enable verbose output"
  | .help => "Print help"
  | .version => "Print version"
  | .all => "Apply the output options to all libraries together"
  | .crossLibrary => "Let use clauses naming other libraries order files"
  | .denyWarnings => "Fail when any warning is reported"
  | .json => "Print JSON instead of text"

namespace Setting

/-- The word that stands for the value of a setting. -/
def valueName : Setting → String
  | .library => "LIBRARY"
  | .libraryPath => "LIB=PATH"
  | .config => "CONFIG"
  | .selection | .top => "SPEC"
  | .format | .execute => "TEMPLATE"
  | .output | .archive => "FILE"
  | .strategy => "STRATEGY"

/-- What a setting does. -/
def summary : Setting → String
  | .library =>
    "Library the positional paths belong to [default: first configured library, or WORK]"
  | .libraryPath => "Additional sources for another library, as LIB=PATH"
  | .config => "Project configuration file (defaults to the nearest HdlSort.toml)"
  | .selection =>
    "Keep only this architecture of an entity: ENTITY(ARCH) or LIB.ENTITY(ARCH)"
  | .top => "Order only what this top-level entity needs: [LIB.]ENTITY[(ARCH)]"
  | .format => "Line template for printed and written lists"
  | .execute => "Shell command template run once per file"
  | .output => "Write the formatted list to a file"
  | .archive => "Concatenate the ordered sources into a file"
  | .strategy => "Leveling strategy: propagate or topological"

end Setting

/-- How an option is written: its letter, if it has one, its name and its value. -/
def optionForm (letter : Option Char) (name value : String) : String :=
  let short := match letter with
    | some c => "-" ++ String.singleton c ++ ", "
    | none => "    "
  short ++ "--" ++ name ++ value

/-- An entry of a list: what is described, and its description. -/
abbrev Entry := String × String

/-- The entries of what a vocabulary knows. -/
def Vocabulary.entries (v : Vocabulary) : List Entry :=
  v.settings.map (fun s => (optionForm s.letter? s.name (" <" ++ s.valueName ++ ">"), s.summary)) ++
    v.flags.map fun f => (optionForm f.letter? f.name "", f.summary)

/-- The lines of a list with its heading. -/
def listing (heading : String) (entries : List Entry) : List String :=
  let width := (entries.map fun e => e.1.length).foldl max 0
  let line (e : Entry) : String :=
    "  " ++ e.1 ++ String.ofList (List.replicate (width - e.1.length) ' ') ++ "  " ++ e.2
  ["", heading ++ ":"] ++ entries.map line

namespace Topic

/-- What the topic is about. -/
def summary : Topic → String
  | .program => "Order VHDL source files for compilation"
  | .order => "Compute the compilation order and print, write, archive or run it"
  | .units => "List every design unit found in the sources"
  | .help => "Print this message or the help of the given subcommand(s)"

/-- How the topic is called. -/
def call : Topic → String
  | .program => "[OPTIONS] <COMMAND>"
  | .order => "order [OPTIONS] [PATHS]..."
  | .units => "units [OPTIONS] [PATHS]..."
  | .help => "help [COMMAND]..."

/-- The lists of the topic. -/
def sections : Topic → List (String × List Entry)
  | .program =>
    [("Commands", [("order", Topic.order.summary), ("units", Topic.units.summary),
      ("help", Topic.help.summary)]), ("Options", Vocabulary.program.entries)]
  | .order => [paths, ("Options", Vocabulary.order.entries)]
  | .units => [paths, ("Options", Vocabulary.units.entries)]
  | .help => [("Arguments", [("[COMMAND]...", "Print help for the subcommand(s)")])]
where
  paths : String × List Entry := ("Arguments", [("[PATHS]...", "Source files or directories")])

/-- The help on the topic. -/
def text (t : Topic) : String :=
  let lines := [t.summary, "", "Usage: " ++ programName ++ " " ++ t.call] ++
    t.sections.flatMap fun s => listing s.1 s.2
  String.join (lines.map fun line => line ++ "\n")

end Topic

/-- What is printed in place of a run. -/
def Usage.text : Usage → String
  | .help topic => topic.text
  | .version => programName ++ " " ++ programVersion ++ "\n"
  | .misuse => ""

end CompileOrder.CommandLine
