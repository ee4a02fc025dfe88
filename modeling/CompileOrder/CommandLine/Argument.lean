import CompileOrder.FileGraph.BuildOrder

/-!
# Arguments

The words of a command line are read from left to right. A word after two dashes
names a flag or a setting, the letters after one dash are several of them, and a
setting takes the rest of its word or the word after it as its value. Two dashes
alone make paths of all words after them, and every other word is a path too.
-/

namespace CompileOrder.CommandLine

/-- What is switched on by its name alone. -/
inductive Flag where
  | verbose
  | help
  | version
  | all
  | crossLibrary
  | denyWarnings
  | json
  deriving DecidableEq, Repr

/-- What is given a value. -/
inductive Setting where
  | library
  | libraryPath
  | config
  | selection
  | top
  | format
  | execute
  | output
  | archive
  | strategy
  deriving DecidableEq, Repr

namespace Flag

/-- The name after two dashes. -/
def name : Flag → String
  | .verbose => "verbose"
  | .help => "help"
  | .version => "version"
  | .all => "all"
  | .crossLibrary => "cross-library"
  | .denyWarnings => "deny-warnings"
  | .json => "json"

/-- The letter after one dash, if there is one. -/
def letter? : Flag → Option Char
  | .verbose => some 'v'
  | .help => some 'h'
  | .version => some 'V'
  | _ => none

end Flag

namespace Setting

/-- The name after two dashes. -/
def name : Setting → String
  | .library => "library"
  | .libraryPath => "lib-path"
  | .config => "config"
  | .selection => "use-entity"
  | .top => "top"
  | .format => "format"
  | .execute => "execute"
  | .output => "output"
  | .archive => "archive"
  | .strategy => "strategy"

/-- The letter after one dash, if there is one. -/
def letter? : Setting → Option Char
  | .library => some 'l'
  | .libraryPath => some 'L'
  | _ => none

/-- Whether the setting may be given more than once. -/
def isRepeatable : Setting → Bool
  | .libraryPath | .selection | .top => true
  | _ => false

/-- Whether the setting takes this value: a path is not empty, and a strategy is one of
those there are. -/
def accepts (s : Setting) (value : String) : Bool :=
  match s with
  | .config | .output | .archive => !value.isEmpty
  | .strategy => (Strategy.parse? value).isSome
  | _ => true

end Setting

/-- The flags and settings that a command knows. -/
structure Vocabulary where
  /-- The flags. -/
  flags : List Flag
  /-- The settings. -/
  settings : List Setting

/-- What one word, or a part of it, says. -/
inductive Argument where
  /-- A flag is switched on. -/
  | flag (f : Flag)
  /-- A setting is given a value. -/
  | setting (s : Setting) (value : String)
  /-- A path. -/
  | path (text : String)
  /-- An unknown name, a setting without a value or a flag with one. -/
  | refused
  deriving DecidableEq, Repr

/-- Whether a word can be the value of the setting before it. -/
def isValue (word : String) : Bool := word == "-" || word.toList.head? != some '-'

/-- Arguments that were read, and whether the next word was read along with them. -/
abbrev Reading := List Argument × Bool

/-- A setting at the end of a word takes the next word as its value. -/
def readValue (s : Setting) (next : Option String) : Reading :=
  match next with
  | some word => if isValue word then ([.setting s word], true) else ([.refused], false)
  | none => ([.refused], false)

namespace Vocabulary

/-- The letters after one dash. What follows a setting is its value, and an equals
sign before the value does not count. -/
def readLetters (v : Vocabulary) (next : Option String) : List Char → Reading
  | [] => ([], false)
  | c :: cs =>
    match v.flags.find? fun f => f.letter? == some c with
    | some f =>
      let (more, used) := v.readLetters next cs
      (.flag f :: more, used)
    | none =>
      match v.settings.find? fun s => s.letter? == some c with
      | none => ([.refused], false)
      | some s =>
        match cs with
        | [] => readValue s next
        | '=' :: value => ([.setting s (String.ofList value)], false)
        | value => ([.setting s (String.ofList value)], false)

/-- The word after two dashes. An equals sign divides a setting from its value. -/
def readName (v : Vocabulary) (next : Option String) (word : List Char) : Reading :=
  let name := String.ofList (word.takeWhile (· != '='))
  match v.settings.find? fun s => s.name == name with
  | some s =>
    match word.dropWhile (· != '=') with
    | [] => readValue s next
    | _ :: value => ([.setting s (String.ofList value)], false)
  | none =>
    match v.flags.find? fun f => String.ofList word == f.name with
    | some f => ([.flag f], false)
    | none => ([.refused], false)

/-- One word, of which `next` is the one after it. -/
def readWord (v : Vocabulary) (next : Option String) (word : String) : Reading :=
  match word.toList with
  | '-' :: '-' :: name => v.readName next name
  | '-' :: c :: cs => v.readLetters next (c :: cs)
  | _ => ([.path word], false)

/-- All words; the first is left out if it was read along with the one before it. -/
def readFrom (v : Vocabulary) : Bool → List String → List Argument
  | _, [] => []
  | true, _ :: rest => v.readFrom false rest
  | false, word :: rest =>
    if word == "--" then rest.map .path
    else
      let (arguments, used) := v.readWord rest.head? word
      arguments ++ v.readFrom used rest

/-- The arguments that some words make up. -/
def read (v : Vocabulary) (words : List String) : List Argument := v.readFrom false words

end Vocabulary

end CompileOrder.CommandLine
