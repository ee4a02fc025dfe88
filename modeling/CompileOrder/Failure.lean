import CompileOrder.Diagnostic
import CompileOrder.FileTree.Fault

/-!
# Failures

The conditions that stop a run. Each keeps what it is about; its wording follows
from its kind and that.
-/

namespace CompileOrder

/-- The name of the project configuration file. -/
def configFileName : String := "HdlSort.toml"

/-- A condition that stops the run. -/
inductive Failure where
  /-- The text names no ordering strategy. -/
  | unknownStrategy (text : String)
  /-- The configuration file could not be read. -/
  | unreadableConfig (path : String) (fault : FileFault)
  /-- The configuration is not well-formed, or a value has the wrong type. -/
  | malformedConfig
  /-- A configured library has a blank name. -/
  | emptyLibraryName
  /-- No paths were given and no configuration file was found. -/
  | noSources
  /-- The text does not have the form `LIB=PATH`. -/
  | malformedPair (text : String)
  /-- A source path could not be read. -/
  | unreadable (path : String) (fault : FileFault)
  /-- The text is no binding request. -/
  | malformedRequest (text : String)
  /-- An output file or its directory could not be created. -/
  | cannotCreate (path : String) (fault : FileFault)
  /-- An output file could not be written. -/
  | cannotWrite (path : String) (fault : FileFault)
  /-- A command holds a NUL character, so no shell can be started for it. -/
  | nulInCommand
  /-- A command, or a variable it finds set, is longer than the system allows. -/
  | commandTooLong
  /-- Warnings were reported although they are denied. -/
  | warningsDenied (count : Nat)
  deriving DecidableEq, Repr

/-- The part of the program that a failure belongs to. -/
inductive FailureKind where
  | config
  | read
  | binding
  | output
  | command
  | generic
  deriving DecidableEq, Repr

namespace Failure

/-- The kind of a failure. -/
def kind : Failure → FailureKind
  | .unknownStrategy _ | .unreadableConfig _ _ | .malformedConfig | .emptyLibraryName
  | .noSources | .malformedPair _ => .config
  | .unreadable _ _ => .read
  | .malformedRequest _ => .binding
  | .cannotCreate _ _ | .cannotWrite _ _ => .output
  | .nulInCommand | .commandTooLong => .command
  | .warningsDenied _ => .generic

/-- The words that begin the wording of a kind. -/
def lead : FailureKind → String
  | .config => "Configuration error: "
  | .output => "Output error: "
  | .command => "Command failed: "
  | .read | .binding | .generic => ""

/-- What failed, without the words that name the kind. -/
def detail : Failure → String
  | .unknownStrategy text => "unknown ordering strategy '" ++ Text.lower text ++ "'"
  | .unreadableConfig path fault => "Failed to read " ++ path ++ ": " ++ fault.message
  | .malformedConfig => "Failed to parse " ++ configFileName
  | .emptyLibraryName => "library name must not be empty"
  | .noSources =>
    "No source paths given and no " ++ configFileName ++ " found in current or parent directories"
  | .malformedPair text => "expected LIB=PATH, got '" ++ text ++ "'"
  | .unreadable path fault => "Failed to read " ++ path ++ ": " ++ fault.message
  | .malformedRequest text => malformedMessage text
  | .cannotCreate path fault => "Failed to create " ++ path ++ ": " ++ fault.message
  | .cannotWrite path fault => "Failed to write " ++ path ++ ": " ++ fault.message
  | .nulInCommand => "sh: nul byte found in provided data"
  | .commandTooLong => "sh: Argument list too long (os error 7)"
  | .warningsDenied n => toString n ++ " warning(s) reported and --deny-warnings is set"

/-- The failure in words. -/
def message (f : Failure) : String := lead f.kind ++ f.detail

end Failure

/-- The request that a text describes; it is a failure if there is none. -/
def Request.parse (text fallback : String) : Except Failure Request :=
  match Request.parse? text fallback with
  | some r => .ok r
  | none => .error (.malformedRequest text)

end CompileOrder
