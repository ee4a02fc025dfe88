import CompileOrder.Binding
import CompileOrder.DesignUnit

/-!
# Diagnostics

What a run has to tell without stopping for it. Each finding keeps the unit, name
or request it is about; its wording is a function of that.
-/

namespace CompileOrder

/-- How much a finding matters. -/
inductive Severity where
  | note
  | warning
  deriving DecidableEq, Repr

/-- The word a severity is shown by. -/
def Severity.word : Severity → String
  | .note => "note"
  | .warning => "warning"

/-- A finding that does not stop the run. -/
inductive Diagnostic where
  /-- The unit was still open when its file ended, and is left out. -/
  | unterminatedUnit (unit : DesignUnit)
  /-- No unit of the library has the name that `unit` uses. -/
  | unresolvedUse (unit : DesignUnit) (library name : String)
  /-- A library that `unit` uses has no units. -/
  | unknownLibrary (unit : DesignUnit) (library : String)
  /-- No architecture satisfies an instance of `unit`. -/
  | instanceNotFound (unit : DesignUnit) (missing : Instance)
  /-- No architecture satisfies the request. -/
  | topNotFound (request : Request)
  /-- The request names no architecture, and several satisfy it. -/
  | conflict (request : Request) (candidates : List String)
  /-- No file defines a name that the file uses. -/
  | undefinedName (file library name : String)
  /-- The files depend on one another. -/
  | dependencyCycle (files : List String)
  /-- The text is no binding request. -/
  | malformedRequest (text : String)
  /-- The request was to select an architecture and names none. -/
  | selectsNothing (request : Request)
  deriving DecidableEq, Repr

/-- The wording of a text that is no binding request. -/
def malformedMessage (text : String) : String := "Invalid binding request: " ++ text

namespace Diagnostic

/-- A library without sources is only noted. -/
def severity : Diagnostic → Severity
  | .unknownLibrary _ _ => .note
  | _ => .warning

/-- Names divided by a comma and a space. -/
def commaList (names : List String) : String := ", ".intercalate names

/-- The text of a rejected request and the reason given for rejecting it. -/
def rejection? : Diagnostic → Option (String × String)
  | .malformedRequest text => some (text, malformedMessage text)
  | .selectsNothing r =>
    some (r.display, "an architecture selection must name an architecture")
  | _ => none

/-- The finding in words. -/
def message (d : Diagnostic) : String :=
  match d with
  | .unterminatedUnit u =>
    u.file ++ ":" ++ toString u.beginLine ++ ": " ++ u.display ++ " is not terminated; skipped"
  | .unresolvedUse u l n => u.display ++ ": use of " ++ l ++ "." ++ n ++ " does not resolve"
  | .unknownLibrary u l => u.display ++ ": library " ++ l ++ " has no sources"
  | .instanceNotFound u i => u.display ++ ": no architecture found for " ++ i.display
  | .topNotFound r => "no architecture matches " ++ r.display
  | .conflict r names => r.display ++ " is ambiguous, using all of: " ++ commaList names
  | .undefinedName f l n => f ++ ": no file defines " ++ l ++ "." ++ n
  | .dependencyCycle files => "dependency cycle between " ++ commaList files
  | .malformedRequest _ | .selectsNothing _ =>
    match d.rejection? with
    | some (text, reason) => "ignoring binding request '" ++ text ++ "': " ++ reason
    | none => ""

/-- The number of findings that are warnings. -/
def warnings (ds : List Diagnostic) : Nat := ds.countP fun d => d.severity == .warning

end Diagnostic

end CompileOrder
