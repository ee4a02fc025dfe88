import CompileOrder.Project
import CompileOrder.Toml.Document

/-!
# Projects from configuration files

A configuration is a TOML document with an `ordering` table, an `output` table and
a list of `library` tables. Keys that are not known are passed over. A record may
also be written as a list of its members in order, and a date counts as a record
without known members.
-/

namespace CompileOrder.Project

open Toml

/-- The members of a record with these keys. -/
def members? (keys : List String) : Value → Option Members
  | .table _ members => some members
  | .list _ items => some (keys.zip items)
  | .datetime _ => some []
  | _ => none

/-- A text. -/
def text? : Value → Option String
  | .text s => some s
  | _ => none

/-- A truth value. -/
def boolean? : Value → Option Bool
  | .boolean b => some b
  | _ => none

/-- A list of texts. -/
def texts? : Value → Option (List String)
  | .list _ items => items.mapM text?
  | _ => none

/-- The member under a key as `decode` reads it, or the fallback if there is none. -/
def member? {α : Type} (members : Members) (key : String) (decode : Value → Option α)
    (fallback : α) : Option α :=
  match members.get? key with
  | some v => decode v
  | none => some fallback

/-- Whether a value is a list or a table without anything in it. -/
def isEmptyValue : Value → Bool
  | .list _ items => items.isEmpty
  | .table _ members => members.isEmpty
  | _ => false

/-- A strategy: its name, or a table with its name as the only key and nothing in it. -/
def strategy? : Value → Option Strategy
  | .text s => Strategy.ofName? s
  | .table _ [(key, v)] => if isEmptyValue v then Strategy.ofName? key else none
  | _ => none

/-- How files are ordered. -/
def rules? (v : Value) : Option OrderRules := do
  let ms ← members? ["strategy", "cross-library"] v
  let strategy ← member? ms "strategy" strategy? .propagate
  let crossLibrary ← member? ms "cross-library" boolean? false
  return ⟨strategy, crossLibrary⟩

/-- What is done with an ordered list of files. -/
def output? (v : Value) : Option OutputOptions := do
  let ms ← members? ["print", "format", "execute", "output", "archive"] v
  let print ← member? ms "print" boolean? false
  let format ← member? ms "format" text? Template.default
  let execute ← member? ms "execute" (fun v => (text? v).map some) none
  let output ← member? ms "output" (fun v => (text? v).map some) none
  let archive ← member? ms "archive" (fun v => (text? v).map some) none
  return ⟨print, format, execute, output, archive⟩

/-- A library; its name has to be given. -/
def library? (v : Value) : Option Library := do
  let ms ← members? ["name", "paths", "use-entity", "top", "output"] v
  let name ← (ms.get? "name").bind text?
  let paths ← member? ms "paths" texts? []
  let selections ← member? ms "use-entity" texts? []
  let tops ← member? ms "top" texts? []
  let output ← member? ms "output" (fun v => (output? v).map some) none
  return ⟨name, paths, selections, tops, output⟩

/-- The list of libraries. -/
def libraries? : Value → Option (List Library)
  | .list _ items => items.mapM library?
  | _ => none

/-- The project a document describes, as it is written. -/
def ofDocument? (ms : Members) : Option Project := do
  let rules ← member? ms "ordering" rules? {}
  let output ← member? ms "output" (fun v => (output? v).map some) none
  let libraries ← member? ms "library" libraries? []
  return ⟨rules, output, libraries⟩

/-- The project that the text of a configuration file describes. -/
def parse (text : String) : Except Failure Project :=
  match (Toml.parse? text).bind ofDocument? with
  | none => .error .malformedConfig
  | some p => (normalize p.libraries).map fun libraries => { p with libraries := libraries }

end CompileOrder.Project
