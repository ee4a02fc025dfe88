/-!
# TOML values and tables

A TOML document is a table of values. A table remembers how it came about, because
that decides what a later line may still add to it: a table written in braces is
complete, a table with a header of its own cannot get a second one, a table only
implied by a longer header may get one, and a table spelled out by dotted keys is
only extended by dotted keys.
-/

namespace CompileOrder.Toml

/-- How a table came about. -/
inductive TableKind where
  /-- Written in braces. -/
  | inline
  /-- Introduced by a header, or the document itself. -/
  | explicit
  /-- Implied by the header of a table inside it. -/
  | implied
  /-- Spelled out by dotted keys. -/
  | dotted
  deriving DecidableEq, Repr

/-- A value of a document. -/
inductive Value where
  /-- A text. -/
  | text (s : String)
  /-- A whole number. -/
  | integer (n : Int)
  /-- A number with a fraction or an exponent, as it is written. -/
  | float (lexeme : String)
  /-- A truth value. -/
  | boolean (b : Bool)
  /-- A date, a time, or both, as it is written. -/
  | datetime (lexeme : String)
  /-- A list; `ofTables` marks the lists that double brackets build. -/
  | list (ofTables : Bool) (items : List Value)
  /-- A table with its members in order of appearance. -/
  | table (kind : TableKind) (members : List (String × Value))

/-- The members of a table. -/
abbrev Members := List (String × Value)

/-- The member with this key. -/
def Members.get? (ms : Members) (key : String) : Option Value :=
  (ms.find? fun m => m.1 == key).map fun m => m.2

/-- The members with the value under `key` replaced, or added at the end. -/
def Members.set (ms : Members) (key : String) (v : Value) : Members :=
  if ms.any fun m => m.1 == key then ms.map fun m => if m.1 == key then (key, v) else m
  else ms ++ [(key, v)]

/-- A table under construction. -/
structure Table where
  /-- How it came about. -/
  kind : TableKind
  /-- Its members. -/
  members : Members

namespace Table

/-- The table as a value. -/
def value (t : Table) : Value := .table t.kind t.members

/-- The table with the value under `key` replaced or added. -/
def set (t : Table) (key : String) (v : Value) : Table := { t with members := t.members.set key v }

/-- The table at the end of `path` is changed by `f`. Missing tables on the way are
made, as spelled out by dotted keys or as implied by a header; a list of tables is
entered at its last table. A complete value cannot be entered, and dotted keys do
not enter a table with a header of its own. -/
def update (dotted : Bool) (f : Table → Option Table) : List String → Table → Option Table
  | [], t => f t
  | key :: path, t =>
    match t.members.get? key with
    | none => do
      let inner ← update dotted f path ⟨if dotted then .dotted else .implied, []⟩
      return t.set key inner.value
    | some (.table kind members) => do
      if kind == .inline || (dotted && kind == .explicit) then none
      else
        let inner ← update dotted f path ⟨kind, members⟩
        return t.set key inner.value
    | some (.list true items) =>
      match items.getLast? with
      | some (.table kind members) => do
        let inner ← update dotted f path ⟨kind, members⟩
        return t.set key (.list true (items.dropLast ++ [inner.value]))
      | _ => none
    | some _ => none

/-- The value is added under a new key of a table that the path leads to: a table of
dotted keys if the key is dotted, else the table itself. -/
def put (path : List String) (key : String) (v : Value) (t : Table) : Option Table :=
  update true (fun inner =>
    if (inner.kind == .dotted) == path.isEmpty then none
    else if (inner.members.get? key).isSome then none
    else some (inner.set key v)) path t

/-- The table gets a header of its own under `key`. -/
def openTable (key : String) (t : Table) : Option Table :=
  match t.members.get? key with
  | none => some (t.set key (.table .explicit []))
  | some (.table .implied members) => some (t.set key (.table .explicit members))
  | some _ => none

/-- One more table is added to the list of tables under `key`. -/
def openItem (key : String) (t : Table) : Option Table :=
  match t.members.get? key with
  | none => some (t.set key (.list true [.table .explicit []]))
  | some (.list true items) => some (t.set key (.list true (items ++ [.table .explicit []])))
  | some _ => none

end Table

end CompileOrder.Toml
