import CompileOrder.DesignUnit

/-!
# Listing units as JSON

A small document type with its printer: two blanks of indentation for each level,
members in the order given, empty lists and objects on one line. Only the
characters that JSON requires to be escaped are escaped.
-/

namespace CompileOrder.Listing

/-- A JSON document of the kinds a listing needs. -/
inductive Document where
  /-- The absent value. -/
  | null
  /-- A natural number. -/
  | number (n : Nat)
  /-- A text. -/
  | text (s : String)
  /-- A list. -/
  | list (items : List Document)
  /-- An object with its members in order. -/
  | object (members : List (String × Document))

/-- A lower-case hexadecimal digit. -/
def hexDigit (n : Nat) : Char := (Nat.toDigits 16 (n % 16)).headD '0'

/-- A character inside a quoted text. -/
def escapeChar (c : Char) : List Char :=
  match c with
  | '"' => ['\\', '"']
  | '\\' => ['\\', '\\']
  | '\n' => ['\\', 'n']
  | '\r' => ['\\', 'r']
  | '\t' => ['\\', 't']
  | _ =>
    if c.toNat = 8 then ['\\', 'b']
    else if c.toNat = 12 then ['\\', 'f']
    else if c.toNat < 32 then
      ['\\', 'u', '0', '0', hexDigit (c.toNat / 16), hexDigit c.toNat]
    else [c]

/-- A text in quotes. -/
def quote (s : String) : String := String.ofList ('"' :: s.toList.flatMap escapeChar ++ ['"'])

/-- A line feed and the indentation of a level. -/
def newline (level : Nat) : String :=
  String.ofList ('\n' :: List.replicate (2 * level) ' ')

/-- Items between two brackets, each on a line of its own one level deeper. -/
def bracketed (left right : String) (level : Nat) (items : List String) : String :=
  if items.isEmpty then left ++ right
  else left ++ newline (level + 1) ++ ("," ++ newline (level + 1)).intercalate items ++
    newline level ++ right

mutual

/-- The document printed at a level of indentation. -/
def Document.print (level : Nat) : Document → String
  | .null => "null"
  | .number n => toString n
  | .text s => quote s
  | .list items => bracketed "[" "]" level (Document.printItems (level + 1) items)
  | .object members => bracketed "\x7b" "\x7d" level (Document.printMembers (level + 1) members)

/-- The items of a list printed one by one. -/
def Document.printItems (level : Nat) : List Document → List String
  | [] => []
  | d :: ds => d.print level :: Document.printItems level ds

/-- The members of an object printed one by one. -/
def Document.printMembers (level : Nat) : List (String × Document) → List String
  | [] => []
  | (key, d) :: ds => (quote key ++ ": " ++ d.print level) :: Document.printMembers level ds

end

namespace Document

/-- A text that may be absent. -/
def optional : Option String → Document
  | some s => .text s
  | none => .null

/-- A list of texts. -/
def texts (ss : List String) : Document := .list (ss.map .text)

/-- The document of an instance. -/
def ofInstance (i : Instance) : Document :=
  .object ([("label", .text i.label), ("library", optional i.library),
    ("type", .text i.target.word), ("name", .text i.target.name)] ++
    match i.target with
    | .entity _ a => [("architecture", optional a)]
    | .component _ => [])

/-- The members that tell the kind of a unit. -/
def kindMembers : UnitKind → List (String × Document)
  | .entity => [("kind", .text "Entity")]
  | .architecture a is =>
    [("kind", .text "Architecture"), ("arch_name", .text a),
      ("instances", .list (is.map ofInstance))]
  | .package => [("kind", .text "Package")]
  | .packageBody => [("kind", .text "PackageBody")]

/-- The document of a unit. -/
def ofUnit (u : DesignUnit) : Document :=
  .object (kindMembers u.kind ++
    [("name", .text u.name), ("library_name", .text u.library), ("file_name", .text u.file),
      ("begin_line", .number u.beginLine), ("end_line", .number u.endLine),
      ("use_library_list", texts u.libraries),
      ("use_unit_list", .object (u.uses.map fun entry => (entry.1, texts entry.2)))])

end Document

/-- The listing of some units as one JSON list. -/
def json (units : List DesignUnit) : String :=
  Document.print 0 (.list (units.map Document.ofUnit))

end CompileOrder.Listing
