import CompileOrder.Shell.Expansion

/-!
# Redirections

The targets of all redirections of a command are expanded first; then descriptors are
led to files, to what other descriptors lead to, or to here-documents, which are
expanded now, one after the other. A redirection that is not possible ends the rest.
-/

namespace CompileOrder.Shell.Redirection

/-- A redirection with its target expanded. -/
inductive Step where
  /-- To a file. -/
  | file (descriptor : Nat) (opening : Opening) (path : String)
  /-- To what another descriptor leads to, or nowhere. -/
  | duplicate (descriptor : Nat) (source : Option Nat)
  /-- To the text that a word is expanded to. -/
  | document (descriptor : Nat) (word : Word)

/-- The descriptor that a text names; a hyphen names none. A text that names nothing is
reported for the line that the script has been read up to. -/
def source (text : String) : Act (Option Nat) := do
  let refuse : Act (Option Nat) := do
    Act.modifySession fun s => { s with line := s.reached }
    Act.error "Syntax error: Bad fd number"
  match text.toList with
  | ['-'] => return none
  | [c] => if c.isDigit then return some (c.toNat - 48) else refuse
  | _ => refuse

/-- A redirection with its target expanded. -/
def expand (x : Expander) : Redirect → Act Step
  | .file descriptor opening target => do
    return .file descriptor opening (← Expansion.text x .start target)
  | .duplicate descriptor target => do
    let fields ← Expansion.fields x target
    return .duplicate descriptor (← source (fields.headD ""))
  | .document descriptor number => do
    let s ← Act.session
    return .document descriptor (s.documents.getD number [])

/-- What a path that stands for a descriptor of the process leads to. -/
def ownDescriptor? (s : Session) (path : String) : Option (Option Nat) :=
  match path with
  | "/dev/stdin" => some (s.descriptor? 0)
  | "/dev/stdout" => some (s.descriptor? 1)
  | "/dev/stderr" => some (s.descriptor? 2)
  | path =>
    let lead := "/dev/fd/"
    if lead.toList.isPrefixOf path.toList then
      (Octets.number? (Octets.dropFirst lead.length path)).map fun n => s.descriptor? n
    else none

/-- The words for a file that could not be opened. -/
def faultText (fault : FileFault) (missing : String) : String :=
  match fault with
  | .notFound | .notDirectory => missing
  | fault => fault.words

/-- A file that is there is opened for reading. -/
def openRead (m : Machine) (path : String) (access : Access) :
    Except FileFault (Nat × Machine) := do
  let place ← m.locate path
  match ← m.tree.node place with
  | .directory _ _ => if access.writes then throw .isDirectory else return m.openChannel .directory
  | .device .terminal _ => throw .noDevice
  | .device kind _ => return m.openChannel (.device kind)
  | .pipe _ _ => return m.openChannel (.namedPipe place)
  | _ => return m.openChannel (.file place 0 access)

/-- A file is opened for writing and made if it is not there; it may be emptied first. -/
def openWrite (m : Machine) (path : String) (access : Access) (empties : Bool) :
    Except FileFault (Nat × Machine) := do
  if m.holds path && (!empties || !m.isFile path) then openRead m path access
  else
    let (t, place) ← m.tree.create (Octets.toText path)
    return (m.withTree t).openChannel (.file place 0 access)

/-- A file is opened. -/
def openFile (m : Machine) (opening : Opening) (path : String) : Except FileFault (Nat × Machine) :=
  match opening with
  | .read => openRead m path { reads := true, writes := false }
  | .write | .overwrite => openWrite m path { reads := false, writes := true } true
  | .append => openWrite m path { reads := false, writes := true, appends := true } false
  | .both => openWrite m path { reads := true, writes := true } false

/-- The channel that a file is opened as. -/
def channelOf (opening : Opening) (path : String) : Act Nat := do
  let c ← get
  let refuse (fault : FileFault) : Act Nat :=
    if opening == .read then
      Act.error ("cannot open " ++ path ++ ": " ++ faultText fault "No such file")
    else Act.error ("cannot create " ++ path ++ ": " ++ faultText fault "Directory nonexistent")
  match ownDescriptor? c.session path with
  | some (some i) => return i
  | some none => refuse .notFound
  | none =>
    if opening == .write && c.session.has 'C' && c.machine.isFile path then refuse .alreadyExists
    else match openFile c.machine opening path with
      | .ok (i, m) =>
        set { c with machine := m }
        return i
      | .error fault => refuse fault

/-- One redirection is carried out. -/
def apply (x : Expander) (step : Step) : Act Unit := do
  match step with
  | .file descriptor opening path =>
    let i ← channelOf opening path
    Act.modifySession fun s => s.withDescriptor descriptor (some i)
  | .duplicate descriptor none =>
    Act.modifySession fun s => s.withDescriptor descriptor none
  | .duplicate descriptor (some source) =>
    match (← Act.session).descriptor? source with
    | some i => Act.modifySession fun s => s.withDescriptor descriptor (some i)
    | none => Act.error (toString source ++ ": Bad file descriptor")
  | .document descriptor word =>
    let text ← Expansion.documentText x word
    let c ← get
    let (i, m) := c.machine.openChannel (.pipe (Octets.toBytes text))
    set { c with machine := m }
    Act.modifySession fun s => s.withDescriptor descriptor (some i)

end CompileOrder.Shell.Redirection
