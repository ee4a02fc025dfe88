import CompileOrder.Text.Utf8

/-!
# Nodes of a file tree

A node is a file with its bytes, a directory with named entries, a link that stands for
another path, a device, or a pipe that has a name. Besides what it holds, permission bits
and times are known of each. A list of names leads from a node to the nodes below it.
Names of one and the same file share a number, by which all of them are changed together.
-/

namespace CompileOrder

/-- A time in nanoseconds since the start of 1970. -/
abbrev Time := Int

/-- The time at which the files that a run finds were last changed. -/
def Time.ofFiles : Time := 1767225600000000000

/-- A number of nanoseconds in a second. -/
def Time.second : Time := 1000000000

/-- What is known of a node besides what it holds. -/
structure Attributes where
  /-- The permission bits. -/
  mode : Nat
  /-- When it was last changed. -/
  modified : Time := Time.ofFiles
  /-- When it was last used. -/
  accessed : Time := Time.ofFiles
  /-- The number of its owner. -/
  owner : Nat := 0
  /-- The number of its group. -/
  group : Nat := 0
  /-- The number that the names of one file share, or zero if it has only one. -/
  identity : Nat := 0
  deriving DecidableEq, Repr

/-- The attributes of a file that can be read by all and changed by its owner. -/
def Attributes.ofFile : Attributes := { mode := 0o644 }

/-- The attributes of a directory or of a program. -/
def Attributes.ofDirectory : Attributes := { mode := 0o755 }

/-- A device. -/
inductive Device where
  /-- It is always empty and takes everything. -/
  | null
  /-- It gives zeros without end and takes everything. -/
  | zero
  /-- It gives zeros without end and has no room. -/
  | full
  /-- It gives arbitrary bytes without end. -/
  | random
  /-- The terminal that a process would belong to; there is none. -/
  | terminal
  deriving DecidableEq, Repr

/-- What a file tree is made of. -/
inductive Node where
  /-- A file with its contents. -/
  | file (bytes : Text.Bytes) (about : Attributes)
  /-- A directory with its entries. -/
  | directory (entries : List (String × Node)) (about : Attributes)
  /-- A link that stands for a path. -/
  | link (target : String) (about : Attributes)
  /-- A device. -/
  | device (kind : Device) (about : Attributes)
  /-- A pipe with what was written into it and has not been read. -/
  | pipe (pending : Text.Bytes) (about : Attributes)

/-- The entry of a directory with this name. -/
def child? (name : String) (entries : List (String × Node)) : Option Node :=
  (entries.find? fun e => e.1 == name).map fun e => e.2

/-- The entries with the one of this name replaced, or added at the end. -/
def setEntry (name : String) (n : Node) : List (String × Node) → List (String × Node)
  | [] => [(name, n)]
  | e :: es => if e.1 == name then (name, n) :: es else e :: setEntry name n es

/-- The entries without the one of this name. -/
def dropEntry (name : String) (entries : List (String × Node)) : List (String × Node) :=
  entries.filter fun e => e.1 != name

namespace Node

/-- An empty directory. -/
def empty : Node := .directory [] .ofDirectory

/-- A file as it is found. -/
def ofBytes (bytes : Text.Bytes) : Node := .file bytes .ofFile

/-- What is known of a node. -/
def about : Node → Attributes
  | .file _ a | .directory _ a | .link _ a | .device _ a | .pipe _ a => a

/-- The node with other attributes. -/
def withAbout (a : Attributes) : Node → Node
  | .file bytes _ => .file bytes a
  | .directory es _ => .directory es a
  | .link target _ => .link target a
  | .device kind _ => .device kind a
  | .pipe pending _ => .pipe pending a

/-- Whether the node is a directory. -/
def isDirectory : Node → Bool
  | .directory _ _ => true
  | _ => false

/-- Whether the node is a file. -/
def isFile : Node → Bool
  | .file _ _ => true
  | _ => false

/-- Whether the node is a link. -/
def isLink : Node → Bool
  | .link _ _ => true
  | _ => false

/-- The node that a list of names leads to. -/
def get? : Node → List String → Option Node
  | n, [] => some n
  | .directory es _, name :: path => (child? name es).bind fun child => child.get? path
  | _, _ :: _ => none

/-- The tree with the node at the end of the names replaced, or added to a directory
that is there; all else stays. -/
def set : Node → List String → Node → Node
  | _, [], new => new
  | .directory es a, [name], new => .directory (setEntry name new es) a
  | .directory es a, name :: path, new =>
    match child? name es with
    | some child => .directory (setEntry name (child.set path new) es) a
    | none => .directory es a
  | n, _ :: _, _ => n

/-- The tree without the node at the end of the names. -/
def erase : Node → List String → Node
  | n, [] => n
  | .directory es a, [name] => .directory (dropEntry name es) a
  | .directory es a, name :: path =>
    match child? name es with
    | some child => .directory (setEntry name (child.erase path) es) a
    | none => .directory es a
  | n, _ :: _ => n

/-- The tree with a node at the end of the names; directories that are missing on the
way are made. -/
def plant : Node → List String → Node → Node
  | _, [], new => new
  | .directory es a, name :: path, new =>
    .directory (setEntry name (((child? name es).getD empty).plant path new) es) a
  | n, _ :: _, _ => n

mutual

/-- The tree in which every name of the file with this number stands for `new`. -/
def replaceAll (identity : Nat) (new : Node) : Node → Node
  | .directory es a => .directory (replaceEntries identity new es) a
  | n => if n.about.identity == identity then new else n

/-- The entries in which every name of the file with this number stands for `new`. -/
def replaceEntries (identity : Nat) (new : Node) : List (String × Node) → List (String × Node)
  | [] => []
  | (name, n) :: es => (name, replaceAll identity new n) :: replaceEntries identity new es

end

mutual

/-- How many names the file with this number has. -/
def countNames (identity : Nat) : Node → Nat
  | .directory es _ => countEntries identity es
  | n => if n.about.identity == identity then 1 else 0

/-- How many names the file with this number has among and below entries. -/
def countEntries (identity : Nat) : List (String × Node) → Nat
  | [] => 0
  | (_, n) :: es => n.countNames identity + countEntries identity es

end

mutual

/-- The greatest number that names of a file share. -/
def lastIdentity : Node → Nat
  | .directory es _ => lastEntryIdentity es
  | n => n.about.identity

/-- The greatest number that names of a file share among and below entries. -/
def lastEntryIdentity : List (String × Node) → Nat
  | [] => 0
  | (_, n) :: es => Nat.max n.lastIdentity (lastEntryIdentity es)

end

mutual

/-- The files at or below a node, each with the names that lead to it. -/
def files : Node → List (List String × Text.Bytes)
  | .file bytes _ => [([], bytes)]
  | .directory es _ => filesOf es
  | _ => []

/-- The files below the entries of a directory. -/
def filesOf : List (String × Node) → List (List String × Text.Bytes)
  | [] => []
  | (name, n) :: es => (n.files.map fun f => (name :: f.1, f.2)) ++ filesOf es

end

mutual

/-- The targets of the links at or below a node. -/
def targets : Node → List String
  | .link target _ => [target]
  | .directory es _ => targetsOf es
  | _ => []

/-- The targets of the links below the entries of a directory. -/
def targetsOf : List (String × Node) → List String
  | [] => []
  | (_, n) :: es => n.targets ++ targetsOf es

end

mutual

/-- The names that lead to each directory at or below a node. -/
def directories : Node → List (List String)
  | .directory es _ => [] :: directoriesOf es
  | _ => []

/-- The names that lead to each directory below the entries of a directory. -/
def directoriesOf : List (String × Node) → List (List String)
  | [] => []
  | (name, n) :: es => (n.directories.map fun d => name :: d) ++ directoriesOf es

end

end Node

end CompileOrder
