import CompileOrder.FileTree.Fault
import CompileOrder.FileTree.Node
import CompileOrder.Path

/-!
# The file tree of a run

A tree together with what a process sees it by: the directory that relative paths start
from, the permission bits that new nodes do not get, and the time. A path is followed
name by name from the root or from that directory; each step needs a directory to start
from, two points lead to the directory above, and a link leads to where its target does.
The last name of a path may be a link that is meant itself.
-/

namespace CompileOrder

/-- A directory tree as a process sees it. -/
structure FileTree where
  /-- The tree. -/
  root : Node
  /-- The names that lead to the working directory. -/
  workingDirectory : List String
  /-- The permission bits that new nodes do not get. -/
  mask : Nat := 0o022
  /-- The time. -/
  time : Time := Time.ofFiles + Time.second

namespace FileTree

/-- The greatest number of bytes in one name. -/
def maxName : Nat := 255

/-- The number of bytes that a path has to stay below. -/
def maxPath : Nat := 4096

/-- The number of links that are followed for one path at most. -/
def maxLinks : Nat := 40

/-- The working directory as an absolute path. -/
def workingPath (t : FileTree) : String := "/" ++ "/".intercalate t.workingDirectory

/-- One step from the directory at `place`. -/
def step (t : FileTree) (place : List String) (name : String) : Except FileFault (List String) :=
  match t.root.get? place with
  | none => .error .notFound
  | some (.directory es _) =>
    if name == "." then .ok place
    else if name == ".." then .ok place.dropLast
    else if maxName < name.utf8ByteSize then .error .nameTooLong
    else if (child? name es).isSome then .ok (place ++ [name])
    else .error .notFound
  | some _ => .error .notDirectory

/-- The names that the target of a link stands for. A slash at its end asks for a
directory, which a single point does as well. -/
def targetNames (target : String) : List String :=
  Path.names target ++ if Path.endsWithSlash target then ["."] else []

/-- The place that names lead to from another place. At a link, `jump` goes on with the
place that the target starts from and all names that are left; the last name is followed
only if that is asked for. -/
def walkWith (t : FileTree) (followsLast : Bool)
    (jump : List String → List String → Except FileFault (List String)) :
    List String → List String → Except FileFault (List String)
  | place, [] => .ok place
  | place, name :: rest =>
    match t.step place name with
    | .error fault => .error fault
    | .ok next =>
      match t.root.get? next with
      | some (.link target _) =>
        if rest.isEmpty && !followsLast then .ok next
        else jump (if Path.isAbsolute target then [] else place) (targetNames target ++ rest)
      | _ => walkWith t followsLast jump next rest

/-- The place that names lead to, with a number of links that may be followed. -/
def walk (t : FileTree) (followsLast : Bool) :
    Nat → List String → List String → Except FileFault (List String)
  | 0 => t.walkWith followsLast fun _ _ => .error .tooManyLinks
  | links + 1 => t.walkWith followsLast (t.walk followsLast links)

/-- The directory that a path starts from. -/
def startOf (t : FileTree) (path : String) : List String :=
  if Path.isAbsolute path then [] else t.workingDirectory

/-- The reasons for which a path is refused before it is followed. -/
def checkPath (path : String) : Except FileFault Unit :=
  if path.toList.contains '\x00' then .error .nulInName
  else if path.isEmpty then .error .notFound
  else if maxPath ≤ path.utf8ByteSize then .error .nameTooLong
  else .ok ()

/-- The place that a path leads to. A link at its end is followed if that is asked for
or if a slash comes after it. -/
def locateBy (t : FileTree) (followsLast : Bool) (path : String) :
    Except FileFault (List String) := do
  checkPath path
  let follows := followsLast || Path.endsWithSlash path
  let place ← t.walk follows maxLinks (t.startOf path) (Path.names path)
  match t.root.get? place with
  | none => .error .notFound
  | some (.directory _ _) => .ok place
  | some _ => if Path.endsWithSlash path then .error .notDirectory else .ok place

/-- The place that a path leads to. -/
def locate (t : FileTree) (path : String) : Except FileFault (List String) := t.locateBy true path

/-- The place of what a path names, which may be a link. -/
def locateSelf (t : FileTree) (path : String) : Except FileFault (List String) :=
  t.locateBy false path

/-- The node at a place. -/
def node (t : FileTree) (place : List String) : Except FileFault Node :=
  match t.root.get? place with
  | some n => .ok n
  | none => .error .notFound

/-- The node that a path leads to. -/
def find (t : FileTree) (path : String) : Except FileFault Node := do t.node (← t.locate path)

/-- The node that a path names, which may be a link. -/
def findSelf (t : FileTree) (path : String) : Except FileFault Node := do
  t.node (← t.locateSelf path)

/-- Whether the path leads anywhere. -/
def holds (t : FileTree) (path : String) : Bool :=
  match t.find path with
  | .ok _ => true
  | .error _ => false

/-- Whether the path leads to a file. -/
def isFile (t : FileTree) (path : String) : Bool :=
  match t.find path with
  | .ok n => n.isFile
  | _ => false

/-- Whether the path leads to a directory. -/
def isDirectory (t : FileTree) (path : String) : Bool :=
  match t.find path with
  | .ok n => n.isDirectory
  | _ => false

/-- The bytes that a device without an end gives to one who reads all of it. -/
def supply : Text.Bytes := List.replicate 65536 0

/-- What can be read from a node. -/
def readNode : Node → Except FileFault Text.Bytes
  | .file bytes _ => .ok bytes
  | .directory _ _ => .error .isDirectory
  | .link _ _ => .error .tooManyLinks
  | .device .null _ => .ok []
  | .device .terminal _ => .error .noDevice
  | .device _ _ => .ok supply
  | .pipe pending _ => .ok pending

/-- The contents of the file that a path leads to. -/
def read (t : FileTree) (path : String) : Except FileFault Text.Bytes := do
  readNode (← t.find path)

/-- The contents of a file as text, read permissively. -/
def readLossy (t : FileTree) (path : String) : Except FileFault String :=
  (t.read path).map Text.decodeLossy

/-- The contents of a file as text, which has to be UTF-8. -/
def readStrict (t : FileTree) (path : String) : Except FileFault String := do
  match Text.decode? (← t.read path) with
  | some text => .ok text
  | none => .error .notUtf8

/-- The directory that holds the last of some names, and that name, if it is one that
an entry can have. -/
def lastOf (t : FileTree) (start names : List String) :
    Except FileFault (List String × Option String) := do
  let place ← t.walk true maxLinks start names.dropLast
  match names.getLast? with
  | none => return (place, none)
  | some name =>
    match t.root.get? place with
    | some (.directory _ _) =>
      if name == "." || name == ".." then return (place, none)
      else if maxName < name.utf8ByteSize then .error .nameTooLong
      else return (place, some name)
    | _ => .error .notDirectory

/-- The directory that holds the last name of a path, and that name, if it is one that
an entry can have. -/
def locateLast (t : FileTree) (path : String) :
    Except FileFault (List String × Option String) := do
  checkPath path
  t.lastOf (t.startOf path) (Path.names path)

/-- The directory and the name of a file that is to be made or opened: links are
followed, a number of them at most, even if they lead to nothing. -/
def lastFollowing (t : FileTree) : Nat → List String → List String →
    Except FileFault (List String × Option String)
  | 0, _, _ => .error .tooManyLinks
  | links + 1, start, names => do
    match ← t.lastOf start names with
    | (place, none) => return (place, none)
    | (place, some name) =>
      match t.root.get? (place ++ [name]) with
      | some (.link target _) =>
        t.lastFollowing links (if Path.isAbsolute target then [] else place) (targetNames target)
      | _ => return (place, some name)

/-- The attributes of a new node that asks for some permission bits. -/
def newAttributes (t : FileTree) (mode : Nat) : Attributes :=
  { mode := mode - (mode &&& t.mask), modified := t.time, accessed := t.time }

/-- The directory at a place has been changed. -/
def stamp (t : FileTree) (place : List String) : FileTree :=
  match t.root.get? place with
  | some n =>
    { t with root := t.root.set place (n.withAbout { n.about with modified := t.time }) }
  | none => t

/-- A node is put at a place in a directory. -/
def put (t : FileTree) (place : List String) (n : Node) : FileTree :=
  { t with root := t.root.set place n }.stamp place.dropLast

/-- The node at a place is taken away. -/
def drop (t : FileTree) (place : List String) : FileTree :=
  { t with root := t.root.erase place }.stamp place.dropLast

/-- The node at a place becomes another one under all of its names. -/
def change (t : FileTree) (place : List String) (n : Node) : FileTree :=
  if n.about.identity == 0 then { t with root := t.root.set place n }
  else { t with root := Node.replaceAll n.about.identity n t.root }

/-- The file at a place, where `found` stood before, has these contents. -/
def replace (t : FileTree) (place : List String) (bytes : Text.Bytes) (found : Option Node) :
    FileTree :=
  match found with
  | some (.file _ a) => t.change place (.file bytes { a with modified := t.time })
  | some (.pipe _ a) => t.change place (.pipe bytes { a with modified := t.time })
  | some _ => t
  | none => t.put place (.file bytes (t.newAttributes 0o666))

/-- The place of a file that is to be written anew: it is made if it is not there, and
emptied if it is. -/
def create (t : FileTree) (path : String) : Except FileFault (FileTree × List String) := do
  checkPath path
  let (place, name?) ← t.lastFollowing maxLinks (t.startOf path) (Path.names path)
  match name? with
  | none => .error .isDirectory
  | some name =>
    if Path.endsWithSlash path then .error .isDirectory
    else match t.root.get? (place ++ [name]) with
      | some (.directory _ _) => .error .isDirectory
      | some (.device .terminal _) => .error .noDevice
      | some (.pipe _ _) => return (t, place ++ [name])
      | found => return (t.replace (place ++ [name]) [] found, place ++ [name])

/-- The contents of the file at a place. -/
def contents (t : FileTree) (place : List String) : Text.Bytes :=
  match t.root.get? place with
  | some (.file bytes _) | some (.pipe bytes _) => bytes
  | _ => []

/-- Bytes are added at the end of the file at a place. -/
def append (t : FileTree) (place : List String) (bytes : Text.Bytes) :
    Except FileFault FileTree :=
  match t.root.get? place with
  | some (.device .full _) => if bytes.isEmpty then .ok t else .error .noRoom
  | found => .ok (t.replace place (t.contents place ++ bytes) found)

/-- A directory is made that asks for some permission bits. -/
def makeDirectoryWith (t : FileTree) (mode : Nat) (path : String) :
    Except FileFault FileTree := do
  let (place, name?) ← t.locateLast path
  match name? with
  | none => .error .alreadyExists
  | some name =>
    if (t.root.get? (place ++ [name])).isSome then .error .alreadyExists
    else return t.put (place ++ [name]) (.directory [] (t.newAttributes mode))

/-- A directory is made. -/
def makeDirectory (t : FileTree) (path : String) : Except FileFault FileTree :=
  t.makeDirectoryWith 0o777 path

/-- A directory is made unless it is there; a fault is no matter if it is. -/
def makeOrKeep (t : FileTree) (path : String) : Except FileFault FileTree :=
  match t.makeDirectory path with
  | .ok t => .ok t
  | .error fault => if t.isDirectory path then .ok t else .error fault

/-- A directory is made together with the missing directories above it, of which there
are no more than `depth`. -/
def makeDirectories : Nat → FileTree → String → Except FileFault FileTree
  | 0, t, path => t.makeOrKeep path
  | depth + 1, t, path =>
    if path.isEmpty then .ok t
    else match t.makeDirectory path with
      | .ok t => .ok t
      | .error .notFound =>
        match Path.parent? path with
        | some above => do
          let t ← makeDirectories depth t above
          t.makeOrKeep path
        | none => .error .notFound
      | .error fault => if t.isDirectory path then .ok t else .error fault

/-- A directory and those above it are made if the path leads nowhere yet. -/
def ensureDirectory (t : FileTree) (path : String) : Except FileFault FileTree :=
  if t.holds path then .ok t else makeDirectories path.length t path

/-- The nearest of a directory and those above it, by name, that has a file under the
relative path `file`. -/
def nearestWith (t : FileTree) (file start : String) : Option String :=
  (Path.upward start).find? fun directory => t.isFile (Path.join directory file)

section

variable (t : FileTree) (jump : List String → List (List String × Text.Bytes))

mutual

/-- The files at or below a node at a place, and those that links lead to: `jump` gives
the files at the place that a link leads to. -/
def filesThrough (place : List String) : Node → List (List String × Text.Bytes)
  | .file bytes _ => [([], bytes)]
  | .directory es _ => entriesThrough place es
  | .link target _ =>
    match t.walk true maxLinks (if Path.isAbsolute target then [] else place.dropLast)
        (targetNames target) with
    | .ok there => jump there
    | .error _ => []
  | .device _ _ | .pipe _ _ => []

/-- The files below the entries of a directory, and those that links lead to. -/
def entriesThrough (place : List String) :
    List (String × Node) → List (List String × Text.Bytes)
  | [] => []
  | (name, n) :: es =>
    ((filesThrough (place ++ [name]) n).map fun f => (name :: f.1, f.2)) ++
      entriesThrough place es

end

end

/-- The files at or below a place with the names that lead to them, also through links, of
which a number may follow each other. -/
def reachable (t : FileTree) : Nat → List String → List (List String × Text.Bytes)
  | 0, _ => []
  | links + 1, place =>
    match t.root.get? place with
    | some n => t.filesThrough (t.reachable links) place n
    | none => []

end FileTree

end CompileOrder
