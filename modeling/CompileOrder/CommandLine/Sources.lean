import CompileOrder.Project.Load

/-!
# Sources named on the command line

Paths given without a library belong to one target library, and paths of other
libraries are given as `LIB=PATH`. They are added to the libraries of a base project:
the one that a configuration file describes, or the empty project. Without any
path, the nearest configuration file above the working directory is the base. How a
configuration file is read is left open: `load` gives the project it describes.
-/

namespace CompileOrder

/-- Where a run finds its sources. -/
structure SourceOptions where
  /-- Files and directories of the target library. -/
  paths : List String := []
  /-- The name of the target library. -/
  library : Option String := none
  /-- Files and directories of other libraries, each in the form `LIB=PATH`. -/
  libraryPaths : List String := []
  /-- The configuration file. -/
  config : Option String := none
  deriving DecidableEq, Repr

/-- The library with some more paths. -/
def Library.addPaths (l : Library) (paths : List String) : Library :=
  { l with paths := l.paths ++ paths }

/-- The library and the path of a text of the form `LIB=PATH`. The first equals sign
divides them, blanks around the library do not count, and neither may be empty. -/
def libraryPath? (text : String) : Option (String × String) :=
  let library := Text.trim (text.toList.takeWhile (· != '='))
  let path := (text.toList.dropWhile (· != '=')).tail
  if library.isEmpty || path.isEmpty then none
  else some (String.ofList library, String.ofList path)

/-- The project with the path that a text of the form `LIB=PATH` gives. -/
def Project.addLibraryPath (p : Project) (text : String) : Except Failure Project :=
  match libraryPath? text with
  | some (library, path) => .ok (p.modifyLibrary library fun l => l.addPaths [path])
  | none => .error (.malformedPair text)

namespace SourceOptions

/-- The library that paths without a library, and the options of a library, belong to:
the one that is named, or else the default library of the base project. -/
def target (o : SourceOptions) (base : Project) : String :=
  match o.library with
  | some name => Text.upper name
  | none => base.defaultLibrary

/-- The base project with the paths of the target library. -/
def addPathsTo (o : SourceOptions) (base : Project) : Project :=
  if o.paths.isEmpty then base
  else base.modifyLibrary (o.target base) fun l => l.addPaths o.paths

/-- The base project with all paths. -/
def addTo (o : SourceOptions) (base : Project) : Except Failure Project :=
  o.libraryPaths.foldlM Project.addLibraryPath (o.addPathsTo base)

/-- Whether a configuration file has to be looked for. -/
def needsSearch (o : SourceOptions) : Bool :=
  o.config.isNone && o.paths.isEmpty && o.libraryPaths.isEmpty

/-- The nearest configuration file at or above the working directory. -/
def nearestConfig (t : FileTree) : Except Failure String :=
  match t.nearestWith configFileName t.workingPath with
  | some directory => .ok (Path.join directory configFileName)
  | none => .error .noSources

section
variable (load : FileTree → String → Except Failure Project)

/-- The project that the paths are added to. -/
def base (o : SourceOptions) (t : FileTree) : Except Failure Project :=
  match o.config with
  | some path => load t path
  | none =>
    if o.needsSearch then do load t (← nearestConfig t)
    else .ok {}

/-- The project of a run and its target library. -/
def project (o : SourceOptions) (t : FileTree) : Except Failure (Project × String) := do
  let base ← o.base load t
  let p ← o.addTo base
  return (p, o.target base)

end

end SourceOptions

end CompileOrder
