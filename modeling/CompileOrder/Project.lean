import CompileOrder.Failure
import CompileOrder.FileGraph.BuildOrder
import CompileOrder.Path
import CompileOrder.Template

/-!
# Projects

A project is what a run is to do: the libraries with their sources, requests and
outputs, the output for all libraries together, and how files are ordered. Library
names are upper case and distinct once a project is normalised.
-/

namespace CompileOrder

/-- What is done with an ordered list of files. -/
structure OutputOptions where
  /-- Whether the list is printed. -/
  print : Bool := false
  /-- The template of a printed or written line. -/
  format : String := Template.default
  /-- The template of a command run once for each file. -/
  execute : Option String := none
  /-- The file that the list is written to. -/
  output : Option String := none
  /-- The file that the sources are copied into, one after the other. -/
  archive : Option String := none
  deriving DecidableEq, Repr

/-- Whether nothing at all is done with the list. -/
def OutputOptions.isIdle (o : OutputOptions) : Bool :=
  !o.print && o.execute.isNone && o.output.isNone && o.archive.isNone

/-- A library of a project. -/
structure Library where
  /-- Its name. -/
  name : String
  /-- The files and directories that hold its sources. -/
  paths : List String := []
  /-- The texts of its architecture selections. -/
  selections : List String := []
  /-- The texts of its top-level requests. -/
  tops : List String := []
  /-- What is done with its files. -/
  output : Option OutputOptions := none
  deriving DecidableEq, Repr

/-- What a run is to do. -/
structure Project where
  /-- How files are ordered. -/
  rules : OrderRules := {}
  /-- What is done with the files of all libraries together. -/
  output : Option OutputOptions := none
  /-- The libraries in order. -/
  libraries : List Library := []
  deriving DecidableEq, Repr

namespace Library

/-- The library with everything that a later entry of the same name adds; an output
given later takes the place of the one before. -/
def merge (l m : Library) : Library :=
  { l with
    paths := l.paths ++ m.paths
    selections := l.selections ++ m.selections
    tops := l.tops ++ m.tops
    output := m.output <|> l.output }

/-- The library under its canonical name: no blanks around it, and upper case. -/
def canonical (l : Library) : Library :=
  { l with name := Text.upper (String.ofList (Text.trim l.name.toList)) }

end Library

/-- A library is merged into the first one of the same name, or added at the end. -/
def mergeInto (l : Library) : List Library → List Library
  | [] => [l]
  | m :: ms => if m.name == l.name then m.merge l :: ms else m :: mergeInto l ms

/-- One more entry is merged, under its canonical name, into the libraries read so far; its
name must not be blank. -/
def addEntry (merged : List Library) (entry : Library) : Except Failure (List Library) :=
  let l := entry.canonical
  if l.name == "" then .error .emptyLibraryName else .ok (mergeInto l merged)

/-- The libraries under their canonical names, entries of one name merged into the
first of them. A name must not be blank. -/
def normalize (libraries : List Library) : Except Failure (List Library) :=
  libraries.foldlM addEntry []

namespace Project

/-- A project of one library. -/
def single (library : String) (paths : List String) : Project :=
  { libraries := [{ name := Text.upper library, paths := paths }] }

/-- The library that unqualified requests and paths belong to. -/
def defaultLibrary (p : Project) : String := (p.libraries.head?.map (·.name)).getD workLibrary

/-- The first library of this name changed by `f`; it is added at the end if there is
none. -/
def modifyFirst (name : String) (f : Library → Library) : List Library → List Library
  | [] => [f { name := name }]
  | l :: ls => if l.name == name then f l :: ls else l :: modifyFirst name f ls

/-- The project with the library of this name, in any case, changed by `f`. -/
def modifyLibrary (p : Project) (name : String) (f : Library → Library) : Project :=
  { p with libraries := modifyFirst (Text.upper name) f p.libraries }

/-- A relative path taken as relative to `base`. -/
def rebasePath (base path : String) : String :=
  if Path.isAbsolute path then path else Path.join base path

/-- The output with its files taken as relative to `base`. -/
def rebaseOutput (base : String) (o : OutputOptions) : OutputOptions :=
  { o with output := o.output.map (rebasePath base), archive := o.archive.map (rebasePath base) }

/-- The project with all its paths taken as relative to `base`. -/
def rebase (p : Project) (base : String) : Project :=
  { p with
    output := p.output.map (rebaseOutput base)
    libraries := p.libraries.map fun l =>
      { l with
        paths := l.paths.map (rebasePath base)
        output := l.output.map (rebaseOutput base) } }

end Project

end CompileOrder
