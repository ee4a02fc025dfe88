import CompileOrder.Corpus.Closure
import CompileOrder.Corpus.Selection
import CompileOrder.DesignUnit.Extractor
import CompileOrder.FileTree.Sources
import CompileOrder.Project

/-!
# Planning the order

The sources of every library are read into one corpus, the selections drop
architectures, the top-level requests reduce the corpus to what they need, and the
files of the remaining units are put in build order, where `condense` cuts the graph
of files into classes. A text that is no request is reported and otherwise ignored.
-/

namespace CompileOrder

/-- What reading the sources found. -/
structure Analysis where
  /-- The units. -/
  corpus : Corpus
  /-- What has to be told. -/
  diagnostics : List Diagnostic
  /-- The number of files read. -/
  fileCount : Nat
  deriving DecidableEq, Repr

namespace Analysis

/-- Before anything is read. -/
def empty : Analysis := ⟨⟨[]⟩, [], 0⟩

/-- The units of one more file are added. -/
def add (a : Analysis) (found : FileUnits) : Analysis :=
  { corpus := a.corpus.append found.units
    diagnostics := a.diagnostics ++ found.unterminated.toList.map .unterminatedUnit
    fileCount := a.fileCount + 1 }

end Analysis

namespace FileTree

/-- One source file of a library is read. -/
def analyzeFile (t : FileTree) (library : String) (a : Analysis) (file : String) :
    Except Failure Analysis := do
  let text ← t.readSource file
  return a.add (extract text file library)

/-- The source files that one path of a library stands for are read. -/
def analyzePath (t : FileTree) (library : String) (a : Analysis) (path : String) :
    Except Failure Analysis := do
  let files ← t.sources path
  files.foldlM (t.analyzeFile library) a

/-- All source files of all libraries are read, in the order of the project. -/
def analyze (t : FileTree) (p : Project) : Except Failure Analysis :=
  p.libraries.foldlM (fun a l => l.paths.foldlM (t.analyzePath l.name) a) .empty

end FileTree

/-- The requests that some texts of a library describe. -/
def requestsOf (library : String) (texts : List String) : List Request :=
  texts.filterMap fun text => Request.parse? text library

/-- The texts of a library that are no requests. -/
def rejectedOf (library : String) (texts : List String) : List Diagnostic :=
  (texts.filter fun text => (Request.parse? text library).isNone).map .malformedRequest

namespace Project

/-- The well-formed architecture selections of all libraries. -/
def selectionRequests (p : Project) : List Request :=
  p.libraries.flatMap fun l => requestsOf l.name l.selections

/-- The well-formed top-level requests of all libraries. -/
def topRequests (p : Project) : List Request :=
  p.libraries.flatMap fun l => requestsOf l.name l.tops

/-- The texts of all libraries that are no requests, selections before tops. -/
def rejected (p : Project) : List Diagnostic :=
  p.libraries.flatMap fun l => rejectedOf l.name l.selections ++ rejectedOf l.name l.tops

end Project

/-- The corpus reduced to what the top-level requests need; without any it stays. -/
def Corpus.reduce (c : Corpus) (tops : List Request) : Corpus × List Diagnostic :=
  if tops.isEmpty then (c, []) else c.closure tops

/-- The files of a run in build order. -/
structure Plan where
  /-- The files of all libraries in build order. -/
  files : List SourceFile
  /-- What has to be told. -/
  diagnostics : List Diagnostic
  /-- The number of files read. -/
  fileCount : Nat
  /-- The number of units that are ordered. -/
  unitCount : Nat
  deriving DecidableEq, Repr

section
variable (condense : List (List Nat) → List (List Nat))

namespace Plan

/-- The plan for what was read. -/
def ofAnalysis (p : Project) (a : Analysis) : Plan :=
  let (selected, selectFindings) := a.corpus.select p.selectionRequests
  let (reduced, closureFindings) := selected.reduce p.topRequests
  let (files, orderFindings) := orderFiles condense reduced.units p.rules
  { files := files
    diagnostics := a.diagnostics ++ p.rejected ++ selectFindings ++ closureFindings ++ orderFindings
    fileCount := a.fileCount
    unitCount := reduced.units.length }

end Plan

/-- The plan of a project over the files of a tree. -/
def FileTree.plan (t : FileTree) (p : Project) : Except Failure Plan :=
  (t.analyze p).map (Plan.ofAnalysis condense p)

end

/-- The files of one library, or of all of them, in build order. -/
def Plan.group (plan : Plan) (library : Option String) : List SourceFile :=
  plan.files.filter fun f => library.all fun l => f.library == l

end CompileOrder
