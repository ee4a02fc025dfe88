import CompileOrder.CommandLine.Help
import CompileOrder.Listing
import CompileOrder.Listing.Json
import CompileOrder.Output

/-!
# The command line

The two commands as runs on a file tree, and the program as a whole: it reads its
words, runs what they ask for, and ends with a status.
-/

namespace CompileOrder.CommandLine

namespace OrderOptions

/-- The project with the ordering rules that are given. -/
def applyRules (o : OrderOptions) (p : Project) : Project :=
  { p with rules :=
    { strategy := o.strategy.getD p.rules.strategy
      crossLibrary := o.crossLibrary || p.rules.crossLibrary } }

/-- The project with the requests that are given added to the target library. -/
def applyRequests (o : OrderOptions) (target : String) (p : Project) : Project :=
  if o.selections.isEmpty && o.tops.isEmpty then p
  else p.modifyLibrary target fun l =>
    { l with selections := l.selections ++ o.selections, tops := l.tops ++ o.tops }

/-- The output that is asked for: the list is printed unless something else is done
with it. -/
def outputOptions (o : OrderOptions) : OutputOptions where
  print := o.execute.isNone && o.output.isNone && o.archive.isNone
  format := o.format.getD Template.default
  execute := o.execute
  output := o.output
  archive := o.archive

/-- Whether an output is asked for. -/
def givesOutput (o : OrderOptions) : Bool :=
  o.all || o.format.isSome || o.execute.isSome || o.output.isSome || o.archive.isSome

/-- The project with the output that is asked for, in place of the one of the target
library or of the one of all libraries together. -/
def applyOutput (o : OrderOptions) (target : String) (p : Project) : Project :=
  if !o.givesOutput then p
  else if o.all then { p with output := some o.outputOptions }
  else p.modifyLibrary target fun l => { l with output := some o.outputOptions }

/-- The project with everything that is given. -/
def applyTo (o : OrderOptions) (target : String) (p : Project) : Project :=
  o.applyOutput target (o.applyRequests target (o.applyRules p))

end OrderOptions

/-- Each finding is reported in a status line. -/
def report (ds : List Diagnostic) : Run Unit :=
  ds.forM fun d => Run.status d.severity.word d.message

/-- What was ordered, in words. -/
def orderedMessage (plan : Plan) : String :=
  toString plan.files.length ++ " files (" ++ toString plan.unitCount ++ " units from " ++
    toString plan.fileCount ++ " sources)"

/-- What was found, in words. -/
def foundMessage (a : Analysis) : String :=
  toString a.corpus.units.length ++ " units in " ++ toString a.fileCount ++ " files"

/-- The number of commands that did not succeed, over all groups. -/
def failedCommands (groups : List GroupReport) : Nat :=
  groups.foldl (fun n g => n + g.report.commandsFailed) 0

/-- The files are put in order, and the outputs are made. -/
def runOrder (shell : Shell) (o : OrderOptions) : Run Unit := do
  let (p, target) ← Run.query (o.sources.project FileTree.loadProject)
  let (plan, groups) ← order shell (o.applyTo target p)
  report plan.diagnostics
  Run.status "Ordered" (orderedMessage plan)
  let failed := failedCommands groups
  if 0 < failed then
    Run.status "Finished" (toString failed ++ " command(s) exited with an error")
  let warnings := Diagnostic.warnings plan.diagnostics
  if o.denyWarnings && decide (0 < warnings) then throw (.warningsDenied warnings)

/-- The units are listed. -/
def runUnits (sources : SourceOptions) (json : Bool) : Run Unit := do
  let (p, _) ← Run.query (sources.project FileTree.loadProject)
  let a ← Run.query fun t => t.analyze p
  report a.diagnostics
  let units := a.corpus.units
  Run.write .list (if json then Listing.json units ++ "\n" else Listing.text units)
  Run.status "Found" (foundMessage a)

/-- The command is run. -/
def Invocation.run (shell : Shell) : Invocation → Run Unit
  | .order o => runOrder shell o
  | .units sources json => runUnits sources json

/-- How the program ends. -/
inductive Ending where
  /-- The command did what was asked. -/
  | done
  /-- The command stopped. -/
  | failed (failure : Failure)
  /-- There was no command to run. -/
  | usage (usage : Usage)
  deriving DecidableEq, Repr

/-- The status that the program leaves behind. -/
def Ending.exitCode : Ending → Nat
  | .done => 0
  | .failed _ => 1
  | .usage .misuse => 2
  | .usage _ => 0

/-- The program: the words of the command line are read and what they ask for is done. -/
def execute (shell : Shell) (words : List String) (w : World) : Ending × World :=
  match Invocation.parse words with
  | .error usage => (.usage usage, w.write .list (Text.encode usage.text))
  | .ok invocation =>
    match (invocation.run shell).run.run w with
    | (.ok _, after) => (.done, after)
    | (.error failure, after) => (.failed failure, after)

end CompileOrder.CommandLine
