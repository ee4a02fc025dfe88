import CompileOrder.Plan
import CompileOrder.World

/-!
# Output of an ordered list

For a group of files, up to four things are done in turn: a command is run for each
file, the list is printed, the list is written to a file, and the sources are copied
into an archive. A project without any output prints the list of all files.
-/

namespace CompileOrder

/-- The template filled in for one file. -/
def SourceFile.format (f : SourceFile) (template : String) : String :=
  Template.fill template f.name f.library

/-- One line for each file, ended by a line feed. -/
def renderList (files : List SourceFile) (format : String) : String :=
  String.join (files.map fun f => f.format format ++ "\n")

/-- What was done with the files of a group. -/
structure OutputReport where
  /-- The number of commands run. -/
  commandsRun : Nat := 0
  /-- The number of those that did not succeed. -/
  commandsFailed : Nat := 0
  /-- Whether the list was printed. -/
  printed : Bool := false
  /-- Whether the list was written to a file. -/
  written : Bool := false
  /-- Whether the sources were archived. -/
  archived : Bool := false
  deriving DecidableEq, Repr

namespace Output

/-- The directory that is to hold an output file, unless it is the working directory. -/
def directoryOf (path : String) : Option String := (Path.parent? path).filter fun p => !p.isEmpty

/-- The directory that is to hold an output file is made if it is missing. -/
def makeDirectory (path : String) : Run Unit := do
  if let some above := directoryOf path then
    let t ← Run.query fun t => (t.ensureDirectory above).mapError (.cannotCreate above)
    Run.changeTree fun _ => t

/-- An output file is made or emptied, and its place is given. -/
def openFile (path : String) : Run (List String) := do
  makeDirectory path
  let (t, place) ← Run.query fun t => (t.create path).mapError (.cannotCreate path)
  Run.changeTree fun _ => t
  return place

/-- Bytes are added to an output file. -/
def extend (path : String) (place : List String) (bytes : Text.Bytes) : Run Unit := do
  let t ← Run.query fun t => (t.append place bytes).mapError (.cannotWrite path)
  Run.changeTree fun _ => t

/-- The list is written to a file. -/
def writeList (files : List SourceFile) (format path : String) : Run Unit := do
  let place ← openFile path
  extend path place (Text.encode (renderList files format))

/-- The contents of one source file are added to the archive. -/
def archiveFile (path : String) (place : List String) (f : SourceFile) : Run Unit := do
  let bytes ← Run.query fun t => (t.read f.name).mapError (.unreadable f.name)
  extend path place bytes

/-- The contents of the files are copied into one file, in order. -/
def writeArchive (files : List SourceFile) (path : String) : Run Unit := do
  let place ← openFile path
  files.forM (archiveFile path place)

/-- The variables that a command finds set. -/
def environment (f : SourceFile) : List (String × String) :=
  [("HDLSORT_FILE_NAME", f.name), ("HDLSORT_LIBRARY_NAME", f.library)]

/-- The number of bytes that a command, or a variable with its name, has to stay below. -/
def maxArgument : Nat := 131072

/-- Why no shell can be started for a command. -/
def obstacle? (command : String) (f : SourceFile) : Option Failure :=
  let settings := (environment f).map fun (name, value) => name ++ "=" ++ value
  let texts := command :: settings
  if texts.any fun s => s.toList.contains '\x00' then some .nulInCommand
  else if texts.any fun s => maxArgument ≤ s.utf8ByteSize then some .commandTooLong
  else none

/-- The command is run for one file; a failed command is reported. -/
def runCommand (shell : Shell) (template : String) (report : OutputReport) (f : SourceFile) :
    Run OutputReport := do
  let command := f.format template
  Run.status "Running" command
  if let some failure := obstacle? command f then throw failure
  let (status, after) := shell (environment f) command (← get)
  set after
  let report := { report with commandsRun := report.commandsRun + 1 }
  if status.isSuccess then return report
  Run.status "Failed" (command ++ " (" ++ status.display ++ ")")
  return { report with commandsFailed := report.commandsFailed + 1 }

/-- Everything the options ask for is done with the files. -/
def run (shell : Shell) (files : List SourceFile) (o : OutputOptions) : Run OutputReport := do
  let mut report : OutputReport := {}
  if let some template := o.execute then
    report ← files.foldlM (runCommand shell template) report
  if o.print then
    Run.write .list (renderList files o.format)
    report := { report with printed := true }
  if let some path := o.output then
    Run.status "Writing" path
    writeList files o.format path
    report := { report with written := true }
  if let some path := o.archive then
    Run.status "Archiving" path
    writeArchive files path
    report := { report with archived := true }
  return report

end Output

/-- What was done for one group of files. -/
structure GroupReport where
  /-- The library, or none for all libraries together. -/
  library : Option String
  /-- The number of files. -/
  files : Nat
  /-- What was done with them. -/
  report : OutputReport
  deriving DecidableEq, Repr

namespace Project

/-- The groups that an output is configured for: all libraries together first, then
each library. -/
def configuredGroups (p : Project) : List (Option String × OutputOptions) :=
  p.output.toList.map (fun o => (none, o)) ++
    p.libraries.filterMap fun l => l.output.map fun o => (some l.name, o)

/-- The groups that get an output. If no group does anything, the list of all files is
printed, with the format of the first group. -/
def groups (p : Project) : List (Option String × OutputOptions) :=
  let configured := p.configuredGroups
  if configured.all fun g => g.2.isIdle then
    [(none, { (configured.head?.map (·.2)).getD {} with print := true })]
  else configured

end Project

/-- The plan is made, and each group gets its output. -/
def order (shell : Shell) (p : Project) : Run (Plan × List GroupReport) := do
  let plan ← Run.query fun t => t.plan Graph.components p
  let reports ← p.groups.mapM fun (library, o) => do
    let files := plan.group library
    let report ← Output.run shell files o
    return (⟨library, files.length, report⟩ : GroupReport)
  return (plan, reports)

end CompileOrder
