import CompileOrder.CommandLine
import CompileOrder.Shell

/-!
# The program

What a run may look at is read from the disk into a file tree: the configuration
files it could start from, then everything its project names. The run itself acts
on that tree alone. Afterwards its changes are carried out on the disk, and what it
wrote is shown.
-/

namespace CompileOrder.Disk

open CommandLine

/-- No path describes a deeper nesting than this. -/
def maxDepth : Nat := FileTree.maxPath / 2

/-- A target that leads nowhere, as no name holds a NUL. -/
def nowhere : String := "/\x00"

/-- The node at a path of the disk, followed `depth` levels down. A link stands for the place
that the disk resolves it to. -/
def readNode : Nat → String → IO (Option Node)
  | 0, _ => return none
  | depth + 1, path => do
    let place := (← IO.currentDir) / path
    try
      match (← place.symlinkMetadata).type with
      | .file => return some (.ofBytes (← IO.FS.readBinFile place).toList)
      | .dir =>
        let entries ← (← place.readDir).toList.filterMapM fun e => do
          let child ← readNode depth (Path.join path e.fileName)
          return child.map fun n => (e.fileName, n)
        return some (.directory entries .ofDirectory)
      | .symlink =>
        let target ← try pure (← IO.FS.realPath place).toString catch _ => pure nowhere
        return some (.link target { mode := 0o777 })
      | _ => return none
    catch _ => return none

/-- The names that a path leads through from the root, by its text alone. -/
def placeOf (t : FileTree) (path : String) : List String :=
  (Path.names path).foldl (fun place name =>
    if name == "." then place else if name == ".." then place.dropLast else place ++ [name])
    (t.startOf path)

/-- What is at some paths of the disk, `depth` levels down, is added to the tree. In every
further round the places are added that the links found in the round before lead to. -/
def fetch (depth : Nat) : Nat → List String → List String → FileTree → IO FileTree
  | 0, _, _, t => return t
  | rounds + 1, seen, paths, t => do
    let (t, targets) ← paths.foldlM (fun (t, targets) path => do
      match ← readNode depth path with
      | some n =>
        return ({ t with root := t.root.plant (placeOf t path) n }, targets ++ n.targets)
      | none => return (t, targets)) (t, [])
    let new := targets.eraseDups.filter fun target => !seen.contains target
    fetch depth rounds (seen ++ new) new t

/-- What is at some paths of the disk, and at the places that links there lead to, `depth`
levels down, is added to the tree. -/
def fetchLinked (depth : Nat) (paths : List String) (t : FileTree) : IO FileTree :=
  fetch depth (FileTree.maxLinks + 1) [] paths t

/-- The sources that an invocation names. -/
def sourcesOf : Invocation → SourceOptions
  | .order o => o.sources
  | .units sources _ => sources

/-- The files that may hold the configuration. -/
def configFiles (o : SourceOptions) (t : FileTree) : List String :=
  match o.config with
  | some path => [path]
  | none => (Path.upward t.workingPath).map fun directory => Path.join directory configFileName

/-- The outputs that a run makes. -/
def outputsOf (invocation : Invocation) (p : Project) : List OutputOptions :=
  match invocation with
  | .order o => p.groups.map (fun g => g.2) ++ [o.outputOptions]
  | .units _ _ => []

/-- The files that an output writes, each after the directory that holds it. -/
def targetsOf (o : OutputOptions) : List String :=
  (o.output.toList ++ o.archive.toList).flatMap fun path =>
    (Output.directoryOf path).toList ++ [path]

/-- The tree with all that the run of an invocation may look at. Commands may look at
the whole working directory. -/
def fetchAll (invocation : Invocation) (t : FileTree) : IO FileTree := do
  let t ← fetchLinked 1 (configFiles (sourcesOf invocation) t) t
  match (sourcesOf invocation).project FileTree.loadProject t with
  | .error _ => return t
  | .ok (p, _) =>
    let outputs := outputsOf invocation p
    let t ← fetchLinked 1 (outputs.flatMap targetsOf) t
    let t ← if outputs.any fun o => o.execute.isSome then fetch maxDepth 1 [] ["."] t else pure t
    fetchLinked maxDepth (p.libraries.flatMap fun l => l.paths) t

/-- The absolute path that names lead to. -/
def pathOf (names : List String) : String := "/" ++ "/".intercalate names

/-- The bytes of the file that names lead to. -/
def bytesAt (n : Node) (names : List String) : Option Text.Bytes :=
  match n.get? names with
  | some (.file bytes _) => some bytes
  | _ => none

/-- The changes between two trees are carried out on the disk. -/
def carryOut (before after : Node) : IO Unit := do
  for (names, _) in before.files do
    if (bytesAt after names).isNone then IO.FS.removeFile (pathOf names)
  for names in after.directories do
    if (before.get? names).isNone then IO.FS.createDirAll (pathOf names)
  for (names, bytes) in after.files do
    if bytesAt before names != some bytes then
      IO.FS.writeBinFile (pathOf names) ⟨bytes.toArray⟩

/-- What a run wrote is shown. -/
def display (w : World) : IO Unit := do
  let output ← IO.getStdout
  let errors ← IO.getStderr
  for (stream, bytes) in w.written do
    let target := if stream == .error then errors else output
    target.write ⟨bytes.toArray⟩
    target.flush

/-- Why there was no run, or why it stopped, is shown. -/
def explain : Ending → IO Unit
  | .done => return
  | .failed failure => IO.eprintln ("Error: " ++ failure.message)
  | .usage .misuse => IO.eprint Topic.program.text
  | .usage _ => return

end CompileOrder.Disk

open CompileOrder CompileOrder.CommandLine in
/-- The program on the words of its command line. -/
def main (words : List String) : IO UInt32 := do
  let names := Path.names (← IO.currentDir).toString
  let empty : FileTree := { root := Node.empty.plant names .empty, workingDirectory := names }
  let found ← match Invocation.parse words with
    | .ok invocation => Disk.fetchAll invocation empty
    | .error _ => pure empty
  let tree := found.onSystem
  let (ending, after) := execute Shell.standard words ⟨tree, []⟩
  Disk.carryOut tree.root after.tree.root
  Disk.display after
  Disk.explain ending
  return ending.exitCode.toUInt32
