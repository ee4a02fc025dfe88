import CompileOrder.Failure
import CompileOrder.FileTree
import CompileOrder.Text.Order

/-!
# Source files below a path

A path to a file or a device stands for that, a path to a directory for the files below
it. Entries with a point at the start of their name are not visited, files with a
tilde at the end of their name are left out, and the entries of a directory come in
increasing order of their names. An entry that is a link is followed as its path is
anywhere else, and if it leads to a directory the files below that are found under the
path of the link.
-/

namespace CompileOrder

/-- Whether an entry is hidden from the search. -/
def isHidden (name : String) : Bool := name.toList.head? == some '.'

/-- Whether the path names a backup copy. -/
def isBackup (path : String) : Bool :=
  match Path.fileName? path with
  | some name => name.toList.getLast? == some '~'
  | none => false

/-- Items in increasing order of their names. -/
def byName {α : Type} (items : List (String × α)) : List (String × α) :=
  items.mergeSort fun a b => !Text.precedes b.1 a.1

/-- The entries of a directory that are searched, in increasing order of their names. -/
def searched (es : List (String × Node)) : List (String × Node) :=
  byName (es.filter fun e => !isHidden e.1)

theorem mem_searched {es : List (String × Node)} {e : String × Node} :
    e ∈ searched es ↔ e ∈ es ∧ isHidden e.1 = false := by
  simp [searched, byName]

/-- What is searched below a directory is smaller than the directory. -/
theorem sizeOf_lt_of_mem_searched {es : List (String × Node)} {e : String × Node}
    (h : e ∈ searched es) (a : Attributes) : sizeOf e.2 < sizeOf (Node.directory es a) := by
  obtain ⟨name, n⟩ := e
  have hlt := List.sizeOf_lt_of_mem (mem_searched.mp h).1
  simp only [Prod.mk.sizeOf_spec, Node.directory.sizeOf_spec] at hlt ⊢
  omega

/-- The source files at and below a node that has the given path; `follow` gives those that
the path of a link stands for. -/
def Node.sources (follow : String → Except Failure (List String)) (path : String) :
    Node → Except Failure (List String)
  | .directory es _ => do
    let found ← (searched es).attach.mapM fun e => e.1.2.sources follow (Path.join path e.1.1)
    return found.flatten
  | .link _ _ => follow path
  | _ => .ok (if isBackup path then [] else [path])
termination_by n => sizeOf n
decreasing_by exact sizeOf_lt_of_mem_searched e.2 _

theorem Node.sources_directory (follow : String → Except Failure (List String)) (path : String)
    (es : List (String × Node)) (a : Attributes) :
    (Node.directory es a).sources follow path = do
      let found ← (searched es).mapM fun e => e.2.sources follow (Path.join path e.1)
      return found.flatten := by
  rw [sources, List.mapM_subtype (g := fun e => e.2.sources follow (Path.join path e.1))
    fun _ _ => rfl, List.unattach_attach]

namespace FileTree

/-- The source files that a path stands for, if `follow` gives those of the links below it. -/
def sourcesWith (t : FileTree) (follow : String → Except Failure (List String)) (path : String) :
    Except Failure (List String) := do
  let n ← (t.find path).mapError (.unreadable path)
  n.sources follow path

/-- The source files that a path stands for, with a number of links that may be followed one
below the other. -/
def sourcesWithin (t : FileTree) : Nat → String → Except Failure (List String)
  | 0 => t.sourcesWith fun path => .error (.unreadable path .tooManyLinks)
  | links + 1 => t.sourcesWith (t.sourcesWithin links)

/-- The source files that a path stands for. No path leads through more links than can be
followed, so after one more there is nothing to find. -/
def sources (t : FileTree) (path : String) : Except Failure (List String) :=
  t.sourcesWithin (maxLinks + 1) path

end FileTree

/-- The text of a source file. -/
def FileTree.readSource (t : FileTree) (path : String) : Except Failure String :=
  (t.readLossy path).mapError (.unreadable path)

end CompileOrder
