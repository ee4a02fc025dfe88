import CompileOrder.FileTree
import CompileOrder.Project.Decode

/-!
# Loading a configuration file

The file has to be UTF-8. Its relative paths are taken as relative to the directory
that holds it.
-/

namespace CompileOrder

/-- The project that a configuration file describes. -/
def FileTree.loadProject (t : FileTree) (path : String) : Except Failure Project := do
  let text ← (t.readStrict path).mapError (.unreadableConfig path)
  let p ← Project.parse text
  return p.rebase ((Path.parent? path).getD ".")

end CompileOrder
