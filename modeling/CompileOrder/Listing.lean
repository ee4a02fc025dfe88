import CompileOrder.DesignUnit

/-!
# Listing units as text

One line per unit with the lines it spans, then an indented line for its library
clauses, one for each name it uses and one for each of its instances.
-/

namespace CompileOrder.Listing

/-- The lines of one unit. -/
def unitLines (u : DesignUnit) : List String :=
  let span := u.file ++ ":" ++ toString u.beginLine ++ "-" ++ toString u.endLine
  let libraries :=
    if u.libraries.isEmpty then [] else ["    library " ++ ", ".intercalate u.libraries]
  let uses := u.uses.entries.flatMap fun entry =>
    (if entry.2.isEmpty then ["all"] else entry.2).map fun n => "    use " ++ entry.1 ++ "." ++ n
  [u.display ++ "  " ++ span] ++ libraries ++ uses ++
    u.instances.map fun i => "    " ++ i.display

/-- The listing of some units, each line ended by a line feed. -/
def text (units : List DesignUnit) : String :=
  String.join ((units.flatMap unitLines).map fun line => line ++ "\n")

end CompileOrder.Listing
