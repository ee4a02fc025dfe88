import CompileOrder.Text.Split

/-!
# Line templates

A template is a text with places for the name of a file and the name of its
library. Each place is written in braces, possibly with a number sign before them.
The four spellings are replaced one after the other over the whole text.
-/

namespace CompileOrder.Template

/-- The template that shows just the name of the file. -/
def default : String := "\x7bfile_name\x7d"

/-- The places and what each of them stands for, in the order of replacement. -/
def places (file library : String) : List (String × String) :=
  [("#\x7bfile_name\x7d", file), ("\x7bfile_name\x7d", file),
   ("#\x7blibrary_name\x7d", library), ("\x7blibrary_name\x7d", library)]

/-- The template filled in for one file. -/
def fill (template file library : String) : String :=
  String.ofList ((places file library).foldl
    (fun text place => Text.replaceAll place.1.toList place.2.toList text) template.toList)

end CompileOrder.Template
