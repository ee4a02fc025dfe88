/-!
# Splitting and replacing

Cutting a list at separators, cutting a text into lines, and replacing every
occurrence of a pattern. All three walk the list once from the left.
-/

namespace CompileOrder.Text

/-- The stretches between the separators, one more than there are separators. -/
def splitAt {α : Type} (isSeparator : α → Bool) : List α → List (List α)
  | [] => [[]]
  | x :: xs =>
    if isSeparator x then [] :: splitAt isSeparator xs
    else match splitAt isSeparator xs with
      | [] => [[x]]
      | s :: ss => (x :: s) :: ss

/-- The stretches put together again with `separator` between them. -/
def joinWith {α : Type} (separator : List α) : List (List α) → List α
  | [] => []
  | [s] => s
  | s :: t :: rest => s ++ separator ++ joinWith separator (t :: rest)

/-- The line without a carriage return at its end. -/
def dropReturn (line : List Char) : List Char :=
  if line.getLast? = some '\r' then line.dropLast else line

/-- The lines of a text: each line feed ends one, together with a carriage return
right before it, and what follows the last line feed is a line unless it is empty. -/
def lines (text : List Char) : List (List Char) :=
  let stretches := splitAt (· == '\n') text
  let last := stretches.getLastD []
  stretches.dropLast.map dropReturn ++ (if last.isEmpty then [] else [last])

/-- Replacement that first passes over `skip` characters already replaced. -/
def replaceFrom (pattern value : List Char) : Nat → List Char → List Char
  | _, [] => []
  | skip + 1, _ :: cs => replaceFrom pattern value skip cs
  | 0, c :: cs =>
    if pattern.isPrefixOf (c :: cs) then value ++ replaceFrom pattern value (pattern.length - 1) cs
    else c :: replaceFrom pattern value 0 cs

/-- Every occurrence of the non-empty `pattern`, found from the left and without
overlap, replaced by `value`. -/
def replaceAll (pattern value text : List Char) : List Char :=
  replaceFrom pattern value 0 text

end CompileOrder.Text
