import CompileOrder.Text.Split

/-!
# Cutting what was put together

Stretches put together with a separator between them are cut apart into the same stretches
when none of them holds a separator, and lines that were each ended by a line feed are the
lines of the text. A change of the members that keeps the separators commutes with cutting.
-/

namespace CompileOrder.Text

section
variable {α β : Type} {p : α → Bool}

/-- Cutting at separators commutes with a change that keeps the separators. -/
theorem splitAt_map {q : β → Bool} {g : α → β} (h : ∀ x, q (g x) = p x) (xs : List α) :
    splitAt q (xs.map g) = (splitAt p xs).map (List.map g) := by
  induction xs with
  | nil => rfl
  | cons x xs ih =>
    simp only [List.map_cons, splitAt, h, ih]
    cases p x with
    | true => rfl
    | false => cases splitAt p xs <;> rfl

/-- Without a separator there is one stretch. -/
theorem splitAt_eq_singleton {xs : List α} (h : ∀ x ∈ xs, p x = false) : splitAt p xs = [xs] := by
  induction xs with
  | nil => rfl
  | cons x xs ih =>
    obtain ⟨hx, hxs⟩ := List.forall_mem_cons.mp h
    simp only [splitAt, hx, ih hxs, Bool.false_eq_true, if_false]

/-- The first separator ends the first stretch. -/
theorem splitAt_append_cons {xs : List α} (h : ∀ x ∈ xs, p x = false) {separator : α}
    (hp : p separator = true) (ys : List α) :
    splitAt p (xs ++ separator :: ys) = xs :: splitAt p ys := by
  induction xs with
  | nil => simp only [List.nil_append, splitAt, hp, if_true]
  | cons x xs ih =>
    obtain ⟨hx, hxs⟩ := List.forall_mem_cons.mp h
    simp only [List.cons_append, splitAt, hx, ih hxs, Bool.false_eq_true, if_false]

/-- Either nothing is cut, or the first stretch ends at the first separator and what follows
is cut in turn. -/
theorem splitAt_cases (p : α → Bool) (xs : List α) :
    ((∀ x ∈ xs, p x = false) ∧ splitAt p xs = [xs]) ∨
      ∃ first separator rest, xs = first ++ separator :: rest ∧ (∀ x ∈ first, p x = false) ∧
        p separator = true ∧ splitAt p xs = first :: splitAt p rest := by
  induction xs with
  | nil => exact Or.inl ⟨List.forall_mem_nil _, rfl⟩
  | cons x xs ih =>
    cases hx : p x with
    | true =>
      exact Or.inr ⟨[], x, xs, rfl, List.forall_mem_nil _, hx, by simp only [splitAt, hx, if_true]⟩
    | false =>
      rcases ih with ⟨hxs, -⟩ | ⟨first, separator, rest, rfl, hfirst, hseparator, -⟩
      · have hall : ∀ y ∈ x :: xs, p y = false := List.forall_mem_cons.mpr ⟨hx, hxs⟩
        exact Or.inl ⟨hall, splitAt_eq_singleton hall⟩
      · have hall : ∀ y ∈ x :: first, p y = false := List.forall_mem_cons.mpr ⟨hx, hfirst⟩
        exact Or.inr ⟨x :: first, separator, rest, rfl, hall, hseparator,
          splitAt_append_cons hall hseparator rest⟩

/-- What stands on the two sides of a separator is cut apart on its own. -/
theorem splitAt_append_separator {separator : α} (hp : p separator = true) (xs ys : List α) :
    splitAt p (xs ++ separator :: ys) = splitAt p xs ++ splitAt p ys := by
  induction xs with
  | nil => simp only [List.nil_append, splitAt, hp, if_true, List.cons_append]
  | cons x xs ih =>
    simp only [List.cons_append, splitAt, ih]
    cases p x with
    | true => rfl
    | false =>
      rcases splitAt_cases p xs with ⟨-, h⟩ | ⟨_, _, _, -, -, -, h⟩ <;> rw [h] <;> rfl

/-- Stretches put together are cut apart again. -/
theorem splitAt_joinWith {separator : α} (hp : p separator = true) {stretches : List (List α)}
    (hne : stretches ≠ []) (h : ∀ s ∈ stretches, ∀ x ∈ s, p x = false) :
    splitAt p (joinWith [separator] stretches) = stretches := by
  induction stretches with
  | nil => exact absurd rfl hne
  | cons s stretches ih =>
    obtain ⟨hs, hrest⟩ := List.forall_mem_cons.mp h
    cases stretches with
    | nil => exact splitAt_eq_singleton hs
    | cons t rest =>
      rw [joinWith, List.append_assoc, List.singleton_append, splitAt_append_cons hs hp,
        ih (List.cons_ne_nil t rest) hrest]

/-- A member of what is put together comes from a stretch or a separator. -/
theorem mem_joinWith {separator : List α} {stretches : List (List α)} {x : α}
    (h : x ∈ joinWith separator stretches) : x ∈ separator ∨ ∃ s ∈ stretches, x ∈ s := by
  fun_induction joinWith separator stretches with
  | case1 => cases h
  | case2 s => exact Or.inr ⟨s, List.mem_singleton_self s, h⟩
  | case3 s t rest ih =>
    rcases List.mem_append.mp h with h | h
    · rcases List.mem_append.mp h with h | h
      · exact Or.inr ⟨s, List.mem_cons_self, h⟩
      · exact Or.inl h
    · exact (ih h).imp_right fun ⟨r, hr, hx⟩ => ⟨r, List.mem_cons_of_mem s hr, hx⟩

end

/-- Each of the lines, ended by a line feed, is a line of the text. -/
theorem lines_flatMap {ls : List (List Char)} (h : ∀ l ∈ ls, '\n' ∉ l) :
    lines (ls.flatMap fun l => l ++ ['\n']) = ls.map dropReturn := by
  have hsplit : splitAt (· == '\n') (ls.flatMap fun l => l ++ ['\n']) = ls ++ [[]] := by
    induction ls with
    | nil => rfl
    | cons l ls ih =>
      obtain ⟨hl, hls⟩ := List.forall_mem_cons.mp h
      have hfeed : ∀ c ∈ l, (c == '\n') = false := fun c hc =>
        beq_eq_false_iff_ne.mpr fun heq => hl (heq ▸ hc)
      rw [List.flatMap_cons, List.append_assoc, List.singleton_append,
        splitAt_append_cons hfeed (by rfl), ih hls, List.cons_append]
  simp only [lines, hsplit, List.getLastD_concat, List.dropLast_concat, List.isEmpty_nil, if_true,
    List.append_nil]

/-- Cutting a text into lines commutes with a change of characters that keeps line ends. -/
theorem lines_map {g : Char → Char} (hfeed : ∀ c, g c = '\n' ↔ c = '\n')
    (hreturn : ∀ c, g c = '\r' ↔ c = '\r') (text : List Char) :
    lines (text.map g) = (lines text).map (List.map g) := by
  have hdrop : ∀ line : List Char, dropReturn (line.map g) = (dropReturn line).map g := by
    intro line
    have hlast : (line.map g).getLast? = some '\r' ↔ line.getLast? = some '\r' := by
      cases hline : line.getLast? <;> simp [List.getLast?_map, hline, hreturn]
    simp only [dropReturn, hlast]
    split
    · exact List.map_dropLast.symm
    · rfl
  have hsplit : splitAt (· == '\n') (text.map g) = (splitAt (· == '\n') text).map (List.map g) :=
    splitAt_map (fun c => by rw [Bool.eq_iff_iff, beq_iff_eq, beq_iff_eq, hfeed]) text
  have hend : ((splitAt (· == '\n') text).map (List.map g)).getLastD [] =
      ((splitAt (· == '\n') text).getLastD []).map g := by
    rw [List.getLastD_eq_getLast?, List.getLastD_eq_getLast?, List.getLast?_map]
    cases (splitAt (· == '\n') text).getLast? <;> rfl
  simp only [lines, hsplit, hend, List.isEmpty_map, ← List.map_dropLast, List.map_map,
    Function.comp_def, hdrop, List.map_append]
  congr 1
  split <;> rfl

end CompileOrder.Text
