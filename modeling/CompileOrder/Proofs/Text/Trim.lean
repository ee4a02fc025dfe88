import CompileOrder.Proofs.Text.Case
import CompileOrder.Proofs.Token.Comments

/-!
# Words with blanks around them

Trimming cuts off blanks and nothing else, so a text that begins and ends with no blank is
found again whatever blanks were put around it. A word is such a text.
-/

namespace CompileOrder.Text

/-- A run of blanks. -/
abbrev Blanks := {cs : List Char // ∀ c ∈ cs, isBlank c = true}

/-- A run of word characters that is not empty. -/
abbrev Word := {cs : List Char // isWord cs = true}

/-- Two runs of blanks, one after the other. -/
def Blanks.append (b b' : Blanks) : Blanks :=
  ⟨b.val ++ b'.val, List.forall_mem_append.mpr ⟨b.property, b'.property⟩⟩

/-- All characters of the empty text are blanks. -/
theorem isBlank_of_mem_nil : ∀ c ∈ ([] : List Char), isBlank c = true := List.forall_mem_nil _

/-- No blanks. -/
def Blanks.none : Blanks := ⟨[], isBlank_of_mem_nil⟩

@[simp] theorem Blanks.val_none : Blanks.none.val = [] := rfl

@[simp] theorem Blanks.val_append (b b' : Blanks) : (b.append b').val = b.val ++ b'.val := rfl

theorem Blanks.not_mem (b : Blanks) {d : Char} (hd : isBlank d = false) : d ∉ b.val :=
  fun hmem => absurd (hd.symm.trans (b.property d hmem)) (by decide)

namespace Word

variable (w : Word)

theorem ne_nil : w.val ≠ [] := by
  have hword := w.property
  simp only [isWord, Bool.and_eq_true, Bool.not_eq_true', List.isEmpty_eq_false_iff] at hword
  exact hword.1

theorem isWordChar_of_mem {c : Char} (hc : c ∈ w.val) : isWordChar c = true := by
  have hword := w.property
  simp only [isWord, Bool.and_eq_true, List.all_eq_true] at hword
  exact hword.2 c hc

theorem not_mem {d : Char} (hd : isWordChar d = false) : d ∉ w.val :=
  fun hmem => absurd (hd.symm.trans (w.isWordChar_of_mem hmem)) (by decide)

/-- No character of a word is a blank. -/
theorem isBlank_of_mem {c : Char} (hc : c ∈ w.val) : isBlank c = false := by
  refine Bool.eq_false_iff.mpr fun hblank => ?_
  have hpassed : Lexer.isPassed c = true := Bool.or_eq_true_iff.mpr (Or.inl hblank)
  exact absurd ((w.isWordChar_of_mem hc).symm.trans (Lexer.isWordChar_of_isPassed hpassed))
    (by decide)

/-- The canonical name that a word spells. -/
def name : String := upper (String.ofList w.val)

end Word

/-- What is cut off at the ends of a text is blank. -/
theorem exists_blanks_trim (cs : List Char) :
    ∃ before after : Blanks, cs = before.val ++ trim cs ++ after.val := by
  refine ⟨⟨cs.takeWhile isBlank, fun c hc => List.mem_takeWhile_imp hc⟩,
    ⟨((cs.dropWhile isBlank).reverse.takeWhile isBlank).reverse, fun c hc =>
      List.mem_takeWhile_imp (List.mem_reverse.mp hc)⟩, ?_⟩
  rw [trim, List.append_assoc, ← List.reverse_append, List.takeWhile_append_dropWhile,
    List.reverse_reverse, List.takeWhile_append_dropWhile]

/-- Blanks put around a text that begins and ends with none are cut off again. -/
theorem trim_append (before after : Blanks) {cs : List Char}
    (hfirst : ∀ c ∈ cs.head?, isBlank c = false)
    (hlast : ∀ c ∈ cs.getLast?, isBlank c = false) :
    trim (before.val ++ cs ++ after.val) = cs := by
  have hstop : ∀ ds : List Char, (∀ c ∈ ds.head?, isBlank c = false) →
      ds.dropWhile isBlank = ds := by
    intro ds hds
    cases ds with
    | nil => rfl
    | cons d ds => simp [hds d rfl]
  cases cs with
  | nil =>
    have hall : ∀ c ∈ before.val ++ after.val, isBlank c = true :=
      List.forall_mem_append.mpr ⟨before.property, after.property⟩
    rw [trim, List.append_nil, List.dropWhile_eq_nil_iff.mpr hall]
    rfl
  | cons c cs =>
    have hreverse : ∀ d ∈ after.val.reverse, isBlank d = true := fun d hd =>
      after.property d (List.mem_reverse.mp hd)
    rw [trim, List.append_assoc, List.dropWhile_append_of_pos before.property,
      hstop (c :: cs ++ after.val) hfirst, List.reverse_append,
      List.dropWhile_append_of_pos hreverse, hstop (c :: cs).reverse (by rwa [List.head?_reverse]),
      List.reverse_reverse]

/-- What is left after trimming does not begin with a blank. -/
theorem isBlank_head?_trim (cs : List Char) : ∀ c ∈ (trim cs).head?, isBlank c = false := by
  intro c hc
  have hsplit : trim cs ++ ((cs.dropWhile isBlank).reverse.takeWhile isBlank).reverse =
      cs.dropWhile isBlank := by
    rw [trim, ← List.reverse_append, List.takeWhile_append_dropWhile, List.reverse_reverse]
  have hhead : (cs.dropWhile isBlank).head? = some c := by
    have hne : trim cs ≠ [] := fun h => by simp [h] at hc
    rw [← hsplit, List.head?_append_of_ne_nil _ hne]
    exact hc
  have hstop := List.head?_dropWhile_not isBlank cs
  rwa [hhead] at hstop

/-- Nor does it end with one. -/
theorem isBlank_getLast?_trim (cs : List Char) :
    ∀ c ∈ (trim cs).getLast?, isBlank c = false := by
  intro c hc
  rw [trim, List.getLast?_reverse] at hc
  have hstop := List.head?_dropWhile_not isBlank (cs.dropWhile isBlank).reverse
  rwa [Option.mem_def.mp hc] at hstop

/-- Trimming a second time cuts off nothing. -/
theorem trim_trim (cs : List Char) : trim (trim cs) = trim cs := by
  have htrim := trim_append .none .none (isBlank_head?_trim cs) (isBlank_getLast?_trim cs)
  simpa using htrim

/-- Letters are no blanks in either case, so trimming commutes with upper-casing. -/
theorem trim_map_toUpper (cs : List Char) :
    trim (cs.map Char.toUpper) = (trim cs).map Char.toUpper := by
  have hblank : isBlank ∘ Char.toUpper = isBlank := funext isBlank_toUpper
  simp only [trim, List.dropWhile_map, hblank, ← List.map_reverse]

/-- A word is found again between blanks. -/
theorem trim_word (before after : Blanks) (w : Word) :
    trim (before.val ++ w.val ++ after.val) = w.val :=
  trim_append before after (fun _ hc => w.isBlank_of_mem (List.mem_of_mem_head? hc))
    fun _ hc => w.isBlank_of_mem (List.mem_of_getLast? hc)

end CompileOrder.Text
