import CompileOrder.Failure
import CompileOrder.Proofs.Text.Split
import CompileOrder.Proofs.Text.Trim
import Mathlib.Data.List.Basic

/-!
# The grammar of requests

A request is written as a word for the entity, with a word and a point before it for the
library and a word in parentheses behind it for the architecture, each of these two or
neither, and with blanks around every part. Reading accepts exactly what is so written: the
point and the parentheses are no characters of a word, so they are found where they were put,
and whatever else stands between them is no word.
-/

namespace CompileOrder.Request

open Text

/-- `library .`, with blanks behind the word and behind the point. -/
structure LibraryPart where
  /-- The library. -/
  library : Word
  /-- The blanks before the point. -/
  before : Blanks
  /-- The blanks behind the point. -/
  after : Blanks

/-- `( architecture )`, with blanks before the parentheses and inside. -/
structure ArchitecturePart where
  /-- The blanks before the opening parenthesis. -/
  outside : Blanks
  /-- The blanks behind it. -/
  before : Blanks
  /-- The architecture. -/
  architecture : Word
  /-- The blanks before the closing parenthesis. -/
  after : Blanks

/-- A request as it is written. -/
structure Spelling where
  /-- The blanks at the beginning. -/
  before : Blanks
  /-- The library, if one is named. -/
  library : Option LibraryPart
  /-- The entity. -/
  entity : Word
  /-- The architecture, if one is named. -/
  architecture : Option ArchitecturePart
  /-- The blanks at the end. -/
  after : Blanks

/-- The characters of the library part. -/
def LibraryPart.chars (l : LibraryPart) : List Char :=
  l.library.val ++ l.before.val ++ '.' :: l.after.val

/-- The characters in parentheses. -/
def ArchitecturePart.inner (a : ArchitecturePart) : List Char :=
  a.before.val ++ a.architecture.val ++ a.after.val

/-- The characters of the architecture part from its parenthesis on. -/
def ArchitecturePart.enclosed (a : ArchitecturePart) : List Char := '(' :: (a.inner ++ [')'])

/-- The library and the entity as they are written. -/
def pathChars (library : Option LibraryPart) (entity : Word) : List Char :=
  library.elim [] LibraryPart.chars ++ entity.val

namespace Spelling

/-- The blanks between the entity and the parentheses. -/
def gap (s : Spelling) : Blanks := s.architecture.elim ⟨[], by simp⟩ (·.outside)

/-- The characters from the parentheses on. -/
def enclosed (s : Spelling) : List Char := s.architecture.elim [] (·.enclosed)

/-- The characters between the blanks at the two ends. -/
def core (s : Spelling) : List Char :=
  pathChars s.library s.entity ++ s.gap.val ++ s.enclosed

/-- The text of the request. -/
def text (s : Spelling) : String :=
  String.ofList (s.before.val ++ s.core ++ s.after.val)

/-- A library is named, or the one that stands in for it is a word. -/
def HasLibrary (s : Spelling) (fallback : String) : Prop :=
  s.library = none → isWord fallback.toList = true

/-- The request that is meant, in a library that stands in for one that is not named. -/
def request (s : Spelling) (fallback : String) : Request where
  library := s.library.elim (upper fallback) (·.library.name)
  entity := s.entity.name
  architecture := s.architecture.map (·.architecture.name)

end Spelling

/-- A word between blanks is read. -/
theorem word?_between (before : Blanks) (w : Word) (after : Blanks) :
    word? (before.val ++ w.val ++ after.val) = some w.name := by
  simp only [word?, trim_word, w.property, if_true, Word.name]

/-- A part is read only if it is a word between blanks. -/
theorem word?_eq_some_iff {part : List Char} {name : String} :
    word? part = some name ↔ ∃ (before : Blanks) (w : Word) (after : Blanks),
      part = before.val ++ w.val ++ after.val ∧ name = w.name := by
  constructor
  · intro h
    simp only [word?, Option.ite_none_right_eq_some, Option.some.injEq] at h
    obtain ⟨hword, rfl⟩ := h
    obtain ⟨before, after, hpart⟩ := exists_blanks_trim part
    exact ⟨before, ⟨trim part, hword⟩, after, hpart, rfl⟩
  · rintro ⟨before, w, after, rfl, rfl⟩
    exact word?_between before w after

/-- What stands before the parentheses is read if it is a word between blanks, or two with a
point between them. -/
theorem path?_eq_some_iff {fallback : String} {path : List Char} {library entity : String} :
    path? fallback path = some (library, entity) ↔
      ∃ (before : Blanks) (l : Option LibraryPart) (e : Word) (after : Blanks),
        path = before.val ++ pathChars l e ++ after.val ∧
          (l = none → isWord fallback.toList = true) ∧
          library = l.elim (upper fallback) (·.library.name) ∧ entity = e.name := by
  have hblanks : ∀ b : Blanks, ∀ c ∈ b.val, (c == '.') = false := fun b c hc =>
    beq_eq_false_iff_ne.mpr fun h => b.not_mem (d := '.') (by decide) (h ▸ hc)
  have hword : ∀ w : Word, ∀ c ∈ w.val, (c == '.') = false := fun w c hc =>
    beq_eq_false_iff_ne.mpr fun h => w.not_mem (d := '.') (by decide) (h ▸ hc)
  have hpart : ∀ (b : Blanks) (w : Word) (b' : Blanks), ∀ c ∈ b.val ++ w.val ++ b'.val,
      (c == '.') = false := fun b w b' =>
    List.forall_mem_append.mpr ⟨List.forall_mem_append.mpr ⟨hblanks b, hword w⟩, hblanks b'⟩
  constructor
  · intro h
    rcases splitAt_cases (· == '.') path with
      ⟨-, hsplit⟩ | ⟨first, point, rest, rfl, -, hpoint, hsplit⟩
    · simp only [path?, hsplit, Option.bind_eq_bind, Option.bind_eq_some_iff, word?_eq_some_iff,
        Option.ite_none_right_eq_some, Option.some.injEq, Prod.mk.injEq] at h
      obtain ⟨_, ⟨before, w, after, rfl, rfl⟩, hfallback, rfl, rfl⟩ := h
      exact ⟨before, none, w, after, rfl, fun _ => hfallback, rfl, rfl⟩
    · obtain rfl := beq_iff_eq.mp hpoint
      rcases splitAt_cases (· == '.') rest with ⟨-, hsplit'⟩ | ⟨second, _, last, -, -, -, hsplit'⟩
      · simp only [path?, hsplit, hsplit', Option.bind_eq_bind, Option.bind_eq_some_iff,
          word?_eq_some_iff, Option.pure_def, Option.some.injEq, Prod.mk.injEq] at h
        obtain ⟨_, ⟨before, w, before', rfl, rfl⟩, _, ⟨after', w', after, rfl, rfl⟩, rfl, rfl⟩ := h
        refine ⟨before, some ⟨w, before', after'⟩, w', after, ?_, nofun, rfl, rfl⟩
        simp [pathChars, LibraryPart.chars]
      · rw [path?, hsplit, hsplit'] at h
        rcases splitAt_cases (· == '.') last with ⟨-, hlast⟩ | ⟨_, _, _, -, -, -, hlast⟩ <;>
          simp [hlast] at h
  · rintro ⟨before, l, e, after, rfl, hfallback, rfl, rfl⟩
    cases l with
    | none =>
      have hpath : before.val ++ pathChars none e ++ after.val =
          before.val ++ e.val ++ after.val := rfl
      rw [path?, hpath, splitAt_eq_singleton (hpart before e after)]
      simp only [word?_between, hfallback rfl, if_true, Option.bind_eq_bind, Option.bind_some,
        Option.elim]
    | some l =>
      have hpath : before.val ++ pathChars (some l) e ++ after.val =
          (before.val ++ l.library.val ++ l.before.val) ++ '.' ::
            (l.after.val ++ e.val ++ after.val) := by
        simp [pathChars, LibraryPart.chars]
      rw [path?, hpath, splitAt_append_cons (hpart before l.library l.before) (by rfl),
        splitAt_eq_singleton (hpart l.after e after)]
      simp only [word?_between, Option.bind_eq_bind, Option.bind_some, Option.pure_def,
        Option.elim]

/-- Behind a parenthesis a word between blanks is read, if a parenthesis ends the text. -/
theorem selector?_cons_eq_some_iff {c : Char} {inner : List Char} {choice : Option String} :
    selector? (c :: inner) = some choice ↔
      ∃ (before : Blanks) (w : Word) (after : Blanks),
        inner = before.val ++ w.val ++ after.val ++ [')'] ∧ choice = some w.name := by
  simp only [selector?, Option.ite_none_right_eq_some, Option.map_eq_some_iff, word?_eq_some_iff]
  constructor
  · rintro ⟨hlast, _, ⟨before, w, after, hinner, rfl⟩, rfl⟩
    obtain ⟨cs, rfl⟩ := List.getLast?_eq_some_iff.mp hlast
    rw [List.dropLast_concat] at hinner
    exact ⟨before, w, after, by rw [hinner], rfl⟩
  · rintro ⟨before, w, after, rfl, rfl⟩
    exact ⟨List.getLast?_concat, _, ⟨before, w, after, List.dropLast_concat, rfl⟩, rfl⟩

namespace Spelling

variable (s : Spelling)

/-- A request begins with a word. -/
theorem exists_core_eq_word_append : ∃ (w : Word) (rest : List Char), s.core = w.val ++ rest := by
  cases hlibrary : s.library with
  | none => exact ⟨s.entity, s.gap.val ++ s.enclosed, by simp [core, pathChars, hlibrary]⟩
  | some l =>
    exact ⟨l.library, l.before.val ++ '.' :: l.after.val ++ s.entity.val ++ s.gap.val ++ s.enclosed,
      by simp [core, pathChars, LibraryPart.chars, hlibrary]⟩

/-- It ends with the word for the entity or with a parenthesis. -/
theorem exists_core_eq_append : ∃ start last : List Char, s.core = start ++ last ∧ last ≠ [] ∧
    ∀ c ∈ last, isBlank c = false := by
  cases harchitecture : s.architecture with
  | none =>
    refine ⟨s.library.elim [] LibraryPart.chars, s.entity.val, ?_, s.entity.ne_nil, fun _ hc =>
      s.entity.isBlank_of_mem hc⟩
    simp [core, pathChars, gap, enclosed, harchitecture]
  | some a =>
    refine ⟨pathChars s.library s.entity ++ a.outside.val ++ '(' :: a.inner, [')'], ?_, by simp,
      List.forall_mem_singleton.mpr (by decide)⟩
    simp [core, gap, enclosed, ArchitecturePart.enclosed, harchitecture]

/-- What is trimmed off a request is the blanks at its ends. -/
theorem trim_text : trim s.text.toList = s.core := by
  rw [text, String.toList_ofList]
  refine trim_append s.before s.after (fun c hc => ?_) fun c hc => ?_
  · obtain ⟨w, rest, hcore⟩ := s.exists_core_eq_word_append
    rw [hcore, List.head?_append_of_ne_nil _ w.ne_nil] at hc
    exact w.isBlank_of_mem (List.mem_of_mem_head? hc)
  · obtain ⟨start, last, hcore, hne, hlast⟩ := s.exists_core_eq_append
    rw [hcore, List.getLast?_append_of_ne_nil _ hne] at hc
    exact hlast c (List.mem_of_getLast? hc)

/-- The first parenthesis of a request is the one before its architecture. -/
theorem split_core :
    s.core.takeWhile (· != '(') = pathChars s.library s.entity ++ s.gap.val ∧
      s.core.dropWhile (· != '(') = s.enclosed := by
  have hblanks : ∀ b : Blanks, ∀ c ∈ b.val, (c != '(') = true := fun b c hc =>
    bne_iff_ne.mpr fun h => b.not_mem (d := '(') (by decide) (h ▸ hc)
  have hword : ∀ w : Word, ∀ c ∈ w.val, (c != '(') = true := fun w c hc =>
    bne_iff_ne.mpr fun h => w.not_mem (d := '(') (by decide) (h ▸ hc)
  have hpath : ∀ c ∈ pathChars s.library s.entity ++ s.gap.val, (c != '(') = true := by
    refine List.forall_mem_append.mpr ⟨List.forall_mem_append.mpr ⟨?_, hword s.entity⟩,
      hblanks s.gap⟩
    cases s.library with
    | none => exact List.forall_mem_nil _
    | some l =>
      exact List.forall_mem_append.mpr ⟨List.forall_mem_append.mpr ⟨hword l.library,
        hblanks l.before⟩, List.forall_mem_cons.mpr ⟨by decide, hblanks l.after⟩⟩
  rw [core, List.takeWhile_append_of_pos hpath, List.dropWhile_append_of_pos hpath]
  cases harchitecture : s.architecture with
  | none => simp [enclosed, harchitecture]
  | some a => simp [enclosed, harchitecture, ArchitecturePart.enclosed]

theorem selector?_enclosed :
    selector? s.enclosed = some (s.architecture.map (·.architecture.name)) := by
  cases harchitecture : s.architecture with
  | none => simp [enclosed, harchitecture, selector?]
  | some a =>
    simp only [enclosed, harchitecture, Option.elim, ArchitecturePart.enclosed]
    exact selector?_cons_eq_some_iff.mpr ⟨a.before, a.architecture, a.after, rfl, rfl⟩

end Spelling

/-- A text is read as a request if it is written as one. -/
theorem parse?_eq_some_iff {text fallback : String} {r : Request} :
    parse? text fallback = some r ↔
      ∃ s : Spelling, s.text = text ∧ s.HasLibrary fallback ∧ r = s.request fallback := by
  constructor
  · intro h
    simp only [parse?, Option.bind_eq_bind, Option.bind_eq_some_iff, Option.pure_def,
      Option.some.injEq, Prod.exists] at h
    obtain ⟨choice, hchoice, library, entity, hpath, rfl⟩ := h
    obtain ⟨before, after, htext⟩ := exists_blanks_trim text.toList
    obtain ⟨b, l, e, a, hchars, hlibrary, rfl, rfl⟩ := path?_eq_some_iff.mp hpath
    have hsplit := List.takeWhile_append_dropWhile (p := (· != '(')) (l := trim text.toList)
    rw [hchars] at hsplit
    cases hrest : (trim text.toList).dropWhile (· != '(') with
    | nil =>
      rw [hrest] at hchoice hsplit
      obtain rfl : none = choice := by simpa [selector?] using hchoice
      refine ⟨⟨before.append b, l, e, none, a.append after⟩, ?_, hlibrary, rfl⟩
      rw [Spelling.text, ← String.ofList_toList (s := text), htext, ← hsplit]
      simp [Spelling.core, Spelling.gap, Spelling.enclosed]
    | cons c inner =>
      have hopen := List.head?_dropWhile_not (· != '(') (trim text.toList)
      rw [hrest] at hchoice hsplit hopen
      obtain rfl : c = '(' := by simpa using hopen
      obtain ⟨b', w, a', rfl, rfl⟩ := selector?_cons_eq_some_iff.mp hchoice
      refine ⟨⟨before.append b, l, e, some ⟨a, b', w, a'⟩, after⟩, ?_, hlibrary, rfl⟩
      rw [Spelling.text, ← String.ofList_toList (s := text), htext, ← hsplit]
      simp [Spelling.core, Spelling.gap, Spelling.enclosed, ArchitecturePart.enclosed,
        ArchitecturePart.inner]
  · rintro ⟨s, rfl, hlibrary, rfl⟩
    have hpath : path? fallback (pathChars s.library s.entity ++ s.gap.val) =
        some (s.library.elim (upper fallback) (·.library.name), s.entity.name) :=
      path?_eq_some_iff.mpr ⟨⟨[], List.forall_mem_nil _⟩, s.library, s.entity, s.gap, rfl,
        hlibrary, rfl, rfl⟩
    simp only [parse?, s.trim_text, s.split_core, s.selector?_enclosed, hpath,
      Option.bind_eq_bind, Option.bind_some, Option.pure_def, Spelling.request]

/-- A text is read as a request exactly if it is written as one, its library named or the one
that stands in for it a word; it is then read as the request that is meant. Any other text is
a malformed request, which is a failure of the binding kind. -/
theorem parse_exact (text fallback : String) :
    (∀ r, parse text fallback = .ok r ↔
        ∃ s : Spelling, s.text = text ∧ s.HasLibrary fallback ∧ r = s.request fallback) ∧
      ∀ f, parse text fallback = .error f ↔ f = .malformedRequest text ∧ f.kind = .binding ∧
        ¬ ∃ s : Spelling, s.text = text ∧ s.HasLibrary fallback := by
  cases hread : parse? text fallback with
  | none =>
    have hnone : ∀ s : Spelling, s.text = text → ¬ s.HasLibrary fallback := by
      intro s htext hlibrary
      have hsome := parse?_eq_some_iff.mpr ⟨s, htext, hlibrary, rfl⟩
      rw [hread] at hsome
      cases hsome
    have hparse : parse text fallback = .error (.malformedRequest text) := by rw [parse, hread]
    rw [hparse]
    refine ⟨fun r => iff_of_false nofun ?_, fun f => ⟨?_, ?_⟩⟩
    · rintro ⟨s, htext, hlibrary, -⟩
      exact hnone s htext hlibrary
    · rintro ⟨⟩
      exact ⟨rfl, rfl, fun ⟨s, htext, hlibrary⟩ => hnone s htext hlibrary⟩
    · rintro ⟨rfl, -⟩
      rfl
  | some r =>
    obtain ⟨s, htext, hlibrary, rfl⟩ := parse?_eq_some_iff.mp hread
    have hparse : parse text fallback = .ok (s.request fallback) := by rw [parse, hread]
    rw [hparse]
    refine ⟨fun r' => ?_, fun f => iff_of_false nofun fun h => h.2.2 ⟨s, htext, hlibrary⟩⟩
    rw [← parse?_eq_some_iff, hread, Except.ok.injEq, Option.some.injEq]

example : parse " work\t. top ( rtl ) " "lib" = .ok ⟨"WORK", "TOP", some "RTL"⟩ := rfl

end CompileOrder.Request
