import CompileOrder.Proofs.Request.Grammar

/-!
# Requests as they are shown

A request that was read consists of words in upper case, also where its library is the one
that stood in for none. It is shown with its library before the point, so what is shown spells
the request itself, without blanks. Upper case keeps a word a word and changes nothing a second
time; so the same request is read again, and what stands in for a library is not asked for.
-/

namespace CompileOrder

namespace Text

/-- A word is a word in upper case as well. -/
theorem isWord_map_toUpper {cs : List Char} (h : isWord cs = true) :
    isWord (cs.map Char.toUpper) = true := by
  rw [isWord, Bool.and_eq_true] at h ⊢
  obtain ⟨hne, hchars⟩ := h
  refine ⟨by simpa using hne, ?_⟩
  rw [List.all_map, List.all_eq_true]
  intro c hc
  rw [Function.comp_apply, isWordChar_toUpper]
  exact List.all_eq_true.mp hchars c hc

namespace Word

variable (w : Word)

/-- The word in upper case. -/
def upperCase : Word := ⟨w.val.map Char.toUpper, isWord_map_toUpper w.property⟩

theorem toList_name : w.name.toList = w.upperCase.val := by
  rw [name, toList_upper, String.toList_ofList]
  rfl

/-- The name that a word spells is spelled by the name itself. -/
theorem name_upperCase : w.upperCase.name = w.name := by
  have hchars : String.ofList w.upperCase.val = w.name := by
    rw [← w.toList_name, String.ofList_toList]
  rw [name, hchars, name, upper_upper]

end Word

end Text

namespace Request

open Text

/-- The request whose names are spelled by words. -/
def ofWords (library entity : Word) (architecture : Option Word) : Request where
  library := library.name
  entity := entity.name
  architecture := architecture.map Word.name

/-- Names of a request that is read are spelled by words, that of the library too: where none
is named, the one that stands in for it had to be a word. -/
theorem exists_words_of_parse? {text fallback : String} {r : Request}
    (h : parse? text fallback = some r) :
    ∃ library entity architecture, r = ofWords library entity architecture := by
  obtain ⟨s, -, hlibrary, rfl⟩ := parse?_eq_some_iff.mp h
  cases hnamed : s.library with
  | none =>
    have hword : isWord fallback.toList = true := hlibrary hnamed
    refine ⟨⟨fallback.toList, hword⟩, s.entity, s.architecture.map (·.architecture), ?_⟩
    simp [Spelling.request, ofWords, hnamed, Word.name, Function.comp_def]
  | some l =>
    refine ⟨l.library, s.entity, s.architecture.map (·.architecture), ?_⟩
    simp [Spelling.request, ofWords, hnamed, Function.comp_def]

/-- The spelling in which a request is shown: its library named, all words in upper case, and
no blanks. -/
def shown (library entity : Word) (architecture : Option Word) : Spelling where
  before := .none
  library := some ⟨library.upperCase, .none, .none⟩
  entity := entity.upperCase
  architecture := architecture.map fun a => ⟨.none, .none, a.upperCase, .none⟩
  after := .none

section

variable (library entity : Word) (architecture : Option Word)

theorem text_shown :
    (shown library entity architecture).text = (ofWords library entity architecture).display := by
  apply String.toList_injective
  cases architecture with
  | none =>
    simp [shown, Spelling.text, Spelling.core, Spelling.gap, Spelling.enclosed, pathChars,
      LibraryPart.chars, display, ofWords, optionalPart, Word.toList_name]
  | some a =>
    simp [shown, Spelling.text, Spelling.core, Spelling.gap, Spelling.enclosed, pathChars,
      LibraryPart.chars, ArchitecturePart.enclosed, ArchitecturePart.inner, display, ofWords,
      optionalPart, Word.toList_name]

/-- What is shown means the request, whatever stands in for a library. -/
theorem request_shown (fallback : String) :
    (shown library entity architecture).request fallback =
      ofWords library entity architecture := by
  cases architecture <;> simp [shown, Spelling.request, ofWords, Word.name_upperCase]

theorem parse?_display_ofWords (fallback : String) :
    parse? (ofWords library entity architecture).display fallback =
      some (ofWords library entity architecture) := by
  apply parse?_eq_some_iff.mpr
  refine ⟨shown library entity architecture, text_shown library entity architecture, ?_, ?_⟩
  · intro hnone
    cases hnone
  · exact (request_shown library entity architecture fallback).symm

end

/-- A request that was read, from whatever text and with whatever library to stand in for one
that is not named, is read again from what is shown of it, with any other library to stand in
and even with a text that is no word. -/
theorem parse_display {text fallback : String} {r : Request} (h : parse text fallback = .ok r)
    (other : String) : parse r.display other = .ok r := by
  have hread : parse? text fallback = some r := by
    rw [parse] at h
    split at h
    · rename_i r' hr'
      rw [hr', Except.ok.inj h]
    · cases h
  obtain ⟨library, entity, architecture, rfl⟩ := exists_words_of_parse? hread
  rw [parse, parse?_display_ofWords]

/-- The library that stood in is named in what is shown, and `ß` stays as it is. -/
theorem parse_display_top :
    parse " top ( groß )" "lib_1" = .ok ⟨"LIB_1", "TOP", some "GROß"⟩ ∧
      parse "LIB_1.TOP(GROß)" "no word" = .ok ⟨"LIB_1", "TOP", some "GROß"⟩ := by
  have hread : parse " top ( groß )" "lib_1" = .ok ⟨"LIB_1", "TOP", some "GROß"⟩ := by
    decide +kernel
  have hshown : (⟨"LIB_1", "TOP", some "GROß"⟩ : Request).display = "LIB_1.TOP(GROß)" := by
    decide
  exact ⟨hread, hshown ▸ parse_display hread "no word"⟩

end Request

end CompileOrder
