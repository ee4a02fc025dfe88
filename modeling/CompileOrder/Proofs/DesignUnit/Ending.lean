import CompileOrder.DesignUnit.Extractor
import Mathlib.Data.List.Forall2

/-!
# The forms of an end

A unit is closed by `end`, some words and a semicolon. Which words these may be is a table:
the reserved words of the kind, the closing name, both, and for entities and packages
neither. The tokens collected for a unit count as closed exactly when their last ones have
such a form; only the last five need to be looked at, as no form has more than three words.
-/

namespace CompileOrder

/-- A word between `end` and the semicolon. -/
inductive EndPart where
  /-- A reserved word. -/
  | word (k : Keyword)
  /-- The name that closes the unit. -/
  | name
  deriving DecidableEq, Repr

/-- The words that may stand between `end` and the semicolon. -/
def UnitKind.endForms : UnitKind → List (List EndPart)
  | .entity => [[], [.name], [.word .ENTITY], [.word .ENTITY, .name]]
  | .architecture _ _ => [[.name], [.word .ARCHITECTURE], [.word .ARCHITECTURE, .name]]
  | .package => [[], [.name], [.word .PACKAGE], [.word .PACKAGE, .name]]
  | .packageBody =>
    [[.name], [.word .PACKAGE, .word .BODY], [.word .PACKAGE, .word .BODY, .name]]

/-- The name that closes what a header opens: an architecture's own, else the unit's. -/
def Header.closingName (h : Header) : String :=
  match h.kind with
  | .architecture a _ => a
  | .entity | .package | .packageBody => h.name

/-- The token is this word of an end; names are compared in upper case. -/
def EndPart.Fits (closing : String) : EndPart → Token → Prop
  | .word k, t => t.symbol = .keyword k
  | .name, t => t.symbol = .identifier ∧ t.name = closing

/-- The words are one of the forms that close what a header opens. -/
def Header.AcceptsEnd (h : Header) (words : List Token) : Prop :=
  ∃ form ∈ h.kind.endForms, List.Forall₂ (EndPart.Fits h.closingName) form words

/-- The tokens end in `end`, an accepted form and a semicolon. -/
def Header.EndsIn (h : Header) (tokens : List Token) : Prop :=
  ∃ start e words semicolon, tokens = start ++ e :: (words ++ [semicolon]) ∧
    e.symbol = .keyword .END ∧ h.AcceptsEnd words ∧ semicolon.symbol = .delimiter ';'

/-- The header that opened a unit. -/
def OpenUnit.header (o : OpenUnit) : Header := ⟨o.unit.kind, o.unit.name, o.instantiates⟩

namespace OpenUnit

/-- An end begins with some reserved words and goes on with other parts. -/
theorem forall₂_fits_append (closing : String) (ks : List Keyword) (parts : List EndPart)
    (words : List Token) :
    List.Forall₂ (EndPart.Fits closing) (ks.map .word ++ parts) words ↔
      startsWith ks words = true ∧
        List.Forall₂ (EndPart.Fits closing) parts (words.drop ks.length) := by
  induction ks generalizing words with
  | nil => simp [startsWith]
  | cons k ks ih =>
    cases words with
    | nil => simp [startsWith]
    | cons t words => simp [startsWith, ih, EndPart.Fits, Token.isKeyword, and_assoc]

variable (o : OpenUnit)

theorem closingName_header : o.header.closingName = o.unit.closingName := by
  simp only [header, Header.closingName, DesignUnit.closingName, DesignUnit.architecture?]
  split <;> simp_all

theorem isClosingName_iff (words : List Token) :
    o.isClosingName words = true ↔
      List.Forall₂ (EndPart.Fits o.unit.closingName) [.name] words := by
  match words with
  | [] | _ :: _ :: _ => simp [isClosingName]
  | [t] => simp [isClosingName, EndPart.Fits, Token.isIdentifier]

/-- The forms of a kind: none at all where a bare end is accepted, the name, the reserved
words, and these with the name. -/
theorem mem_endForms (form : List EndPart) :
    form ∈ o.unit.kind.endForms ↔ (form = [] ∧ o.unit.definesName = true) ∨ form = [.name] ∨
      form = o.unit.kind.closingWords.map .word ∨
      form = o.unit.kind.closingWords.map .word ++ [.name] := by
  cases hkind : o.unit.kind <;>
    simp [UnitKind.endForms, UnitKind.closingWords, DesignUnit.definesName, hkind]

/-- The words after `end` are accepted when they have one of the forms. -/
theorem acceptsEnd_iff (words : List Token) :
    o.acceptsEnd words = true ↔ o.header.AcceptsEnd words := by
  have hbare := forall₂_fits_append o.unit.closingName o.unit.kind.closingWords [] words
  have hnamed := forall₂_fits_append o.unit.closingName o.unit.kind.closingWords [.name] words
  rw [List.append_nil, List.forall₂_nil_left_iff] at hbare
  rw [← isClosingName_iff] at hnamed
  have hkind : o.header.kind = o.unit.kind := rfl
  simp only [Header.AcceptsEnd, closingName_header, hkind, mem_endForms, or_and_right, exists_or,
    and_assoc, exists_eq_left, hbare, hnamed, ← isClosingName_iff, List.forall₂_nil_left_iff]
  simp only [acceptsEnd, Bool.or_eq_true, Bool.and_eq_true, List.isEmpty_iff]
  tauto

/-- Somewhere in the tokens an end begins whose words are accepted. -/
theorem hasEnd_iff (ts : List Token) :
    o.hasEnd ts = true ↔ ∃ start e words, ts = start ++ e :: words ∧
      e.symbol = .keyword .END ∧ o.header.AcceptsEnd words := by
  induction ts with
  | nil => simp [hasEnd]
  | cons t ts ih =>
    simp only [hasEnd, Bool.or_eq_true, Bool.and_eq_true, acceptsEnd_iff, ih]
    constructor
    · rintro (⟨ht, hwords⟩ | ⟨start, e, words, rfl, he, hwords⟩)
      · exact ⟨[], t, ts, rfl, beq_iff_eq.mp ht, hwords⟩
      · exact ⟨t :: start, e, words, rfl, he, hwords⟩
    · rintro ⟨start, e, words, hts, he, hwords⟩
      cases start with
      | nil =>
        obtain ⟨rfl, rfl⟩ := List.cons.inj hts
        exact Or.inl ⟨beq_iff_eq.mpr he, hwords⟩
      | cons s start =>
        obtain ⟨rfl, rfl⟩ := List.cons.inj hts
        exact Or.inr ⟨start, e, words, rfl, he, hwords⟩

end OpenUnit

/-- No form is longer than the window that is searched for it. -/
theorem Header.AcceptsEnd.length_lt {h : Header} {words : List Token} (hw : h.AcceptsEnd words) :
    words.length < OpenUnit.longestEnd := by
  obtain ⟨form, hform, hfits⟩ := hw
  rw [← hfits.length_eq]
  have hforms : ∀ f ∈ h.kind.endForms, f.length < OpenUnit.longestEnd := by
    cases h.kind <;> simp [UnitKind.endForms, OpenUnit.longestEnd]
  exact hforms form hform

/-- A unit whose tokens begin with its header is closed exactly when they end in one of the
forms; a package made by instantiation is not meant. -/
theorem OpenUnit.isClosed_iff {o : OpenUnit} (ho : o.instantiates = false) :
    o.isClosed = true ↔ o.header.EndsIn o.tokens := by
  rcases List.eq_nil_or_concat o.tokens with hnil | ⟨before, last, hlast⟩
  · simp [isClosed, Header.EndsIn, hnil]
  · rw [List.concat_eq_append] at hlast
    simp only [isClosed, hlast, List.getLast?_append, List.getLast?_singleton, Option.some_or,
      List.dropLast_concat, ho, Bool.false_or, Bool.and_eq_true, hasEnd_iff]
    constructor
    · rintro ⟨hsemicolon, start, e, words, hwindow, he, hwords⟩
      refine ⟨before.take (before.length - longestEnd) ++ start, e, words, last, ?_, he, hwords,
        beq_iff_eq.mp hsemicolon⟩
      calc before ++ [last]
          = (before.take (before.length - longestEnd) ++
              before.drop (before.length - longestEnd)) ++ [last] := by
            rw [List.take_append_drop]
        _ = _ := by simp [hwindow]
    · rintro ⟨start, e, words, semicolon, htokens, he, hwords, hsemicolon⟩
      have htokens' : before ++ [last] = (start ++ e :: words) ++ [semicolon] := by
        simpa using htokens
      obtain ⟨hbefore, hlast'⟩ := List.append_inj' htokens' rfl
      obtain rfl : last = semicolon := by simpa using hlast'
      have hlength := hwords.length_lt
      refine ⟨beq_iff_eq.mpr hsemicolon, start.drop (before.length - longestEnd), e, words, ?_, he,
        hwords⟩
      have hwindow : before.length - longestEnd ≤ start.length := by
        simp only [hbefore, List.length_append, List.length_cons]
        omega
      rw [hbefore, List.drop_append_of_le_length (hbefore ▸ hwindow)]

/-- Whether tokens end what a header opens is computed as for an open unit with these tokens. -/
instance (h : Header) : DecidablePred h.EndsIn := fun tokens =>
  decidable_of_iff
    ((⟨.declare h.kind h.name "" "" 0 [] [], false, tokens⟩ : OpenUnit).isClosed = true)
    (OpenUnit.isClosed_iff rfl)

end CompileOrder
