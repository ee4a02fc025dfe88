import CompileOrder.Proofs.DesignUnit.Faithful
import CompileOrder.Proofs.Text.Case
import CompileOrder.Proofs.Token.Scanning
import Mathlib.Data.List.Find

/-!
# Lexing a line in upper case

A line in upper case has the tokens of the line as it was written, their texts in upper
case: every class of lexemes is made of classes of characters that hold both cases of a
letter, and marks are no letters. Only the texts of identifiers and numbers change, not
their canonical names.
-/

namespace CompileOrder

open Text

/-- The token with its text in upper case. -/
def Token.upper (t : Token) : Token := { t with text := Text.upper t.text }

/-- A token in upper case has the same symbol and the same name. -/
theorem Token.faithful_upper : Faithful upper where
  symbol _ := rfl
  name t := upper_upper t.text

namespace Lexer

theorem beforeComment_toUpper (cs : List Char) :
    beforeComment (cs.map Char.toUpper) = (beforeComment cs).map Char.toUpper := by
  induction cs using beforeComment.induct with
  | case1 => rfl
  | case2 => rfl
  | case3 c cs hne ih =>
    rw [beforeComment.eq_3 c cs hne, List.map_cons, List.map_cons, beforeComment, ih]
    intro rest hc hcs
    cases cs with
    | nil => cases hcs
    | cons d ds =>
      obtain ⟨hd, -⟩ := List.cons.inj hcs
      rw [toUpper_eq_iff (by decide)] at hc hd
      exact hne ds hc (by rw [hd])

theorem code_toUpper (cs : List Char) :
    code (cs.map Char.toUpper) = (code cs).map Char.toUpper := by
  have hend : ∀ c : Char,
      (c.toUpper == '\n' || c.toUpper == '\r') = (c == '\n' || c == '\r') :=
    eq_of_small (f := fun c => c == '\n' || c == '\r') (by decide)
  simp only [code, beforeComment_toUpper, ← List.map_reverse, List.dropWhile_map,
    Function.comp_def, hend]

theorem digits_toUpper (cs : List Char) :
    digits (cs.map Char.toUpper) = (digits cs).map Char.toUpper := by
  have hdigit : ∀ c : Char, isDigitMark c.toUpper = isDigitMark c := eq_of_small (by decide)
  simp only [digits, List.takeWhile_map, Function.comp_def, hdigit]

theorem head?_toUpper {d : Char} (hd : d.isAlpha = false) (cs : List Char) :
    (cs.map Char.toUpper).head? = some d ↔ cs.head? = some d := by
  cases cs with
  | nil => simp
  | cons c cs => simp [toUpper_eq_iff hd]

theorem basedPart_toUpper (cs : List Char) :
    basedPart (cs.map Char.toUpper) = (basedPart cs).map Char.toUpper := by
  have hmark : ∀ c : Char, isBasedMark c.toUpper = isBasedMark c := eq_of_small (by decide)
  have hsign : '#'.toUpper = '#' := rfl
  cases cs with
  | nil => rfl
  | cons c cs =>
    by_cases hc : c = '#'
    · subst hc
      have hend := head?_toUpper (d := '#') (by decide)
        (cs.drop (cs.takeWhile isBasedMark).length)
      simp only [List.map_cons, hsign, basedPart, List.takeWhile_map, Function.comp_def, hmark,
        List.length_map, ← List.map_drop, hend]
      split
      · simp [hsign]
      · rfl
    · have hc' : c.toUpper ≠ '#' := fun h => hc ((toUpper_eq_iff (by decide)).mp h)
      simp [basedPart, hc, hc']

theorem fractionPart_toUpper (cs : List Char) :
    fractionPart (cs.map Char.toUpper) = (fractionPart cs).map Char.toUpper := by
  have hpoint : '.'.toUpper = '.' := rfl
  cases cs with
  | nil => rfl
  | cons c cs =>
    by_cases hc : c = '.'
    · subst hc
      simp only [List.map_cons, hpoint, fractionPart, digits_toUpper, List.isEmpty_map]
      split <;> rfl
    · have hc' : c.toUpper ≠ '.' := fun h => hc ((toUpper_eq_iff (by decide)).mp h)
      simp [fractionPart, hc, hc']

theorem signPart_toUpper (cs : List Char) :
    signPart (cs.map Char.toUpper) = (signPart cs).map Char.toUpper := by
  cases cs with
  | nil => rfl
  | cons c cs =>
    have hplus : c.toUpper = '+' ↔ c = '+' := toUpper_eq_iff (by decide)
    have hminus : c.toUpper = '-' ↔ c = '-' := toUpper_eq_iff (by decide)
    by_cases hc : c = '+' ∨ c = '-'
    · rcases hc with rfl | rfl <;> rfl
    · rw [not_or] at hc
      simp [signPart, hc, hplus, hminus]

theorem exponentPart_toUpper (cs : List Char) :
    exponentPart (cs.map Char.toUpper) = (exponentPart cs).map Char.toUpper := by
  have hletter : ∀ c : Char, (c.toUpper == 'e' || c.toUpper == 'E') = (c == 'e' || c == 'E') :=
    eq_of_small (f := fun c => c == 'e' || c == 'E') (by decide)
  cases cs with
  | nil => rfl
  | cons c cs =>
    simp only [List.map_cons, exponentPart, hletter, signPart_toUpper, List.length_map,
      ← List.map_drop, digits_toUpper, List.isEmpty_map]
    split
    · split
      · rfl
      · simp
    · rfl

theorem numeral_toUpper (cs : List Char) :
    numeral (cs.map Char.toUpper) = (numeral cs).map Char.toUpper := by
  simp only [numeral, digits_toUpper, List.length_map, ← List.map_drop, basedPart_toUpper,
    fractionPart_toUpper, ← List.map_append, exponentPart_toUpper]

theorem wordSymbol_toUpper (word : List Char) :
    wordSymbol (word.map Char.toUpper) = wordSymbol word := by
  simp only [wordSymbol, spelledUpper, List.flatMap_map, upperLetters_toUpper]

/-- No letter stands in a compound delimiter. -/
theorem not_isAlpha_of_mem_spelling (o : Operator) {d : Char} (hd : d ∈ o.spelling.toList) :
    d.isAlpha = false := by
  have hall : (o.spelling.toList.all fun d => !d.isAlpha) = true := by cases o <;> decide
  simpa using List.all_eq_true.mp hall d hd

/-- Characters that are no letters begin a text whatever the case of its letters. -/
theorem isPrefixOf_toUpper {marks : List Char} (hmarks : ∀ d ∈ marks, d.isAlpha = false)
    (cs : List Char) : marks.isPrefixOf (cs.map Char.toUpper) = marks.isPrefixOf cs := by
  induction marks generalizing cs with
  | nil => rfl
  | cons d marks ih =>
    cases cs with
    | nil => rfl
    | cons c cs =>
      obtain ⟨hd, hds⟩ := List.forall_mem_cons.mp hmarks
      have hc : (d == c.toUpper) = (d == c) := by
        rw [Bool.eq_iff_iff, beq_iff_eq, beq_iff_eq, eq_comm, toUpper_eq_iff hd, eq_comm]
      simp only [List.map_cons, List.isPrefixOf_cons_cons, hc, ih hds]

theorem operator?_toUpper (cs : List Char) : operator? (cs.map Char.toUpper) = operator? cs :=
  List.find?_congr fun o _ => isPrefixOf_toUpper (fun _ => not_isAlpha_of_mem_spelling o) cs

/-- A lexeme in upper case has the same symbol. -/
theorem lexeme?_toUpper (c : Char) (cs : List Char) :
    lexeme? c.toUpper (cs.map Char.toUpper) =
      (lexeme? c cs).map fun x => (x.1, x.2.map Char.toUpper) := by
  have hoperator : operator? (c.toUpper :: cs.map Char.toUpper) = operator? (c :: cs) :=
    operator?_toUpper (c :: cs)
  have hnumeral : numeral (c.toUpper :: cs.map Char.toUpper) =
      (numeral (c :: cs)).map Char.toUpper := numeral_toUpper (c :: cs)
  have hword : wordSymbol (c.toUpper :: (cs.takeWhile isWordChar).map Char.toUpper) =
      wordSymbol (c :: cs.takeWhile isWordChar) := wordSymbol_toUpper (c :: _)
  simp only [lexeme?, isBlank_toUpper, isControl_toUpper, isAlphabetic_toUpper, isDigit_toUpper,
    isPunctuation_toUpper, hoperator, hnumeral, List.takeWhile_map, Function.comp_def,
    isWordChar_toUpper, hword]
  split
  · rfl
  · split
    · rfl
    · split
      · rfl
      · split
        · rename_i o _
          have hmarks : o.spelling.toList.map Char.toUpper = o.spelling.toList :=
            (List.map_congr_left fun d hd =>
              toUpper_of_not_isAlpha (not_isAlpha_of_mem_spelling o hd)).trans (List.map_id _)
          simp [hmarks]
        · split
          · rename_i hmark
            simp only [isPunctuation, Char.isAlphanum, Bool.and_eq_true, Bool.not_eq_true',
              Bool.or_eq_false_iff] at hmark
            simp [toUpper_of_not_isAlpha hmark.2.1]
          · rfl

/-- The text of a token in upper case is that of the lexeme in upper case. -/
theorem tokenText_toUpper (symbol : Symbol) (lexeme : List Char) :
    tokenText symbol (lexeme.map Char.toUpper) = Text.upper (tokenText symbol lexeme) := by
  cases symbol with
  | keyword k =>
    have hspelling : ∀ k ∈ Keyword.all, k.spelling = Text.upper k.spelling := by decide +kernel
    exact hspelling k (mem_keywords k)
  | identifier | number | operator _ | delimiter _ => simp [tokenText, Text.upper]

theorem scan_toUpper (number skip : Nat) (cs : List Char) :
    scan number skip (cs.map Char.toUpper) = (scan number skip cs).map Token.upper := by
  induction cs generalizing skip with
  | nil => cases skip <;> rfl
  | cons c cs ih =>
    cases skip with
    | succ skip => exact ih skip
    | zero =>
      simp only [List.map_cons, scan, lexeme?_toUpper]
      cases lexeme? c cs with
      | none => exact ih 0
      | some x =>
        simp only [Option.map_some, tokenText_toUpper, List.length_map, ih, List.map_cons,
          Token.upper]

/-- A line in upper case has the tokens of the line in upper case. -/
theorem tokenize_upper (line : String) (number : Nat) :
    tokenize (Text.upper line) number = (tokenize line number).map Token.upper := by
  rw [tokenize, toList_upper, code_toUpper, scan_toUpper, tokenize]

end Lexer

end CompileOrder
