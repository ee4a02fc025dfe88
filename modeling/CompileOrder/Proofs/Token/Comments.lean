import CompileOrder.Proofs.Token.Scanning
import Mathlib.Data.List.Find

/-!
# Blanks and comments

Blanks and control characters begin no lexeme and are part of none, so at the end of a line
they change no token: each maximal run stops before them as it stops at the end of the line.
Hence a comment set off by a space adds nothing to a line, and a line of blanks, with or
without a comment, has no tokens at all.
-/

namespace CompileOrder

open Text

namespace Text

/-- Numbers in some ranges are in none of those apart from them. -/
theorem inRanges_eq_false {ranges others : List (Nat × Nat)} {n : Nat}
    (hapart : ∀ r ∈ ranges, ∀ s ∈ others, r.2 < s.1 ∨ s.2 < r.1)
    (hn : inRanges others n = true) : inRanges ranges n = false := by
  obtain ⟨s, hs, hsn⟩ := List.any_eq_true.mp hn
  refine List.any_eq_false.mpr fun r hr hrn => ?_
  have h := hapart r hr s hs
  simp only [Bool.and_eq_true, decide_eq_true_eq] at hsn hrn
  omega

end Text

namespace Lexer

/-- A character that is passed over between lexemes. -/
def isPassed (c : Char) : Bool := isBlank c || isControl c

/-- The ranges above ASCII of the characters passed over. -/
def widePassed : List (Nat × Nat) := (0x80, 0x9F) :: wideBlanks

theorem inRanges_widePassed {c : Char} (hc : isPassed c = true) (hwide : isAscii c = false) :
    inRanges widePassed c.toNat = true := by
  rw [isAscii, decide_eq_false_iff_not] at hwide
  simp only [inRanges, widePassed, List.any_cons, Bool.or_eq_true, Bool.and_eq_true,
    decide_eq_true_eq]
  rcases Bool.or_eq_true_iff.mp hc with hblank | hcontrol
  · rw [isBlank, isAscii, if_neg (by simpa using hwide)] at hblank
    exact Or.inr hblank
  · simp only [isControl, Bool.or_eq_true, Bool.and_eq_true, decide_eq_true_eq] at hcontrol
    exact Or.inl (by omega)

/-- A class of ASCII characters has to be looked through only there. -/
theorem eq_false_of_isAscii {p : Char → Bool}
    (hp : ∀ n < 128, isPassed (Char.ofNat n) = true → p (Char.ofNat n) = false)
    {c : Char} (hc : isPassed c = true) (hascii : isAscii c = true) : p c = false := by
  have h := hp c.toNat (of_decide_eq_true hascii)
  rw [Char.ofNat_toNat] at h
  exact h hc

/-- No character of a word is passed over: the ranges of letters and numbers are apart from
those of blanks and control characters. -/
theorem isWordChar_of_isPassed {c : Char} (hc : isPassed c = true) : isWordChar c = false := by
  cases hascii : isAscii c with
  | true => exact eq_false_of_isAscii (by decide +kernel) hc hascii
  | false =>
    have hwide := inRanges_widePassed hc hascii
    have halphabetic : inRanges alphabeticRanges c.toNat = false :=
      inRanges_eq_false (by decide +kernel) hwide
    have hnumeric : inRanges numericRanges c.toNat = false :=
      inRanges_eq_false (by decide +kernel) hwide
    have hunderscore : (c == '_') = false := by
      refine beq_eq_false_iff_ne.mpr ?_
      rintro rfl
      exact absurd hascii (by decide)
    simp [isWordChar, isAlphanumeric, isAlphabetic, isNumeric, hascii, halphabetic, hnumeric,
      hunderscore]

/-- Letters and digits end with the small `z`. -/
theorem isAscii_of_isAlphanum {c : Char} (hc : c.isAlphanum = true) : isAscii c = true := by
  have hsmall : c.toNat ≤ 'z'.toNat := by
    rcases Bool.or_eq_true_iff.mp hc with hletter | hdigit
    · rcases Bool.or_eq_true_iff.mp hletter with hupper | hlower
      · have hle : c.val ≤ 'Z'.val := (of_decide_eq_true hupper).2
        exact (UInt32.le_iff_toNat_le.mp hle).trans (by decide)
      · have hle : c.val ≤ 'z'.val := of_decide_eq_true (Bool.and_eq_true_iff.mp hlower).2
        exact UInt32.le_iff_toNat_le.mp hle
    · have hle : c.val ≤ '9'.val := of_decide_eq_true (Bool.and_eq_true_iff.mp hdigit).2
      exact (UInt32.le_iff_toNat_le.mp hle).trans (by decide)
  exact decide_eq_true (Nat.lt_of_le_of_lt hsmall (by decide))

/-- No character of a based literal is passed over. -/
theorem isBasedMark_of_isPassed {c : Char} (hc : isPassed c = true) : isBasedMark c = false := by
  refine Bool.eq_false_iff.mpr fun hmark => ?_
  have hascii : isAscii c = true := by
    simp only [isBasedMark, Bool.or_eq_true, beq_iff_eq] at hmark
    rcases hmark with (hmark | rfl) | rfl
    · exact isAscii_of_isAlphanum hmark
    · decide
    · decide
  exact absurd (hmark.symm.trans (eq_false_of_isAscii (by decide +kernel) hc hascii)) (by decide)

/-- No digit is passed over. -/
theorem isDigitMark_of_isPassed {c : Char} (hc : isPassed c = true) : isDigitMark c = false := by
  have hmark := isBasedMark_of_isPassed hc
  simp only [isBasedMark, Char.isAlphanum, Bool.or_eq_false_iff] at hmark
  simp only [isDigitMark, hmark, Bool.or_self]

section
variable {ws : List Char} (hws : ∀ w ∈ ws, isPassed w = true)
include hws

/-- A run of characters none of which is passed over ends where those begin. -/
theorem takeWhile_append_passed {p : Char → Bool}
    (hp : ∀ {c : Char}, isPassed c = true → p c = false) (cs : List Char) :
    (cs ++ ws).takeWhile p = cs.takeWhile p := by
  induction cs with
  | nil =>
    cases ws with
    | nil => rfl
    | cons w ws => simp [hp (hws w List.mem_cons_self)]
  | cons c cs ih => simp only [List.cons_append, List.takeWhile_cons, ih]

/-- Characters passed over stay at the end when others are taken off. -/
theorem drop_append_passed (n : Nat) (cs : List Char) :
    ∃ ws' : List Char, (cs ++ ws).drop n = cs.drop n ++ ws' ∧ ∀ w ∈ ws', isPassed w = true :=
  ⟨ws.drop (n - cs.length), List.drop_append, fun w hw => hws w (List.mem_of_mem_drop hw)⟩

/-- A mark is the first character of a text just when it is without those passed over. -/
theorem head?_append_passed {d : Char} (hd : isPassed d = false) (cs : List Char) :
    (cs ++ ws).head? = some d ↔ cs.head? = some d := by
  cases cs with
  | cons c cs => rfl
  | nil =>
    refine ⟨fun h => ?_, fun h => nomatch h⟩
    have hpassed := hws d (List.mem_of_mem_head? h)
    exact absurd (hpassed.symm.trans hd) (by decide)

/-- No part of a number begins with a character passed over. -/
theorem parts_passed :
    basedPart ws = [] ∧ fractionPart ws = [] ∧ signPart ws = [] ∧ exponentPart ws = [] := by
  cases ws with
  | nil => exact ⟨rfl, rfl, rfl, rfl⟩
  | cons w ws =>
    have hne : ∀ {d : Char}, isPassed d = false → w ≠ d := by
      rintro d hd rfl
      exact absurd ((hws w List.mem_cons_self).symm.trans hd) (by decide)
    have hbased : w ≠ '#' := hne (by decide)
    have hpoint : w ≠ '.' := hne (by decide)
    have hplus : w ≠ '+' := hne (by decide)
    have hminus : w ≠ '-' := hne (by decide)
    have hsmall : w ≠ 'e' := hne (by decide)
    have hcapital : w ≠ 'E' := hne (by decide)
    simp [basedPart, fractionPart, signPart, exponentPart, *]

theorem digits_append_passed (cs : List Char) : digits (cs ++ ws) = digits cs :=
  takeWhile_append_passed hws isDigitMark_of_isPassed cs

theorem basedPart_append_passed (cs : List Char) : basedPart (cs ++ ws) = basedPart cs := by
  cases cs with
  | nil => exact (parts_passed hws).1
  | cons c cs =>
    by_cases hc : c = '#'
    · subst hc
      obtain ⟨ws', hdrop, hws'⟩ := drop_append_passed hws (cs.takeWhile isBasedMark).length cs
      simp only [List.cons_append, basedPart, takeWhile_append_passed hws isBasedMark_of_isPassed,
        hdrop, head?_append_passed hws' (d := '#') (by decide)]
    · simp [basedPart, hc]

theorem fractionPart_append_passed (cs : List Char) :
    fractionPart (cs ++ ws) = fractionPart cs := by
  cases cs with
  | nil => exact (parts_passed hws).2.1
  | cons c cs =>
    by_cases hc : c = '.'
    · subst hc
      simp only [List.cons_append, fractionPart, digits_append_passed hws]
    · simp [fractionPart, hc]

theorem signPart_append_passed (cs : List Char) : signPart (cs ++ ws) = signPart cs := by
  cases cs with
  | nil => exact (parts_passed hws).2.2.1
  | cons c cs =>
    by_cases hc : c = '+' ∨ c = '-'
    · rcases hc with rfl | rfl <;> rfl
    · rw [not_or] at hc
      simp [signPart, hc]

theorem exponentPart_append_passed (cs : List Char) :
    exponentPart (cs ++ ws) = exponentPart cs := by
  cases cs with
  | nil => exact (parts_passed hws).2.2.2
  | cons c cs =>
    obtain ⟨ws', hdrop, hws'⟩ := drop_append_passed hws (signPart cs).length cs
    simp only [List.cons_append, exponentPart, signPart_append_passed hws, hdrop,
      digits_append_passed hws']

theorem numeral_append_passed (cs : List Char) : numeral (cs ++ ws) = numeral cs := by
  obtain ⟨rest, hrest, hpassed⟩ := drop_append_passed hws (digits cs).length cs
  obtain ⟨last, hlast, hpassed'⟩ := drop_append_passed hpassed
    (basedPart (cs.drop (digits cs).length) ++ fractionPart (cs.drop (digits cs).length)).length
    (cs.drop (digits cs).length)
  simp only [numeral, digits_append_passed hws, hrest, basedPart_append_passed hpassed,
    fractionPart_append_passed hpassed, hlast, exponentPart_append_passed hpassed']

/-- Marks begin a text just when they begin it without the characters passed over. -/
theorem isPrefixOf_append_passed {marks : List Char} (hmarks : ∀ d ∈ marks, isPassed d = false)
    (cs : List Char) : marks.isPrefixOf (cs ++ ws) = marks.isPrefixOf cs := by
  induction marks generalizing cs with
  | nil => rfl
  | cons d marks ih =>
    obtain ⟨hd, hmarks⟩ := List.forall_mem_cons.mp hmarks
    cases cs with
    | cons c cs => simp only [List.cons_append, List.isPrefixOf_cons_cons, ih hmarks]
    | nil =>
      have hhead := (head?_append_passed hws hd []).not.mpr (by simp)
      cases ws with
      | nil => rfl
      | cons w ws =>
        have hne : d ≠ w := fun h => hhead (by simp [h])
        simp [List.isPrefixOf, hne]

theorem operator?_append_passed (cs : List Char) : operator? (cs ++ ws) = operator? cs := by
  have hspelling : ∀ o : Operator, ∀ d ∈ o.spelling.toList, isPassed d = false := by
    intro o d hd
    have hall : (o.spelling.toList.all fun d => !isPassed d) = true := by cases o <;> decide
    simpa using List.all_eq_true.mp hall d hd
  exact List.find?_congr fun o _ => isPrefixOf_append_passed hws (hspelling o) cs

theorem lexeme?_append_passed (c : Char) (cs : List Char) :
    lexeme? c (cs ++ ws) = lexeme? c cs := by
  simp only [lexeme?, ← List.cons_append, takeWhile_append_passed hws isWordChar_of_isPassed,
    numeral_append_passed hws, operator?_append_passed hws]

omit hws in
/-- A character passed over begins no lexeme. -/
theorem lexeme?_passed {c : Char} (hc : isPassed c = true) (cs : List Char) :
    lexeme? c cs = none := if_pos hc

/-- Characters passed over have no tokens. -/
theorem scan_passed (n skip : Nat) : scan n skip ws = [] := by
  induction ws generalizing skip with
  | nil => cases skip <;> rfl
  | cons w ws ih =>
    obtain ⟨hw, hws⟩ := List.forall_mem_cons.mp hws
    cases skip with
    | succ skip => exact ih hws skip
    | zero => simp only [scan, lexeme?_passed hw, ih hws]

/-- At the end of a text they change no token of it. -/
theorem scan_append_passed (n skip : Nat) (cs : List Char) :
    scan n skip (cs ++ ws) = scan n skip cs := by
  induction cs generalizing skip with
  | nil => cases skip <;> exact scan_passed hws _ _
  | cons c cs ih =>
    cases skip with
    | succ skip => exact ih skip
    | zero => simp only [List.cons_append, scan, lexeme?_append_passed hws, ih]

end

/-- The line ends cut off a line take no token with them. -/
theorem tokenize_eq_scan (line : String) (n : Nat) :
    tokenize line n = scan n 0 (beforeComment line.toList) := by
  have hends : ∀ c ∈ ((beforeComment line.toList).reverse.takeWhile
      fun c => c == '\n' || c == '\r').reverse, isPassed c = true := by
    intro c hc
    have hend := List.mem_takeWhile_imp (List.mem_reverse.mp hc)
    rcases Bool.or_eq_true_iff.mp hend with h | h <;> rw [beq_iff_eq.mp h] <;> decide
  calc tokenize line n
      = scan n 0 (code line.toList) := rfl
    _ = scan n 0 (code line.toList ++ _) := (scan_append_passed hends n 0 _).symm
    _ = scan n 0 (beforeComment line.toList) := by
        rw [code, ← List.reverse_append, List.takeWhile_append_dropWhile, List.reverse_reverse]

/-- A comment set off by a space changes no token of a line. -/
theorem tokenize_append_comment (line text : String) (n : Nat) :
    tokenize (line ++ " --" ++ text) n = tokenize line n := by
  have hline : (line ++ " --" ++ text).toList =
      line.toList ++ ' ' :: '-' :: '-' :: text.toList := by
    simp
  have hspace : ∀ w ∈ [' '], isPassed w = true := List.all_eq_true.mp (by decide)
  rw [tokenize_eq_scan, tokenize_eq_scan, hline, beforeComment_append_comment _ (by decide)]
  rcases beforeComment_append_singleton line.toList (d := ' ') (by decide) with h | h
  · rw [h]
  · rw [h, scan_append_passed hspace]

/-- The line holds blanks only, or blanks and a comment. -/
def IsIdle (line : String) : Prop :=
  ∃ blanks rest, line.toList = blanks ++ rest ∧ (∀ c ∈ blanks, isBlank c = true) ∧
    (rest = [] ∨ ∃ text, rest = '-' :: '-' :: text)

/-- An idle line has no tokens. -/
theorem IsIdle.tokenize {line : String} (h : IsIdle line) (n : Nat) :
    Lexer.tokenize line n = [] := by
  obtain ⟨blanks, rest, hline, hblanks, hrest⟩ := h
  have hpassed : ∀ w ∈ blanks, isPassed w = true := fun w hw =>
    Bool.or_eq_true_iff.mpr (Or.inl (hblanks w hw))
  have hhyphen : '-' ∉ blanks := fun hmem => absurd (hblanks '-' hmem) (by decide)
  have hcomment : beforeComment rest = [] := by
    rcases hrest with rfl | ⟨text, rfl⟩ <;> rfl
  rw [tokenize_eq_scan, hline, beforeComment_append hhyphen, hcomment, List.append_nil,
    scan_passed hpassed]

end Lexer

end CompileOrder
