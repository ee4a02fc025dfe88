import CompileOrder.Proofs.Token.Comments

/-!
# Lexemes are as long as their class allows

A line is cut into lexemes from the left. Each lexeme is the longest text of its class that
the rest of the line begins with: a word, a number, or punctuation, which is a compound
delimiter or a single character. Between the lexemes only characters are passed over that
begin none. The first character of a lexeme decides its class, so a line can be cut in one
way only, and its tokens are read off that cut.
-/

namespace CompileOrder

open Text

namespace Lexer

/-- Digits and underscores, at least one of them. -/
def IsDigitRun (cs : List Char) : Prop := cs ≠ [] ∧ ∀ d ∈ cs, isDigitMark d = true

/-- A digit followed by digits and underscores. -/
def IsWhole : List Char → Prop
  | [] => False
  | c :: cs => c.isDigit = true ∧ ∀ d ∈ cs, isDigitMark d = true

/-- Letters, digits, underscores and points between two number signs. -/
def IsBased (cs : List Char) : Prop :=
  ∃ body, cs = '#' :: (body ++ ['#']) ∧ ∀ d ∈ body, isBasedMark d = true

/-- A point followed by digits. -/
def IsFraction (cs : List Char) : Prop := ∃ ds, cs = '.' :: ds ∧ IsDigitRun ds

/-- The letter of an exponent followed by digits, with or without a sign before them. -/
def IsExponent (cs : List Char) : Prop :=
  ∃ letter sign ds, cs = letter :: (sign ++ ds) ∧ (letter = 'e' ∨ letter = 'E') ∧
    (sign = [] ∨ sign = ['+'] ∨ sign = ['-']) ∧ IsDigitRun ds

/-- A whole number, which a based part or a fraction may follow, and then an exponent. -/
def IsNumeral (cs : List Char) : Prop :=
  ∃ whole middle exponent, cs = whole ++ (middle ++ exponent) ∧ IsWhole whole ∧
    (middle = [] ∨ IsBased middle ∨ IsFraction middle) ∧ (exponent = [] ∨ IsExponent exponent)

/-- A compound delimiter, or a single punctuation character. -/
def IsMark (cs : List Char) : Prop :=
  (∃ o : Operator, cs = o.spelling.toList) ∨ ∃ c, cs = [c] ∧ isPunctuation c = true

/-- The classes that lexemes fall into. -/
inductive LexemeClass where
  | word
  | number
  | mark
  deriving DecidableEq

/-- The texts of a class. -/
def LexemeClass.Holds : LexemeClass → List Char → Prop
  | .word => IsWord
  | .number => IsNumeral
  | .mark => IsMark

/-- The characters that a text of a class begins with. -/
def LexemeClass.starts : LexemeClass → Char → Bool
  | .word => isAlphabetic
  | .number => Char.isDigit
  | .mark => isPunctuation

/-- The longest text with a property that `text` begins with. -/
def IsLongest (P : List Char → Prop) (lexeme text : List Char) : Prop :=
  lexeme <+: text ∧ P lexeme ∧ ∀ other, other <+: text → P other → other.length ≤ lexeme.length

/-- A character that begins no lexeme: a blank, a control character, or a character outside
ASCII that is no letter. -/
def IsDropped (c : Char) : Prop :=
  isBlank c = true ∨ isControl c = true ∨ (isAscii c = false ∧ isAlphabetic c = false)

end Lexer

namespace Symbol

open Lexer

/-- The class of the lexemes of a symbol. -/
def lexemeClass : Symbol → LexemeClass
  | .keyword _ | .identifier => .word
  | .number => .number
  | .operator _ | .delimiter _ => .mark

/-- The symbol is the one that a lexeme of its class has. -/
def Reads : Symbol → List Char → Prop
  | .keyword k, lexeme => spelledUpper lexeme = k.spelling
  | .identifier, lexeme => ∀ k : Keyword, spelledUpper lexeme ≠ k.spelling
  | .number, _ => True
  | .operator o, lexeme => lexeme = o.spelling.toList
  | .delimiter c, lexeme => lexeme = [c]

/-- The text that a token carries: its lexeme, for reserved words in upper case. -/
def textOf : Symbol → List Char → String
  | .keyword _, lexeme => spelledUpper lexeme
  | _, lexeme => String.ofList lexeme

end Symbol

namespace Lexer

/-- The tokens are those of the lexemes that a text consists of, each the longest of its
class at its place, with characters before, between and behind them that begin none. -/
inductive Cuts (n : Nat) : List Char → List Token → Prop
  | rest {skipped : List Char} (hskipped : ∀ c ∈ skipped, IsDropped c) : Cuts n skipped []
  | lexeme {skipped lexeme rest : List Char} {symbol : Symbol} {tokens : List Token}
      (hskipped : ∀ c ∈ skipped, IsDropped c)
      (hlongest : IsLongest symbol.lexemeClass.Holds lexeme (lexeme ++ rest))
      (hreads : symbol.Reads lexeme) (hrest : Cuts n rest tokens) :
      Cuts n (skipped ++ (lexeme ++ rest)) (⟨symbol, symbol.textOf lexeme, n⟩ :: tokens)

section
variable {P : List Char → Prop} {p : Char → Bool} {a b cs : List Char}

/-- A text begins with one longest text of a class at most. -/
theorem IsLongest.eq (ha : IsLongest P a cs) (hb : IsLongest P b cs) : a = b := by
  obtain ⟨hbegin, hclass, hmax⟩ := ha
  obtain ⟨hbegin', hclass', hmax'⟩ := hb
  have hlength : a.length = b.length :=
    Nat.le_antisymm (hmax' a hbegin hclass) (hmax b hbegin' hclass')
  exact (List.prefix_of_prefix_length_le hbegin hbegin' hlength.le).eq_of_length hlength

/-- A run at the start of a text is part of the maximal one. -/
theorem prefix_takeWhile (ha : ∀ d ∈ a, p d = true) (h : a <+: cs) : a <+: cs.takeWhile p := by
  obtain ⟨rest, rfl⟩ := h
  rw [List.takeWhile_append_of_pos ha]
  exact List.prefix_append a _

/-- A run with something behind it that does not continue it is maximal. -/
theorem run_cases (ha : ∀ d ∈ a, p d = true) (hb : ∀ d ∈ b.head?, p d = false)
    (h : a ++ b <+: cs) : a = cs.takeWhile p ∨ b = [] := by
  cases b with
  | nil => exact Or.inr rfl
  | cons d b =>
    obtain ⟨rest, rfl⟩ := h
    refine Or.inl ?_
    rw [List.append_assoc, List.takeWhile_append_of_pos ha, List.cons_append,
      List.takeWhile_cons_of_neg (by simp [hb d (by simp)]), List.append_nil]

/-- What is left behind a maximal run. -/
theorem takeWhile_append_drop (p : Char → Bool) (cs : List Char) :
    cs.takeWhile p ++ cs.drop (cs.takeWhile p).length = cs :=
  List.prefix_iff_eq_append.mp (List.takeWhile_prefix p)

end

/-- A letter is not passed over. -/
theorem isPassed_of_isAlphabetic {c : Char} (hc : isAlphabetic c = true) : isPassed c = false := by
  refine Bool.eq_false_iff.mpr fun hpassed => ?_
  have hword := isWordChar_of_isPassed hpassed
  simp [isWordChar, isAlphanumeric, hc] at hword

/-- A word begins with a letter and goes on with letters, numbers and underscores. -/
theorem isWord_cons_iff {c : Char} {cs : List Char} :
    IsWord (c :: cs) ↔ isAlphabetic c = true ∧ ∀ d ∈ cs, isWordChar d = true := by
  constructor
  · rintro ⟨-, halpha, hcs⟩
    exact ⟨halpha, List.all_eq_true.mp hcs⟩
  · rintro ⟨halpha, hcs⟩
    exact ⟨isPassed_of_isAlphabetic halpha, halpha, List.all_eq_true.mpr hcs⟩

theorem isLongest_word {c : Char} (hc : isAlphabetic c = true) (cs : List Char) :
    IsLongest IsWord (c :: cs.takeWhile isWordChar) (c :: cs) := by
  refine ⟨List.cons_prefix_cons.mpr ⟨rfl, List.takeWhile_prefix _⟩,
    isWord_cons_iff.mpr ⟨hc, fun d hd => List.mem_takeWhile_imp hd⟩, ?_⟩
  intro other hbegin hword
  cases other with
  | nil => exact hword.elim
  | cons d ds =>
    obtain ⟨-, hrest⟩ := List.cons_prefix_cons.mp hbegin
    have hds := prefix_takeWhile (isWord_cons_iff.mp hword).2 hrest
    exact Nat.succ_le_succ hds.length_le

theorem digits_prefix (cs : List Char) : digits cs <+: cs := List.takeWhile_prefix _

theorem isDigitMark_of_mem_digits {cs : List Char} {d : Char} (hd : d ∈ digits cs) :
    isDigitMark d = true := List.mem_takeWhile_imp hd

theorem basedPart_cases (cs : List Char) :
    basedPart cs = [] ∨ (IsBased (basedPart cs) ∧ basedPart cs <+: cs) := by
  fun_cases basedPart cs with
  | case1 cs body hsign =>
    refine Or.inr ⟨⟨body, rfl, fun d hd => List.mem_takeWhile_imp hd⟩, ?_⟩
    obtain ⟨rest, hrest⟩ := List.head?_eq_some_iff.mp hsign
    have hcs : body ++ cs.drop body.length = cs := takeWhile_append_drop isBasedMark cs
    rw [hrest] at hcs
    exact ⟨rest, by rw [← hcs]; simp⟩
  | case2 => exact Or.inl rfl
  | case3 => exact Or.inl rfl

theorem fractionPart_cases (cs : List Char) :
    fractionPart cs = [] ∨ (IsFraction (fractionPart cs) ∧ fractionPart cs <+: cs) := by
  fun_cases fractionPart cs with
  | case1 => exact Or.inl rfl
  | case2 cs hdigits =>
    have hne : digits cs ≠ [] := by simpa using hdigits
    exact Or.inr ⟨⟨digits cs, rfl, hne, fun d hd => isDigitMark_of_mem_digits hd⟩,
      List.cons_prefix_cons.mpr ⟨rfl, digits_prefix cs⟩⟩
  | case3 => exact Or.inl rfl

theorem exponentPart_cases (cs : List Char) :
    exponentPart cs = [] ∨ (IsExponent (exponentPart cs) ∧ exponentPart cs <+: cs) := by
  have hsign : ∀ cs : List Char,
      (signPart cs = [] ∨ signPart cs = ['+'] ∨ signPart cs = ['-']) ∧ signPart cs <+: cs := by
    intro cs
    fun_cases signPart cs <;> simp
  fun_cases exponentPart cs with
  | case1 => exact Or.inl rfl
  | case2 => exact Or.inl rfl
  | case3 letter cs hletter sign ds hdigits =>
    obtain ⟨hshape, rest, hrest⟩ := hsign cs
    have hne : ds ≠ [] := by simpa using hdigits
    refine Or.inr ⟨⟨letter, sign, ds, rfl, by simpa using hletter, hshape, hne,
      fun d hd => isDigitMark_of_mem_digits hd⟩, List.cons_prefix_cons.mpr ⟨rfl, ?_⟩⟩
    have hdrop : cs.drop sign.length = rest := by rw [← hrest, List.drop_left]
    have hds : ds <+: rest := hdrop ▸ digits_prefix (cs.drop sign.length)
    rw [← hrest]
    exact (List.prefix_append_right_inj _).mpr hds
  | case4 => exact Or.inl rfl

/-- The parts of a number behind its digits begin with characters that are no digits. -/
theorem isDigitMark_head?_parts {middle exponent : List Char}
    (hmiddle : middle = [] ∨ IsBased middle ∨ IsFraction middle)
    (hexponent : exponent = [] ∨ IsExponent exponent) :
    ∀ d ∈ (middle ++ exponent).head?, isDigitMark d = false := by
  rcases hmiddle with rfl | ⟨body, rfl, -⟩ | ⟨ds, rfl, -⟩
  · rcases hexponent with rfl | ⟨letter, sign, ds, rfl, hletter, -⟩
    · simp
    · rcases hletter with rfl | rfl <;> simp <;> decide
  · simp; decide
  · simp; decide

/-- A based part at the start is the one that is read, and there is no fraction. -/
theorem basedPart_eq {middle cs : List Char} (hmiddle : IsBased middle) (h : middle <+: cs) :
    basedPart cs = middle ∧ fractionPart cs = [] := by
  obtain ⟨body, rfl, hbody⟩ := hmiddle
  obtain ⟨rest, rfl⟩ := h
  have hmark : ∀ d ∈ ['#'].head?, isBasedMark d = false := by simp; decide
  have hrun : body = (body ++ '#' :: rest).takeWhile isBasedMark :=
    (run_cases hbody hmark ⟨rest, by simp⟩).resolve_right (by simp)
  have htext : '#' :: (body ++ ['#']) ++ rest = '#' :: (body ++ '#' :: rest) := by simp
  rw [htext]
  refine ⟨?_, rfl⟩
  simp only [basedPart, ← hrun, List.drop_left, List.head?_cons, if_true, List.cons_append]

/-- A fraction at the start is the one that is read unless more digits follow, and there is
no based part. -/
theorem fractionPart_eq_or {middle exponent cs : List Char} (hmiddle : IsFraction middle)
    (hexponent : ∀ d ∈ exponent.head?, isDigitMark d = false) (h : middle ++ exponent <+: cs) :
    basedPart cs = [] ∧ (fractionPart cs = middle ∨
      (exponent = [] ∧ middle.length ≤ (fractionPart cs).length)) := by
  obtain ⟨ds, rfl, hne, hds⟩ := hmiddle
  cases cs with
  | nil => simp at h
  | cons c cs =>
    obtain ⟨rfl, hrest⟩ := List.cons_prefix_cons.mp h
    have hbegin : ds <+: digits cs := prefix_takeWhile hds ((List.prefix_append _ _).trans hrest)
    have hdigits : (digits cs).isEmpty = false := by
      refine List.isEmpty_eq_false_iff.mpr fun hnil => hne ?_
      rw [hnil] at hbegin
      exact List.prefix_nil.mp hbegin
    have hread : fractionPart ('.' :: cs) = '.' :: digits cs := by simp [fractionPart, hdigits]
    refine ⟨rfl, ?_⟩
    rw [hread]
    rcases run_cases hds hexponent hrest with hrun | hnil
    · exact Or.inl (congrArg _ hrun.symm)
    · exact Or.inr ⟨hnil, Nat.succ_le_succ hbegin.length_le⟩

/-- No exponent at the start is longer than the one that is read, and nothing else is read
before it. -/
theorem length_le_exponentPart {exponent cs : List Char} (hexponent : IsExponent exponent)
    (h : exponent <+: cs) :
    basedPart cs = [] ∧ fractionPart cs = [] ∧
      exponent.length ≤ (exponentPart cs).length := by
  obtain ⟨letter, sign, ds, rfl, hletter, hsign, hne, hds⟩ := hexponent
  obtain ⟨rest, rfl⟩ := h
  have hread : signPart (sign ++ (ds ++ rest)) = sign := by
    rcases hsign with rfl | rfl | rfl
    · cases ds with
      | nil => exact absurd rfl hne
      | cons d ds =>
        have hd : isDigitMark d = true := hds d List.mem_cons_self
        have hplus : d ≠ '+' := by rintro rfl; exact absurd hd (by decide)
        have hminus : d ≠ '-' := by rintro rfl; exact absurd hd (by decide)
        simp [signPart, hplus, hminus]
    · rfl
    · rfl
  have hbegin : ds <+: digits (ds ++ rest) := prefix_takeWhile hds (List.prefix_append _ _)
  have hdigits : (digits (ds ++ rest)).isEmpty = false := by
    refine List.isEmpty_eq_false_iff.mpr fun hnil => hne ?_
    rw [hnil] at hbegin
    exact List.prefix_nil.mp hbegin
  have hexponent : exponentPart (letter :: (sign ++ ds) ++ rest) =
      letter :: (sign ++ digits (ds ++ rest)) := by
    have hmark : (letter == 'e' || letter == 'E') = true := by simpa using hletter
    simp only [List.cons_append, List.append_assoc, exponentPart, hmark, if_true, hread,
      List.drop_left, hdigits, Bool.false_eq_true, if_false]
  refine ⟨?_, ?_, ?_⟩
  · rcases hletter with rfl | rfl <;> rfl
  · rcases hletter with rfl | rfl <;> rfl
  · have hlength := hbegin.length_le
    rw [hexponent]
    simp only [List.length_cons, List.length_append]
    omega

/-- What is read of a number behind its digits. -/
def partsOf (cs : List Char) : List Char :=
  let middle := basedPart cs ++ fractionPart cs
  middle ++ exponentPart (cs.drop middle.length)

theorem numeral_eq (cs : List Char) :
    numeral cs = digits cs ++ partsOf (cs.drop (digits cs).length) := by
  simp [numeral, partsOf]

/-- Behind its digits at most a based part or a fraction is read, and then an exponent. -/
theorem partsOf_cases (cs : List Char) :
    ∃ middle exponent, partsOf cs = middle ++ exponent ∧ partsOf cs <+: cs ∧
      (middle = [] ∨ IsBased middle ∨ IsFraction middle) ∧
      (exponent = [] ∨ IsExponent exponent) := by
  have hmiddle : ∃ middle, basedPart cs ++ fractionPart cs = middle ∧ middle <+: cs ∧
      (middle = [] ∨ IsBased middle ∨ IsFraction middle) := by
    rcases basedPart_cases cs with hnone | ⟨hbased, hbegin⟩
    · rw [hnone, List.nil_append]
      rcases fractionPart_cases cs with hnone | ⟨hfraction, hbegin⟩
      · exact ⟨[], hnone, List.nil_prefix, Or.inl rfl⟩
      · exact ⟨_, rfl, hbegin, Or.inr (Or.inr hfraction)⟩
    · rw [(basedPart_eq hbased hbegin).2, List.append_nil]
      exact ⟨_, rfl, hbegin, Or.inr (Or.inl hbased)⟩
  obtain ⟨middle, hread, ⟨rest, rfl⟩, hshape⟩ := hmiddle
  have hparts : partsOf (middle ++ rest) = middle ++ exponentPart rest := by
    simp only [partsOf, hread, List.drop_left]
  refine ⟨middle, exponentPart rest, hparts, ?_, hshape, ?_⟩
  · rw [hparts, List.prefix_append_right_inj]
    rcases exponentPart_cases rest with hnone | ⟨-, hbegin⟩
    · rw [hnone]
      exact List.nil_prefix
    · exact hbegin
  · exact (exponentPart_cases rest).imp_right And.left

/-- Behind the digits of a number nothing longer could be read. -/
theorem length_le_partsOf {middle exponent cs : List Char}
    (hmiddle : middle = [] ∨ IsBased middle ∨ IsFraction middle)
    (hexponent : exponent = [] ∨ IsExponent exponent) (h : middle ++ exponent <+: cs) :
    (middle ++ exponent).length ≤ (partsOf cs).length := by
  have hrest : basedPart cs ++ fractionPart cs = middle →
      (middle ++ exponent).length ≤ (partsOf cs).length := by
    intro hread
    have hexponent' : exponent.length ≤ (exponentPart (cs.drop middle.length)).length := by
      rcases hexponent with rfl | hexponent
      · exact Nat.zero_le _
      · obtain ⟨rest, rfl⟩ := h
        rw [List.append_assoc, List.drop_left]
        exact (length_le_exponentPart hexponent (List.prefix_append _ _)).2.2
    simp only [partsOf, hread, List.length_append]
    omega
  rcases hmiddle with rfl | hbased | hfraction
  · rcases hexponent with rfl | hexponent
    · exact Nat.zero_le _
    · obtain ⟨hbased, hfraction, -⟩ := length_le_exponentPart hexponent h
      exact hrest (by rw [hbased, hfraction]; rfl)
  · obtain ⟨hbased, hfraction⟩ := basedPart_eq hbased ((List.prefix_append _ _).trans h)
    exact hrest (by rw [hbased, hfraction, List.append_nil])
  · have hhead := isDigitMark_head?_parts (Or.inl rfl) hexponent
    obtain ⟨hbased, hread | ⟨rfl, hlength⟩⟩ := fractionPart_eq_or hfraction hhead h
    · exact hrest (by rw [hbased, hread, List.nil_append])
    · simp only [partsOf, hbased, List.nil_append, List.append_nil, List.length_append]
      omega

/-- A digit begins a number, and no longer one than is read. -/
theorem isLongest_numeral {c : Char} (hc : c.isDigit = true) (cs : List Char) :
    IsLongest IsNumeral (numeral (c :: cs)) (c :: cs) := by
  have hwhole : IsWhole (digits (c :: cs)) := by
    have hmark : isDigitMark c = true := by simp [isDigitMark, hc]
    rw [digits, List.takeWhile_cons_of_pos hmark]
    exact ⟨hc, fun d hd => List.mem_takeWhile_imp hd⟩
  generalize c :: cs = text at hwhole
  have htext : digits text ++ text.drop (digits text).length = text :=
    takeWhile_append_drop isDigitMark text
  rw [numeral_eq]
  generalize text.drop (digits text).length = rest at htext
  obtain ⟨middle, exponent, hparts, hbegin, hmiddle, hexponent⟩ := partsOf_cases rest
  refine ⟨?_, ⟨_, middle, exponent, congrArg _ hparts, hwhole, hmiddle, hexponent⟩, ?_⟩
  · conv_rhs => rw [← htext]
    exact (List.prefix_append_right_inj _).mpr hbegin
  · rintro other hother ⟨whole, middle, exponent, rfl, hwhole', hmiddle, hexponent⟩
    have hdigits : ∀ d ∈ whole, isDigitMark d = true := by
      cases whole with
      | nil => exact hwhole'.elim
      | cons d ds => exact List.forall_mem_cons.mpr ⟨by simp [isDigitMark, hwhole'.1], hwhole'.2⟩
    have hhead := isDigitMark_head?_parts hmiddle hexponent
    rcases run_cases hdigits hhead hother with rfl | hnil
    · change digits text ++ (middle ++ exponent) <+: text at hother
      conv_rhs at hother => rw [← htext]
      have hrest := (List.prefix_append_right_inj _).mp hother
      have hlength := length_le_partsOf hmiddle hexponent hrest
      change (digits text ++ (middle ++ exponent)).length ≤ _
      simp only [List.length_append] at hlength ⊢
      omega
    · have hbegin := prefix_takeWhile hdigits ((List.prefix_append _ _).trans hother)
      have hlength := hbegin.length_le
      rw [hnil, List.append_nil, List.length_append, digits]
      omega

/-- No compound delimiter that is tried later begins with one that is tried before it. -/
theorem not_prefix_of_earlier :
    Operator.all.Pairwise fun o o' => ¬ o.spelling.toList <+: o'.spelling.toList := by
  decide

theorem mem_operators (o : Operator) : o ∈ Operator.all := by cases o <;> decide

/-- A compound delimiter has at least two characters, and begins with one of punctuation. -/
theorem spelling_cons (o : Operator) :
    ∃ c d ds, o.spelling.toList = c :: d :: ds ∧ isPunctuation c = true := by
  cases o <;> exact ⟨_, _, _, rfl, by decide⟩

/-- The compound delimiter found is the longest that the text begins with. -/
theorem isLongest_operator {o : Operator} {cs : List Char} (h : operator? cs = some o) :
    IsLongest IsMark o.spelling.toList cs := by
  obtain ⟨hbegin, before, after, hall, hbefore⟩ := List.find?_eq_some_iff_append.mp h
  rw [List.isPrefixOf_iff_prefix] at hbegin
  refine ⟨hbegin, Or.inl ⟨o, rfl⟩, ?_⟩
  rintro other hother (⟨o', rfl⟩ | ⟨c, rfl, -⟩)
  · have hmem : o' ∈ before ++ o :: after := hall ▸ mem_operators o'
    rcases List.mem_append.mp hmem with hmem | hmem
    · have hnot := hbefore o' hmem
      rw [Bool.not_eq_true', ← Bool.not_eq_true, List.isPrefixOf_iff_prefix] at hnot
      exact absurd hother hnot
    · rcases List.mem_cons.mp hmem with rfl | hmem
      · exact le_rfl
      · have hpairwise := not_prefix_of_earlier
        rw [hall] at hpairwise
        have hnot := (List.pairwise_cons.mp (List.pairwise_append.mp hpairwise).2.1).1 o' hmem
        by_contra hlength
        exact hnot (List.prefix_of_prefix_length_le hbegin hother (Nat.le_of_not_le hlength))
  · obtain ⟨c, d, ds, hspelling, -⟩ := spelling_cons o
    simp [hspelling]

/-- Where no compound delimiter is found, a punctuation character stands alone. -/
theorem isLongest_singleton {c : Char} {cs : List Char} (hc : isPunctuation c = true)
    (h : operator? (c :: cs) = none) : IsLongest IsMark [c] (c :: cs) := by
  refine ⟨List.cons_prefix_cons.mpr ⟨rfl, List.nil_prefix⟩, Or.inr ⟨c, rfl, hc⟩, ?_⟩
  rintro other hother (⟨o, rfl⟩ | ⟨d, rfl, -⟩)
  · have hnot := List.find?_eq_none.mp h o (mem_operators o)
    rw [List.isPrefixOf_iff_prefix] at hnot
    exact absurd hother hnot
  · exact le_rfl

/-- The ASCII characters are the first 128. -/
theorem exists_ofNat {c : Char} (hc : isAscii c = true) : ∃ n < 128, Char.ofNat n = c :=
  ⟨c.toNat, of_decide_eq_true hc, Char.ofNat_toNat c⟩

theorem isAscii_of_isPunctuation {c : Char} (hc : isPunctuation c = true) : isAscii c = true := by
  simp only [isPunctuation, Bool.and_eq_true, decide_eq_true_eq] at hc
  exact decide_eq_true (by omega)

/-- A lexeme begins with a character of its class. -/
theorem starts_of_holds {k : LexemeClass} {c : Char} {cs : List Char} (h : k.Holds (c :: cs)) :
    k.starts c = true := by
  cases k with
  | word => exact (isWord_cons_iff.mp h).1
  | number =>
    obtain ⟨whole, middle, exponent, htext, hwhole, -⟩ := h
    cases whole with
    | nil => exact hwhole.elim
    | cons d ds =>
      obtain ⟨rfl, -⟩ := List.cons.inj htext
      exact hwhole.1
  | mark =>
    rcases h with ⟨o, ho⟩ | ⟨d, hd, hmark⟩
    · obtain ⟨d, e, ds, hspelling, hmark⟩ := spelling_cons o
      obtain ⟨rfl, -⟩ := List.cons.inj (ho.trans hspelling)
      exact hmark
    · obtain ⟨rfl, -⟩ := List.cons.inj hd
      exact hmark

/-- A lexeme is not empty. -/
theorem exists_cons_of_holds {k : LexemeClass} {cs : List Char} (h : k.Holds cs) :
    ∃ c rest, cs = c :: rest := by
  cases cs with
  | cons c cs => exact ⟨c, cs, rfl⟩
  | nil =>
    cases k with
    | word => exact h.elim
    | number =>
      obtain ⟨whole, middle, exponent, htext, hwhole, -⟩ := h
      obtain ⟨rfl, -⟩ := List.append_eq_nil_iff.mp htext.symm
      exact hwhole.elim
    | mark =>
      rcases h with ⟨o, ho⟩ | ⟨d, hd, -⟩
      · obtain ⟨c, d, ds, hspelling, -⟩ := spelling_cons o
        exact absurd (ho.trans hspelling) (by simp)
      · cases hd

theorem mem_classes (k : LexemeClass) : k ∈ [LexemeClass.word, .number, .mark] := by
  cases k <;> decide

/-- Outside ASCII there are only words. -/
theorem eq_word_of_starts {k : LexemeClass} {c : Char} (h : k.starts c = true)
    (hwide : isAscii c = false) : k = .word := by
  cases k with
  | word => rfl
  | number =>
    have halphanum : c.isAlphanum = true := Bool.or_eq_true_iff.mpr (Or.inr h)
    exact absurd (isAscii_of_isAlphanum halphanum) (by simp [hwide])
  | mark => exact absurd (isAscii_of_isPunctuation h) (by simp [hwide])

/-- No character begins lexemes of two classes. -/
theorem starts_unique {k k' : LexemeClass} {c : Char} (h : k.starts c = true)
    (h' : k'.starts c = true) : k = k' := by
  cases hascii : isAscii c with
  | true =>
    have hall : ∀ n < 128, ∀ k ∈ [LexemeClass.word, .number, .mark],
        ∀ k' ∈ [LexemeClass.word, .number, .mark], k.starts (Char.ofNat n) = true →
          k'.starts (Char.ofNat n) = true → k = k' := by decide +kernel
    obtain ⟨n, hn, rfl⟩ := exists_ofNat hascii
    exact hall n hn k (mem_classes k) k' (mem_classes k') h h'
  | false => rw [eq_word_of_starts h hascii, eq_word_of_starts h' hascii]

/-- A character that begins a lexeme is not dropped. -/
theorem not_isDropped_of_starts {k : LexemeClass} {c : Char} (h : k.starts c = true) :
    ¬ IsDropped c := by
  have hpassed : isPassed c = false := by
    cases hascii : isAscii c with
    | true =>
      have hall : ∀ n < 128, ∀ k ∈ [LexemeClass.word, .number, .mark],
          k.starts (Char.ofNat n) = true → isPassed (Char.ofNat n) = false := by decide +kernel
      obtain ⟨n, hn, rfl⟩ := exists_ofNat hascii
      exact hall n hn k (mem_classes k) h
    | false =>
      obtain rfl := eq_word_of_starts h hascii
      exact isPassed_of_isAlphabetic h
  obtain ⟨hblank, hcontrol⟩ := Bool.or_eq_false_iff.mp hpassed
  rintro (hdropped | hdropped | ⟨hwide, halpha⟩)
  · exact absurd (hblank.symm.trans hdropped) (by decide)
  · exact absurd (hcontrol.symm.trans hdropped) (by decide)
  · obtain rfl := eq_word_of_starts h hwide
    exact absurd (halpha.symm.trans h) (by decide)

theorem isDropped_of_isPassed {c : Char} (h : isPassed c = true) : IsDropped c :=
  (Bool.or_eq_true_iff.mp h).imp_right Or.inl

/-- A character that begins no lexeme is dropped. -/
theorem isDropped_of_not_starts {c : Char} (h : ∀ k : LexemeClass, k.starts c = false) :
    IsDropped c := by
  cases hascii : isAscii c with
  | true =>
    have hall : ∀ n < 128, (∀ k ∈ [LexemeClass.word, .number, .mark],
        k.starts (Char.ofNat n) = false) → isPassed (Char.ofNat n) = true := by decide +kernel
    obtain ⟨n, hn, rfl⟩ := exists_ofNat hascii
    exact isDropped_of_isPassed (hall n hn fun k _ => h k)
  | false => exact Or.inr (Or.inr ⟨hascii, h .word⟩)

/-- No visible character of ASCII is dropped. -/
theorem IsDropped.not_visible {c : Char} (h : IsDropped c) : c.toNat ≤ 32 ∨ 127 ≤ c.toNat := by
  cases hascii : isAscii c with
  | true =>
    have hpassed : isPassed c = true := by
      rcases h with hblank | hcontrol | ⟨hwide, -⟩
      · exact Bool.or_eq_true_iff.mpr (Or.inl hblank)
      · exact Bool.or_eq_true_iff.mpr (Or.inr hcontrol)
      · exact absurd (hascii.symm.trans hwide) (by decide)
    have hall : ∀ n < 128, isPassed (Char.ofNat n) = true →
        (Char.ofNat n).toNat ≤ 32 ∨ 127 ≤ (Char.ofNat n).toNat := by decide +kernel
    obtain ⟨n, hn, rfl⟩ := exists_ofNat hascii
    exact hall n hn hpassed
  | false =>
    rw [isAscii, decide_eq_false_iff_not] at hascii
    exact Or.inr (by omega)

/-- Where no lexeme begins a character is dropped. -/
theorem isDropped_of_lexeme? {c : Char} {cs : List Char} (h : lexeme? c cs = none) :
    IsDropped c := by
  simp only [lexeme?] at h
  split at h
  · rename_i hpassed
    exact isDropped_of_isPassed hpassed
  · split at h
    · cases h
    · rename_i halpha
      split at h
      · cases h
      · rename_i hdigit
        split at h
        · cases h
        · split at h
          · cases h
          · rename_i hmark
            refine isDropped_of_not_starts fun k => ?_
            cases k with
            | word => exact Bool.eq_false_iff.mpr halpha
            | number => exact Bool.eq_false_iff.mpr hdigit
            | mark => exact Bool.eq_false_iff.mpr hmark

/-- The symbol of a word is that of the reserved word it spells, if it spells one. -/
theorem reads_wordSymbol (word : List Char) :
    (wordSymbol word).lexemeClass = .word ∧ (wordSymbol word).Reads word := by
  rw [wordSymbol]
  cases hfind : Keyword.ofSpelling? (spelledUpper word) with
  | some k =>
    have hspelling := List.find?_some hfind
    exact ⟨rfl, (beq_iff_eq.mp hspelling).symm⟩
  | none =>
    refine ⟨rfl, fun k hk => ?_⟩
    exact List.find?_eq_none.mp hfind k (mem_keywords k) (beq_iff_eq.mpr hk.symm)

/-- The lexeme that begins with a character is the longest of its class there. -/
theorem isLongest_of_lexeme? {c : Char} {cs lexeme : List Char} {symbol : Symbol}
    (h : lexeme? c cs = some (symbol, lexeme)) :
    IsLongest symbol.lexemeClass.Holds lexeme (c :: cs) ∧ symbol.Reads lexeme := by
  simp only [lexeme?] at h
  split at h
  · cases h
  · split at h
    · rename_i halpha
      obtain ⟨rfl, rfl⟩ := Prod.mk.inj (Option.some.inj h)
      obtain ⟨hclass, hreads⟩ := reads_wordSymbol (c :: cs.takeWhile isWordChar)
      rw [hclass]
      exact ⟨isLongest_word halpha cs, hreads⟩
    · split at h
      · rename_i hdigit
        obtain ⟨rfl, rfl⟩ := Prod.mk.inj (Option.some.inj h)
        exact ⟨isLongest_numeral hdigit cs, trivial⟩
      · split at h
        · rename_i o hfind
          obtain ⟨rfl, rfl⟩ := Prod.mk.inj (Option.some.inj h)
          exact ⟨isLongest_operator hfind, rfl⟩
        · rename_i hfind
          split at h
          · rename_i hmark
            obtain ⟨rfl, rfl⟩ := Prod.mk.inj (Option.some.inj h)
            exact ⟨isLongest_singleton hmark hfind, rfl⟩
          · cases h

/-- Compound delimiters have different spellings. -/
theorem operator_ext {o o' : Operator} (h : o.spelling.toList = o'.spelling.toList) : o = o' := by
  have hall : ∀ o ∈ Operator.all, ∀ o' ∈ Operator.all,
      o.spelling.toList = o'.spelling.toList → o = o' := by decide
  exact hall o (mem_operators o) o' (mem_operators o') h

/-- A lexeme reads as one symbol of its class only. -/
theorem reads_unique {symbol symbol' : Symbol} {lexeme : List Char}
    (hclass : symbol.lexemeClass = symbol'.lexemeClass) (h : symbol.Reads lexeme)
    (h' : symbol'.Reads lexeme) : symbol = symbol' := by
  have hlength : ∀ (o : Operator) (c : Char), o.spelling.toList ≠ [c] := by
    intro o c hspelling
    obtain ⟨d, e, ds, hcons, -⟩ := spelling_cons o
    simp [hcons] at hspelling
  cases symbol <;> cases symbol' <;> cases hclass
  case identifier.identifier => rfl
  case number.number => rfl
  case keyword.keyword k k' =>
    have hspelling : k.spelling = k'.spelling := h.symm.trans h'
    rw [← (isWord_spelling k).2, ← (isWord_spelling k').2, hspelling]
  case keyword.identifier k => exact absurd h (h' k)
  case identifier.keyword k => exact absurd h' (h k)
  case operator.operator o o' => rw [operator_ext (h.symm.trans h')]
  case operator.delimiter o c => exact absurd (h.symm.trans h') (hlength o c)
  case delimiter.operator c o => exact absurd (h'.symm.trans h) (hlength o c)
  case delimiter.delimiter c d => rw [(List.cons.inj (h.symm.trans h')).1]

/-- The first character of a longest lexeme is one of its class. -/
theorem IsLongest.starts {k : LexemeClass} {lexeme cs : List Char} {c : Char}
    (h : IsLongest k.Holds lexeme (c :: cs)) : k.starts c = true := by
  obtain ⟨hbegin, hholds, -⟩ := h
  obtain ⟨d, ds, rfl⟩ := exists_cons_of_holds hholds
  obtain ⟨rfl, -⟩ := List.cons_prefix_cons.mp hbegin
  exact starts_of_holds hholds

/-- The longest lexeme of a class at the start is the one that is read. -/
theorem lexeme?_eq_some {c : Char} {cs lexeme : List Char} {symbol : Symbol}
    (hlongest : IsLongest symbol.lexemeClass.Holds lexeme (c :: cs))
    (hreads : symbol.Reads lexeme) : lexeme? c cs = some (symbol, lexeme) := by
  cases hread : lexeme? c cs with
  | none => exact absurd (isDropped_of_lexeme? hread) (not_isDropped_of_starts hlongest.starts)
  | some x =>
    obtain ⟨symbol', lexeme'⟩ := x
    obtain ⟨hlongest', hreads'⟩ := isLongest_of_lexeme? hread
    have hclass := starts_unique hlongest.starts hlongest'.starts
    obtain rfl := hlongest.eq (hclass ▸ hlongest')
    rw [reads_unique hclass hreads hreads']

/-- The text of a token is that of its lexeme. -/
theorem tokenText_eq {symbol : Symbol} {lexeme : List Char} (h : symbol.Reads lexeme) :
    tokenText symbol lexeme = symbol.textOf lexeme := by
  cases symbol with
  | keyword k => exact h.symm
  | identifier | number | operator o | delimiter c => rfl

/-- Characters that begin no lexeme may stand before a text. -/
theorem Cuts.skip {n : Nat} {skipped cs : List Char} {tokens : List Token}
    (hskipped : ∀ c ∈ skipped, IsDropped c) (h : Cuts n cs tokens) :
    Cuts n (skipped ++ cs) tokens := by
  cases h with
  | rest hrest => exact .rest (List.forall_mem_append.mpr ⟨hskipped, hrest⟩)
  | lexeme hmore hlongest hreads hrest =>
    rw [← List.append_assoc]
    exact .lexeme (List.forall_mem_append.mpr ⟨hskipped, hmore⟩) hlongest hreads hrest

/-- Scanning cuts a text, behind the characters that it first passes over. -/
theorem cuts_scan (n skip : Nat) (cs : List Char) :
    Cuts n (cs.drop skip) (scan n skip cs) := by
  induction cs generalizing skip with
  | nil =>
    rw [List.drop_nil]
    cases skip <;> exact .rest (by simp)
  | cons c cs ih =>
    cases skip with
    | succ skip => exact ih skip
    | zero =>
      rw [List.drop_zero]
      cases hread : lexeme? c cs with
      | none =>
        rw [scan, hread]
        exact (ih 0).skip (List.forall_mem_singleton.mpr (isDropped_of_lexeme? hread))
      | some x =>
        obtain ⟨symbol, lexeme⟩ := x
        obtain ⟨hlongest, hreads⟩ := isLongest_of_lexeme? hread
        obtain ⟨d, ds, rfl⟩ := exists_cons_of_holds hlongest.2.1
        obtain ⟨rest, hrest⟩ := hlongest.1
        rw [List.cons_append] at hrest
        obtain ⟨rfl, rfl⟩ := List.cons.inj hrest
        have htail := ih ds.length
        rw [List.drop_left, scan_skip] at htail
        rw [scan_lexeme hread, tokenText_eq hreads]
        have hcut := Cuts.lexeme (List.forall_mem_nil _) hlongest hreads htail
        exact hcut

/-- A text can be cut in one way only, the one in which it is scanned. -/
theorem Cuts.scan_eq {n : Nat} {cs : List Char} {tokens : List Token} (h : Cuts n cs tokens) :
    scan n 0 cs = tokens := by
  have hdropped : ∀ {skipped rest : List Char}, (∀ c ∈ skipped, IsDropped c) →
      scan n 0 (skipped ++ rest) = scan n 0 rest := by
    intro skipped rest hskipped
    induction skipped with
    | nil => rfl
    | cons c skipped ih =>
      obtain ⟨hc, hskipped⟩ := List.forall_mem_cons.mp hskipped
      have hread : lexeme? c (skipped ++ rest) = none := by
        cases hread : lexeme? c (skipped ++ rest) with
        | none => rfl
        | some x => exact absurd hc (not_isDropped_of_starts (isLongest_of_lexeme? hread).1.starts)
      simp only [List.cons_append, scan, hread, ih hskipped]
  induction h with
  | @rest skipped hskipped =>
    rw [← List.append_nil skipped, hdropped hskipped]
    rfl
  | lexeme hskipped hlongest hreads hrest ih =>
    rw [hdropped hskipped]
    obtain ⟨c, cs, rfl⟩ := exists_cons_of_holds hlongest.2.1
    rw [List.cons_append, scan_lexeme (lexeme?_eq_some hlongest hreads), tokenText_eq hreads, ih]

/-- The text is what stands in a line before its first two hyphens in a row, without the line
ends at the end of that. -/
def IsCode (line cs : List Char) : Prop :=
  ∃ ends comment, line = cs ++ ends ++ comment ∧ (∀ c ∈ ends, c = '\n' ∨ c = '\r') ∧
    (∀ c ∈ cs.getLast?, c ≠ '\n' ∧ c ≠ '\r') ∧ (comment = [] ∨ ['-', '-'] <+: comment) ∧
    ∀ before after, line = before ++ '-' :: '-' :: after → (cs ++ ends).length ≤ before.length

/-- The comment of a line begins with its first two hyphens in a row. -/
theorem beforeComment_spec (line : List Char) :
    ∃ comment, line = beforeComment line ++ comment ∧
      (comment = [] ∨ ['-', '-'] <+: comment) ∧
      ∀ before after, line = before ++ '-' :: '-' :: after →
        (beforeComment line).length ≤ before.length := by
  fun_induction beforeComment line with
  | case1 => exact ⟨[], rfl, Or.inl rfl, fun _ _ _ => Nat.zero_le _⟩
  | case2 rest => exact ⟨_, rfl, Or.inr ⟨rest, rfl⟩, fun _ _ _ => Nat.zero_le _⟩
  | case3 c cs hne ih =>
    obtain ⟨comment, hcs, hcomment, hfirst⟩ := ih
    refine ⟨comment, congrArg (c :: ·) hcs, hcomment, fun before after hline => ?_⟩
    cases before with
    | nil =>
      obtain ⟨hc, hrest⟩ := List.cons.inj hline
      exact (hne after hc hrest).elim
    | cons d before => exact Nat.succ_le_succ (hfirst before after (List.cons.inj hline).2)

theorem isCode_code (line : List Char) : IsCode line (code line) := by
  obtain ⟨comment, hline, hcomment, hfirst⟩ := beforeComment_spec line
  let isEnd : Char → Bool := fun c => c == '\n' || c == '\r'
  have hbefore : code line ++ ((beforeComment line).reverse.takeWhile isEnd).reverse =
      beforeComment line := by
    rw [code, ← List.reverse_append, List.takeWhile_append_dropWhile, List.reverse_reverse]
  refine ⟨((beforeComment line).reverse.takeWhile isEnd).reverse, comment, ?_, fun c hc => ?_,
    fun c hc => ?_, hcomment, ?_⟩
  · rw [hbefore]
    exact hline
  · have hend := List.mem_takeWhile_imp (List.mem_reverse.mp hc)
    simpa [isEnd] using hend
  · rw [code, List.getLast?_reverse] at hc
    have hnot := List.head?_dropWhile_not isEnd (beforeComment line).reverse
    rw [Option.mem_def.mp hc] at hnot
    simpa [isEnd] using hnot
  · rw [hbefore]
    exact hfirst

/-- The tokens of a line are those of the lexemes that its code consists of, each the longest
of its class at its place; what stands between them is blank, a control character or a
character outside ASCII that is no letter, so no visible character of ASCII is lost. There is
no other way to cut the line. -/
theorem tokenize_lossless (line : String) (n : Nat) :
    IsCode line.toList (code line.toList) ∧
      (∀ tokens, Cuts n (code line.toList) tokens ↔ tokens = tokenize line n) ∧
      ∀ c, IsDropped c → c.toNat ≤ 32 ∨ 127 ≤ c.toNat := by
  refine ⟨isCode_code _, fun tokens => ⟨fun h => h.scan_eq.symm, ?_⟩, fun c hc => ?_⟩
  · rintro rfl
    exact cuts_scan n 0 (code line.toList)
  · exact hc.not_visible

end Lexer

end CompileOrder
