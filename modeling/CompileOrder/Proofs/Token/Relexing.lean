import CompileOrder.Proofs.Token.Lexemes

/-!
# Tokens read back

The tokens of a line, written one after another with single spaces between them, are read back
as they were. No lexeme contains a blank, so each text ends where the space behind it begins
and is the longest of its class at its place; and a reserved word is spelled by its own text.
A lexeme holds one hyphen at most, so what is written holds no comment.
-/

namespace CompileOrder.Lexer

open Text

/-- The text of a token is a lexeme of its symbol, and spells itself. -/
structure IsWritten (t : Token) : Prop where
  /-- The text is one of the symbol's class. -/
  holds : t.symbol.lexemeClass.Holds t.text.toList
  /-- It reads as the symbol. -/
  reads : t.symbol.Reads t.text.toList
  /-- It is the text of the token that is read from it. -/
  textOf : t.symbol.textOf t.text.toList = t.text

/-- The texts of the tokens with single spaces between them. -/
def joined (tokens : List Token) : String := " ".intercalate (tokens.map (·.text))

theorem isBasedMark_of_isDigitMark {d : Char} (hd : isDigitMark d = true) :
    isBasedMark d = true := by
  rcases Bool.or_eq_true_iff.mp hd with hdigit | hunderscore
  · simp [isBasedMark, Char.isAlphanum, hdigit]
  · simp [isBasedMark, beq_iff_eq.mp hunderscore]

/-- Apart from number signs and the sign of its exponent a number consists of characters that
a based part may hold. -/
theorem IsNumeral.exists_sign {cs : List Char} (h : IsNumeral cs) :
    ∃ before sign after, cs = before ++ sign ++ after ∧
      (∀ d ∈ before ++ after, isBasedMark d = true ∨ d = '#') ∧
      (sign = [] ∨ sign = ['+'] ∨ sign = ['-']) := by
  obtain ⟨whole, middle, exponent, rfl, hwhole, hmiddle, hexponent⟩ := h
  have hwhole' : ∀ d ∈ whole, isBasedMark d = true ∨ d = '#' := by
    cases whole with
    | nil => exact hwhole.elim
    | cons c cs =>
      have hc : isDigitMark c = true := Bool.or_eq_true_iff.mpr (Or.inl hwhole.1)
      intro d hd
      rcases List.mem_cons.mp hd with rfl | hd
      · exact Or.inl (isBasedMark_of_isDigitMark hc)
      · exact Or.inl (isBasedMark_of_isDigitMark (hwhole.2 d hd))
  have hmiddle' : ∀ d ∈ middle, isBasedMark d = true ∨ d = '#' := by
    rcases hmiddle with rfl | ⟨body, rfl, hbody⟩ | ⟨ds, rfl, -, hds⟩
    · simp
    · intro d hd
      simp only [List.mem_cons, List.mem_append, List.not_mem_nil, or_false] at hd
      rcases hd with rfl | hd | rfl
      · exact Or.inr rfl
      · exact Or.inl (hbody d hd)
      · exact Or.inr rfl
    · intro d hd
      rcases List.mem_cons.mp hd with rfl | hd
      · exact Or.inl (by decide)
      · exact Or.inl (isBasedMark_of_isDigitMark (hds d hd))
  rcases hexponent with rfl | ⟨letter, sign, ds, rfl, hletter, hsign, -, hds⟩
  · exact ⟨whole ++ middle, [], [], by simp, by simpa [or_imp, forall_and] using
      ⟨hwhole', hmiddle'⟩, Or.inl rfl⟩
  · refine ⟨whole ++ middle ++ [letter], sign, ds, by simp, ?_, hsign⟩
    intro d hd
    simp only [List.mem_append, List.mem_singleton] at hd
    rcases hd with ((hd | hd) | rfl) | hd
    · exact hwhole' d hd
    · exact hmiddle' d hd
    · rcases hletter with rfl | rfl <;> exact Or.inl (by decide)
    · exact Or.inl (isBasedMark_of_isDigitMark (hds d hd))

/-- A class of characters without a character passed over tells the two apart. -/
theorem isPassed_eq_false {p : Char → Bool}
    (hp : ∀ {c : Char}, isPassed c = true → p c = false) {d : Char} (hd : p d = true) :
    isPassed d = false := by
  refine Bool.eq_false_iff.mpr fun hpassed => ?_
  exact absurd (hd.symm.trans (hp hpassed)) (by decide)

/-- No blank and no control character stands in a lexeme, and one hyphen at most. -/
theorem isPassed_of_mem_lexeme {k : LexemeClass} {cs : List Char} (h : k.Holds cs) :
    (∀ d ∈ cs, isPassed d = false) ∧ cs.count '-' ≤ 1 := by
  cases k with
  | word =>
    have hchars : ∀ d ∈ cs, isWordChar d = true := fun d hd => IsWord.isWordChar h hd
    have hhyphen : '-' ∉ cs := fun hmem => absurd (hchars '-' hmem) (by decide)
    refine ⟨fun d hd => isPassed_eq_false isWordChar_of_isPassed (hchars d hd), ?_⟩
    rw [List.count_eq_zero.mpr hhyphen]
    exact Nat.zero_le _
  | number =>
    obtain ⟨before, sign, after, rfl, hchars, hsign⟩ := IsNumeral.exists_sign h
    have hhyphen : '-' ∉ before ++ after := fun hmem =>
      absurd (hchars '-' hmem) (by decide)
    have hpassed : ∀ d ∈ before ++ after, isPassed d = false := by
      intro d hd
      rcases hchars d hd with hmark | rfl
      · exact isPassed_eq_false isBasedMark_of_isPassed hmark
      · decide
    have hsign' : (∀ d ∈ sign, isPassed d = false) ∧ sign.count '-' ≤ 1 := by
      have hplus : isPassed '+' = false := by decide
      have hminus : isPassed '-' = false := by decide
      rcases hsign with rfl | rfl | rfl <;> simp [hplus, hminus]
    obtain ⟨hbefore, hafter⟩ := List.forall_mem_append.mp hpassed
    obtain ⟨hbefore', hafter'⟩ := not_or.mp (List.mem_append.not.mp hhyphen)
    refine ⟨List.forall_mem_append.mpr ⟨List.forall_mem_append.mpr ⟨hbefore, hsign'.1⟩, hafter⟩, ?_⟩
    rw [List.count_append, List.count_append, List.count_eq_zero.mpr hbefore',
      List.count_eq_zero.mpr hafter']
    omega
  | mark =>
    rcases h with ⟨o, rfl⟩ | ⟨c, rfl, hmark⟩
    · have hall : ∀ o ∈ Operator.all, o.spelling.toList.all (fun d => !isPassed d) = true ∧
          o.spelling.toList.count '-' ≤ 1 := by decide
      obtain ⟨hpassed, hhyphens⟩ := hall o (mem_operators o)
      exact ⟨fun d hd => by simpa using List.all_eq_true.mp hpassed d hd, hhyphens⟩
    · have hstarts : LexemeClass.mark.starts c = true := hmark
      have hpassed : isPassed c = false := Bool.eq_false_iff.mpr fun hpassed =>
        not_isDropped_of_starts hstarts (isDropped_of_isPassed hpassed)
      exact ⟨List.forall_mem_singleton.mpr hpassed, List.count_le_length⟩

/-- A lexeme is the longest of its class where it ends or a character follows that is passed
over. -/
theorem isLongest_append {k : LexemeClass} {lexeme rest : List Char} (h : k.Holds lexeme)
    (hrest : ∀ d ∈ rest.head?, isPassed d = true) :
    IsLongest k.Holds lexeme (lexeme ++ rest) := by
  refine ⟨List.prefix_append _ _, h, fun other hother hholds => ?_⟩
  cases rest with
  | nil =>
    rw [List.append_nil] at hother
    exact hother.length_le
  | cons d rest =>
    by_contra hlength
    have hbegin : lexeme ++ [d] <+: other := by
      refine List.prefix_of_prefix_length_le ⟨rest, by simp⟩ hother ?_
      rw [List.length_append, List.length_singleton]
      omega
    have hmem : d ∈ other := hbegin.subset (by simp)
    have hnot := (isPassed_of_mem_lexeme hholds).1 d hmem
    exact absurd (hnot.symm.trans (hrest d rfl)) (by decide)

/-- The tokens of a text carry lexemes of their symbols, and the number of the line. -/
theorem Cuts.isWritten {n : Nat} {cs : List Char} {tokens : List Token} (h : Cuts n cs tokens) :
    ∀ t ∈ tokens, IsWritten t ∧ t.line = n := by
  induction h with
  | rest => simp
  | @lexeme skipped lexeme rest symbol tokens hskipped hlongest hreads hrest ih =>
    refine List.forall_mem_cons.mpr ⟨⟨?_, rfl⟩, ih⟩
    cases symbol with
    | keyword k =>
      have hspelling := (reads_wordSymbol k.spelling.toList).2
      rw [(isWord_spelling k).2] at hspelling
      have htext : spelledUpper lexeme = k.spelling := hreads
      refine ⟨?_, ?_, ?_⟩
      · change IsWord (spelledUpper lexeme).toList
        rw [htext]
        exact (isWord_spelling k).1
      · change spelledUpper (spelledUpper lexeme).toList = k.spelling
        rw [htext]
        exact hspelling
      · change spelledUpper (spelledUpper lexeme).toList = spelledUpper lexeme
        rw [htext]
        exact hspelling
    | identifier | number | operator o | delimiter c =>
      have hlexeme : (String.ofList lexeme).toList = lexeme := String.toList_ofList
      refine ⟨?_, ?_, ?_⟩
      · exact hlexeme.symm ▸ hlongest.2.1
      · exact hlexeme.symm ▸ hreads
      · exact congrArg String.ofList hlexeme

/-- Lexemes with spaces between them are cut at the spaces. -/
theorem cuts_intercalate {n : Nat} {tokens : List Token}
    (h : ∀ t ∈ tokens, IsWritten t ∧ t.line = n) :
    Cuts n ([' '].intercalate (tokens.map (·.text.toList))) tokens := by
  have hcut : ∀ {t : Token} {tokens : List Token} {rest : List Char},
      IsWritten t ∧ t.line = n → (∀ d ∈ rest.head?, isPassed d = true) → Cuts n rest tokens →
        Cuts n (t.text.toList ++ rest) (t :: tokens) := by
    rintro t tokens rest ⟨hwritten, rfl⟩ hhead hrest
    have hlexeme := Cuts.lexeme (List.forall_mem_nil _) (isLongest_append hwritten.holds hhead)
      hwritten.reads hrest
    rwa [hwritten.textOf] at hlexeme
  induction tokens with
  | nil => exact .rest (by simp)
  | cons t tokens ih =>
    obtain ⟨ht, htokens⟩ := List.forall_mem_cons.mp h
    cases tokens with
    | nil =>
      have hlast := hcut ht (by simp) (.rest (List.forall_mem_nil _))
      simpa using hlast
    | cons u tokens =>
      have hspace : IsDropped ' ' := isDropped_of_isPassed (by decide)
      have hrest := (ih htokens).skip (List.forall_mem_singleton.mpr hspace)
      rw [List.map_cons, List.map_cons, List.intercalate_cons_cons, List.append_assoc]
      exact hcut ht (by simp; decide) hrest

/-- A text with one hyphen at most holds no comment. -/
theorem beforeComment_of_count {cs : List Char} (h : cs.count '-' ≤ 1) :
    beforeComment cs = cs := by
  fun_induction beforeComment cs with
  | case1 => rfl
  | case2 rest => simp at h
  | case3 c cs hne ih =>
    rw [ih (Nat.le_trans List.count_le_count_cons h)]

/-- Before a character that is no hyphen such a text holds no comment either. -/
theorem beforeComment_append_of_count {cs : List Char} (h : cs.count '-' ≤ 1) {d : Char}
    (hd : d ≠ '-') (rest : List Char) :
    beforeComment (cs ++ d :: rest) = cs ++ d :: beforeComment rest := by
  fun_induction beforeComment cs with
  | case1 => simp [beforeComment, hd]
  | case2 tail => simp at h
  | case3 c cs hne ih =>
    rw [List.cons_append, beforeComment_cons_append hne hd,
      ih (Nat.le_trans List.count_le_count_cons h), List.cons_append]

/-- Such texts with spaces between them hold no comment. -/
theorem beforeComment_intercalate {texts : List (List Char)}
    (h : ∀ cs ∈ texts, cs.count '-' ≤ 1) :
    beforeComment ([' '].intercalate texts) = [' '].intercalate texts := by
  induction texts with
  | nil => rfl
  | cons cs texts ih =>
    obtain ⟨hcs, htexts⟩ := List.forall_mem_cons.mp h
    cases texts with
    | nil => rw [List.intercalate_singleton, beforeComment_of_count hcs]
    | cons ds texts =>
      rw [List.intercalate_cons_cons, List.append_assoc, List.singleton_append,
        beforeComment_append_of_count hcs (by decide), ih htexts]

/-- Writing the tokens of a line with single spaces between them and reading the result gives
the same tokens. -/
theorem tokenize_joined (line : String) (n : Nat) :
    tokenize (joined (tokenize line n)) n = tokenize line n := by
  have hwritten := (cuts_scan n 0 (code line.toList)).isWritten
  have hchars : (joined (tokenize line n)).toList =
      [' '].intercalate ((tokenize line n).map (·.text.toList)) := by
    simp [joined, Function.comp_def]
  rw [tokenize_eq_scan, hchars, beforeComment_intercalate]
  · exact (cuts_intercalate hwritten).scan_eq
  · rintro cs hcs
    obtain ⟨t, ht, rfl⟩ := List.mem_map.mp hcs
    exact (isPassed_of_mem_lexeme (hwritten t ht).1.holds).2

end CompileOrder.Lexer
