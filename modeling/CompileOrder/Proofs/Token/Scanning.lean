import CompileOrder.Text.Split
import CompileOrder.Token.Lexer
import Mathlib.Data.List.TakeWhile

/-!
# Scanning written lexemes

A word is read to its end when no character that could continue it follows, and so a text
put together from words and punctuation is read back lexeme by lexeme, provided that words
do not touch. Line ends at the end of a line are no part of its code.
-/

namespace CompileOrder.Lexer

open Text

/-- A letter followed by letters, numbers and underscores. -/
def IsWord : List Char → Prop
  | [] => False
  | c :: cs =>
    (isBlank c || isControl c) = false ∧ isAlphabetic c = true ∧ cs.all isWordChar = true

instance : DecidablePred IsWord
  | [] => inferInstanceAs (Decidable False)
  | _ :: _ => inferInstanceAs (Decidable (_ ∧ _ ∧ _))

/-- Characters of the lexeme before are passed over. -/
theorem scan_skip (n : Nat) (passed rest : List Char) :
    scan n passed.length (passed ++ rest) = scan n 0 rest := by
  induction passed with
  | nil => rfl
  | cons c passed ih => exact ih

/-- A lexeme is one token, and scanning goes on after it. -/
theorem scan_lexeme {n : Nat} {c : Char} {cs rest : List Char} {symbol : Symbol}
    (h : lexeme? c (cs ++ rest) = some (symbol, c :: cs)) :
    scan n 0 (c :: (cs ++ rest)) = ⟨symbol, tokenText symbol (c :: cs), n⟩ :: scan n 0 rest := by
  simp only [scan, h, List.length_cons, Nat.add_sub_cancel, scan_skip]

/-- A word is one token where no character follows that could be part of it. -/
theorem scan_word {n : Nat} {word rest : List Char} (hword : IsWord word)
    (hrest : ∀ d ∈ rest.head?, isWordChar d = false) :
    scan n 0 (word ++ rest) =
      ⟨wordSymbol word, tokenText (wordSymbol word) word, n⟩ :: scan n 0 rest := by
  cases word with
  | nil => exact hword.elim
  | cons c cs =>
    obtain ⟨hblank, halpha, hcs⟩ := hword
    have hrun : (cs ++ rest).takeWhile isWordChar = cs := by
      rw [List.takeWhile_append_of_pos (List.all_eq_true.mp hcs)]
      cases rest with
      | nil => simp
      | cons d rest => simp [hrest d (by simp)]
    refine scan_lexeme ?_
    simp only [lexeme?, hblank, halpha, Bool.false_eq_true, if_false, if_true, hrun]

/-- A space is passed over. -/
theorem scan_space (n : Nat) (rest : List Char) : scan n 0 (' ' :: rest) = scan n 0 rest := by
  have hblank : (isBlank ' ' || isControl ' ') = true := by decide
  simp only [scan, lexeme?, hblank, if_true]

/-- A punctuation character is a token of its own where it begins no compound delimiter. -/
theorem scan_delimiter (n : Nat) {c : Char} {rest : List Char}
    (hclass : (isBlank c || isControl c) = false ∧ isAlphabetic c = false ∧
      c.isDigit = false ∧ isPunctuation c = true)
    (hnone : operator? (c :: rest) = none) :
    scan n 0 (c :: rest) = ⟨.delimiter c, String.ofList [c], n⟩ :: scan n 0 rest := by
  have hlexeme : lexeme? c ([] ++ rest) = some (.delimiter c, [c]) := by
    simp [lexeme?, hclass, hnone]
  have hscan := scan_lexeme (n := n) hlexeme
  exact hscan

/-- A comma, a semicolon and a point begin no compound delimiter. -/
theorem scan_mark (n : Nat) {c : Char} (hc : c ∈ [',', ';', '.']) (rest : List Char) :
    scan n 0 (c :: rest) = ⟨.delimiter c, String.ofList [c], n⟩ :: scan n 0 rest := by
  have hnone : operator? (c :: rest) = none := by
    simp only [List.mem_cons, List.not_mem_nil, or_false] at hc
    rcases hc with rfl | rfl | rfl <;> rfl
  refine scan_delimiter n ?_ hnone
  simp only [List.mem_cons, List.not_mem_nil, or_false] at hc
  rcases hc with rfl | rfl | rfl <;> decide

/-- The characters of a word are letters, numbers and underscores. -/
theorem IsWord.isWordChar {word : List Char} (hword : IsWord word) {d : Char} (hd : d ∈ word) :
    isWordChar d = true := by
  cases word with
  | nil => cases hd
  | cons c cs =>
    obtain ⟨-, halpha, hcs⟩ := hword
    rcases List.mem_cons.mp hd with rfl | hd
    · simp [Text.isWordChar, isAlphanumeric, halpha]
    · exact List.all_eq_true.mp hcs d hd

/-- A lexeme that is an identifier is a word that is not reserved. -/
theorem isWord_of_lexeme? {c : Char} {cs lexeme : List Char}
    (h : lexeme? c cs = some (.identifier, lexeme)) :
    IsWord lexeme ∧ wordSymbol lexeme = .identifier := by
  simp only [lexeme?] at h
  split at h
  · cases h
  · rename_i hblank
    split at h
    · rename_i halpha
      obtain ⟨hsymbol, rfl⟩ := Prod.mk.inj (Option.some.inj h)
      exact ⟨⟨Bool.not_eq_true _ ▸ hblank, halpha, List.all_takeWhile⟩, hsymbol⟩
    · split at h
      · cases h
      · split at h
        · cases h
        · split at h <;> cases h

/-- An identifier among the tokens of a line is a word that is not reserved. -/
theorem isWord_of_mem_scan {n skip : Nat} {cs : List Char} {t : Token} (ht : t ∈ scan n skip cs)
    (hsymbol : t.symbol = .identifier) :
    IsWord t.text.toList ∧ wordSymbol t.text.toList = .identifier := by
  induction cs generalizing skip with
  | nil => cases skip <;> cases ht
  | cons c cs ih =>
    cases skip with
    | succ skip => exact ih ht
    | zero =>
      simp only [scan] at ht
      cases hlexeme : lexeme? c cs with
      | none => exact ih (by simpa only [hlexeme] using ht)
      | some x =>
        obtain ⟨symbol, lexeme⟩ := x
        simp only [hlexeme, List.mem_cons] at ht
        rcases ht with rfl | ht
        · obtain rfl : symbol = .identifier := hsymbol
          simpa [tokenText] using isWord_of_lexeme? hlexeme
        · exact ih ht

theorem mem_keywords (k : Keyword) : k ∈ Keyword.all := by cases k <;> decide

/-- Every reserved word is a word, and recognised by its spelling. -/
theorem isWord_spelling (k : Keyword) :
    IsWord k.spelling.toList ∧ wordSymbol k.spelling.toList = .keyword k := by
  have hall : ∀ k ∈ Keyword.all,
      IsWord k.spelling.toList ∧ wordSymbol k.spelling.toList = .keyword k := by decide +kernel
  exact hall k (mem_keywords k)

/-- Before the first hyphen no comment begins. -/
theorem beforeComment_append {cs : List Char} (hcs : '-' ∉ cs) (rest : List Char) :
    beforeComment (cs ++ rest) = cs ++ beforeComment rest := by
  induction cs with
  | nil => rfl
  | cons c cs ih =>
    obtain ⟨hc, hcs⟩ := not_or.mp (List.mem_cons.not.mp hcs)
    rw [List.cons_append, beforeComment.eq_3 _ _ fun _ h _ => hc h.symm, ih hcs, List.cons_append]

theorem beforeComment_eq_self {cs : List Char} (hcs : '-' ∉ cs) : beforeComment cs = cs := by
  simpa [beforeComment] using beforeComment_append hcs []

/-- A text without hyphens and line ends is all code. -/
theorem code_eq_self {cs : List Char} (hcs : ∀ c ∈ ['-', '\n', '\r'], c ∉ cs) :
    code cs = cs := by
  rw [code, beforeComment_eq_self (hcs '-' (by simp)), List.reverse_eq_iff]
  refine List.dropWhile_eq_self_iff.mpr fun hlength hend => ?_
  have hmem : cs.reverse[0] ∈ cs := List.mem_reverse.mp (List.getElem_mem hlength)
  rcases Bool.or_eq_true_iff.mp hend with h | h
  · exact hcs '\n' (by simp) (beq_iff_eq.mp h ▸ hmem)
  · exact hcs '\r' (by simp) (beq_iff_eq.mp h ▸ hmem)

/-- A character in front of no comment is kept, whatever follows a later one that is no
hyphen. -/
theorem beforeComment_cons_append {c : Char} {cs : List Char}
    (hne : ∀ rest, c = '-' → cs = '-' :: rest → False) {d : Char} (hd : d ≠ '-')
    (rest : List Char) :
    beforeComment (c :: (cs ++ d :: rest)) = c :: beforeComment (cs ++ d :: rest) := by
  rw [beforeComment]
  rintro tail rfl hcs
  cases cs with
  | nil => simp_all
  | cons e es => exact hne es rfl (by simp_all)

/-- A character at the end of a line is cut off with its comment, or follows its code. -/
theorem beforeComment_append_singleton (cs : List Char) {d : Char} (hd : d ≠ '-') :
    beforeComment (cs ++ [d]) = beforeComment cs ∨
      beforeComment (cs ++ [d]) = beforeComment cs ++ [d] := by
  fun_induction beforeComment cs with
  | case1 => exact Or.inr (by simp [beforeComment])
  | case2 => exact Or.inl rfl
  | case3 c cs hne ih =>
    rw [List.cons_append, beforeComment_cons_append hne hd, List.cons_append]
    exact ih.imp (congrArg (c :: ·)) (congrArg (c :: ·))

/-- A comment behind a character that is no hyphen is cut off there. -/
theorem beforeComment_append_comment (cs : List Char) {d : Char} (hd : d ≠ '-')
    (text : List Char) :
    beforeComment (cs ++ d :: '-' :: '-' :: text) = beforeComment (cs ++ [d]) := by
  fun_induction beforeComment cs with
  | case1 => simp [beforeComment, hd]
  | case2 => rfl
  | case3 c cs hne ih =>
    rw [List.cons_append, beforeComment_cons_append hne hd, ih, List.cons_append,
      beforeComment_cons_append hne hd]

/-- A carriage return at the end of a line is no part of its code. -/
theorem code_dropReturn (line : List Char) : code (dropReturn line) = code line := by
  rw [dropReturn]
  split
  · rename_i hlast
    obtain ⟨cs, rfl⟩ := List.getLast?_eq_some_iff.mp hlast
    rw [List.dropLast_concat, code, code]
    rcases beforeComment_append_singleton cs (d := '\r') (by decide) with h | h
    · rw [h]
    · rw [h, List.reverse_append, List.reverse_singleton, List.singleton_append]
      simp
  · rfl

end CompileOrder.Lexer
