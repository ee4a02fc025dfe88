import CompileOrder.Proofs.Token.Relexing

/-!
# Texts behind one another

A semicolon is a lexeme of its own and stands in no other. So a text whose last token is a
semicolon is cut in the same way whatever is written behind it: no lexeme of it could be
longer without reaching over that semicolon.
-/

namespace CompileOrder.Lexer

open Text

/-- A lexeme in which a semicolon stands is that semicolon. -/
theorem eq_singleton_of_semicolon_mem {k : LexemeClass} {cs : List Char} (h : k.Holds cs)
    (hmem : ';' ∈ cs) : cs = [';'] := by
  cases k with
  | word => exact absurd (IsWord.isWordChar h hmem) (by decide)
  | number =>
    obtain ⟨before, sign, after, rfl, hchars, hsign⟩ := IsNumeral.exists_sign h
    simp only [List.mem_append] at hmem hchars
    rcases hmem with (hmem | hmem) | hmem
    · exact absurd (hchars _ (Or.inl hmem)) (by decide)
    · rcases hsign with rfl | rfl | rfl <;> exact absurd hmem (by decide)
    · exact absurd (hchars _ (Or.inr hmem)) (by decide)
  | mark =>
    rcases h with ⟨o, rfl⟩ | ⟨c, rfl, -⟩
    · have hall : ∀ o ∈ Operator.all, ';' ∉ o.spelling.toList := by decide
      exact absurd hmem (hall o (mem_operators o))
    · rw [List.mem_singleton.mp hmem]

section
variable {n : Nat} {cs rest : List Char} {tokens tokens' : List Token}

/-- The character of a delimiter among the tokens stands in the text. -/
theorem Cuts.mem_of_delimiter (h : Cuts n cs tokens) {t : Token} (ht : t ∈ tokens) {c : Char}
    (hsymbol : t.symbol = .delimiter c) : c ∈ cs := by
  induction h with
  | rest => cases ht
  | lexeme _ _ hreads _ ih =>
    rcases List.mem_cons.mp ht with rfl | ht
    · obtain rfl := hsymbol
      obtain rfl := hreads
      simp
    · exact List.mem_append_right _ (List.mem_append_right _ (ih ht))

/-- A character of a text is dropped, or it stands in the lexeme of one of the tokens. -/
theorem Cuts.mem_cases (h : Cuts n cs tokens) {c : Char} (hc : c ∈ cs) :
    IsDropped c ∨ ∃ t ∈ tokens, ∃ lexeme, t.symbol.lexemeClass.Holds lexeme ∧
      t.symbol.Reads lexeme ∧ c ∈ lexeme := by
  induction h with
  | rest hskipped => exact Or.inl (hskipped c hc)
  | @lexeme skipped lexeme rest symbol tokens hskipped hlongest hreads _ ih =>
    rcases List.mem_append.mp hc with hc | hc
    · exact Or.inl (hskipped c hc)
    · rcases List.mem_append.mp hc with hc | hc
      · exact Or.inr ⟨_, List.mem_cons_self, lexeme, hlongest.2.1, hreads, hc⟩
      · exact (ih hc).imp_right fun ⟨t, ht, h⟩ => ⟨t, List.mem_cons_of_mem _ ht, h⟩

/-- A text whose last token is a semicolon keeps its tokens before any other text. -/
theorem Cuts.append (h : Cuts n cs tokens)
    (hlast : ∀ t ∈ tokens.getLast?, t.symbol = .delimiter ';') (hrest : Cuts n rest tokens') :
    Cuts n (cs ++ rest) (tokens ++ tokens') := by
  induction h with
  | rest hskipped => exact hrest.skip hskipped
  | @lexeme skipped lexeme behind symbol tokens hskipped hlongest hreads hbehind ih =>
    have htail : ∀ t ∈ tokens.getLast?, t.symbol = .delimiter ';' := by
      intro t ht
      refine hlast t ?_
      rw [List.getLast?_cons, Option.mem_def.mp ht]
      rfl
    have hsemicolon : ';' ∈ lexeme ++ behind := by
      have hcut := Cuts.lexeme (List.forall_mem_nil _) hlongest hreads hbehind
      obtain ⟨t, ht⟩ : ∃ t, (⟨symbol, symbol.textOf lexeme, n⟩ :: tokens).getLast? = some t :=
        ⟨_, List.getLast?_cons⟩
      exact hcut.mem_of_delimiter (List.mem_of_mem_getLast? ht) (hlast t ht)
    rw [List.append_assoc, List.append_assoc]
    refine .lexeme hskipped ⟨List.prefix_append _ _, hlongest.2.1, ?_⟩ hreads (ih htail)
    intro other hother hholds
    rw [← List.append_assoc] at hother
    rcases Nat.le_total other.length (lexeme ++ behind).length with hshort | hlong
    · exact hlongest.2.2 other
        (List.prefix_of_prefix_length_le hother (List.prefix_append _ _) hshort) hholds
    · have hbegin := List.prefix_of_prefix_length_le (List.prefix_append _ _) hother hlong
      obtain rfl := eq_singleton_of_semicolon_mem hholds (hbegin.subset hsemicolon)
      obtain ⟨c, cs, rfl⟩ := exists_cons_of_holds hlongest.2.1
      exact Nat.succ_le_succ (Nat.zero_le _)

end

/-- A line without a comment is cut as a whole. -/
theorem cuts_tokenize {line : String} (hbare : ¬ ['-', '-'] <:+: line.toList) (n : Nat) :
    Cuts n line.toList (tokenize line n) := by
  obtain ⟨comment, hline, hcomment, -⟩ := beforeComment_spec line.toList
  have hnone : comment = [] := hcomment.resolve_right fun hbegin =>
    hbare (hline ▸ hbegin.isInfix.trans (List.suffix_append _ _).isInfix)
  rw [hnone, List.append_nil] at hline
  rw [tokenize_eq_scan, ← hline]
  exact cuts_scan n 0 line.toList

/-- The tokens of a line without hyphens whose last token is a semicolon are followed by those
of what is written behind it. -/
theorem tokenize_append {line : String} {n : Nat} (hplain : '-' ∉ line.toList)
    (hlast : ∀ t ∈ (tokenize line n).getLast?, t.symbol = .delimiter ';') (rest : String) :
    tokenize (line ++ rest) n = tokenize line n ++ tokenize rest n := by
  have hrest : Cuts n (beforeComment rest.toList) (tokenize rest n) := by
    rw [tokenize_eq_scan]
    exact cuts_scan n 0 (beforeComment rest.toList)
  have hbare : ¬ ['-', '-'] <:+: line.toList := fun hcomment =>
    hplain (hcomment.subset List.mem_cons_self)
  rw [tokenize_eq_scan (line ++ rest), String.toList_append, beforeComment_append hplain]
  exact ((cuts_tokenize hbare n).append hlast hrest).scan_eq

end CompileOrder.Lexer
