import CompileOrder.Proofs.DesignUnit.ClauseGrammar
import CompileOrder.Proofs.DesignUnit.Renumbering
import CompileOrder.Proofs.Token.Adjacency

/-!
# Clauses on one line or on several

A clause takes exactly its own tokens, and the semicolon at its end keeps them apart from
whatever is written behind it. So clauses may share a line with each other and with what
follows them: apart from the numbers of lines the extractor reaches the same state as with
each of them on a line of its own.
-/

namespace CompileOrder

namespace Clause

/-- The tokens of a clause begin with its reserved word. -/
theorem Spells.exists_cons {c : Clause} {ts : List Token} (h : Spells c ts) :
    ∃ word more, ts = word :: more := by
  cases h with
  | library => exact ⟨_, _, rfl⟩
  | use => exact ⟨_, _, rfl⟩

/-- The tokens of a clause are those that a clause is read from and that it takes. -/
theorem spells_cons_iff {c : Clause} {word : Token} {ts : List Token} :
    Spells c (word :: ts) ↔ read? word ts = some (c, ts.length) := by
  constructor
  · intro h
    simpa using h.read?_append []
  · intro h
    obtain ⟨ts', more, hts, hlength, hspells⟩ := read?_eq_some_iff.mp h
    have hmore : more = [] := by
      rw [hts, List.length_append] at hlength
      exact List.length_eq_zero_iff.mp (by omega)
    rwa [hts, hmore, List.append_nil]

/-- A clause stays the same when its tokens are changed without a reader seeing it. -/
theorem Spells.map {g : Token → Token} (hg : Token.Faithful g) {c : Clause} {ts : List Token}
    (h : Spells c ts) : Spells c (ts.map g) := by
  obtain ⟨word, ts, rfl⟩ := h.exists_cons
  rw [List.map_cons, spells_cons_iff, read?_map hg, List.length_map]
  exact spells_cons_iff.mp h

/-- Tokens passed over are not read. -/
theorem readAll_skip (ts more : List Token) : readAll ts.length (ts ++ more) = readAll 0 more := by
  induction ts with
  | nil => rfl
  | cons t ts ih => exact ih

/-- A clause at the beginning is the first that is read, and reading goes on behind it. -/
theorem Spells.readAll_append {c : Clause} {ts : List Token} (h : Spells c ts)
    (more : List Token) :
    readAll 0 (ts ++ more) = (c :: (readAll 0 more).1, (readAll 0 more).2) := by
  obtain ⟨word, ts, rfl⟩ := h.exists_cons
  simp only [List.cons_append, readAll, h.read?_append, readAll_skip]

/-- No hyphen stands in a word or in the punctuation of a clause. -/
theorem IsPart.hyphen_not_mem {s : Symbol} {lexeme : List Char} (h : IsPart s)
    (hholds : s.lexemeClass.Holds lexeme) (hreads : s.Reads lexeme) : '-' ∉ lexeme := by
  intro hmem
  rcases h with ⟨k, rfl⟩ | rfl | hmark
  · exact absurd (Lexer.IsWord.isWordChar hholds hmem) (by decide)
  · exact absurd (Lexer.IsWord.isWordChar hholds hmem) (by decide)
  · rcases hmark with rfl | rfl | rfl <;> obtain rfl := hreads <;> exact absurd hmem (by decide)

end Clause

/-- The line holds one clause and no comment. -/
structure IsClauseLine (line : String) : Prop where
  /-- Its tokens are those of a clause. -/
  spells : ∃ c, Clause.Spells c (Lexer.tokenize line 1)
  /-- No two hyphens stand in it in a row. -/
  bare : ¬ ['-', '-'] <:+: line.toList

namespace IsClauseLine

variable {line : String} (h : IsClauseLine line)
include h

/-- The number of the line is not part of the clause. -/
theorem spells_tokenize (n : Nat) : ∃ c, Clause.Spells c (Lexer.tokenize line n) := by
  obtain ⟨c, hc⟩ := h.spells
  have hnumber := Lexer.tokenize_renumber (fun _ => n) line 1
  exact ⟨c, hnumber ▸ hc.map (Token.faithful_renumber _)⟩

/-- The last token of the line is a semicolon. -/
theorem symbol_getLast? (n : Nat) :
    ∀ t ∈ (Lexer.tokenize line n).getLast?, t.symbol = .delimiter ';' := by
  obtain ⟨c, hc⟩ := h.spells_tokenize n
  obtain ⟨body, semicolon, hts, hsemicolon, -⟩ := hc.exists_body
  rw [hts, List.getLast?_concat]
  rintro t ⟨⟩
  exact hsemicolon

/-- Each token of the line is a part of a clause. -/
theorem isPart_symbol {n : Nat} {t : Token} (ht : t ∈ Lexer.tokenize line n) :
    Clause.IsPart t.symbol := by
  obtain ⟨c, hc⟩ := h.spells_tokenize n
  obtain ⟨body, semicolon, hts, hsemicolon, hbody⟩ := hc.exists_body
  rw [hts] at ht
  rcases List.mem_append.mp ht with ht | ht
  · exact hbody t ht
  · rw [List.mem_singleton.mp ht, hsemicolon]
    exact Or.inr (Or.inr (Or.inr (Or.inr rfl)))

/-- No hyphen stands in the line: it is not dropped, and no part of a clause holds one. -/
theorem hyphen_not_mem : '-' ∉ line.toList := by
  intro hmem
  rcases (Lexer.cuts_tokenize h.bare 1).mem_cases hmem with hdropped | ⟨t, ht, lexeme, hlexeme⟩
  · exact absurd hdropped.not_visible (by decide)
  · exact (h.isPart_symbol ht).hyphen_not_mem hlexeme.1 hlexeme.2.1 hlexeme.2.2

/-- The tokens of what is written behind the clause follow those of the clause. -/
theorem tokenize_append (rest : String) (n : Nat) :
    Lexer.tokenize (line ++ rest) n = Lexer.tokenize line n ++ Lexer.tokenize rest n :=
  Lexer.tokenize_append h.hyphen_not_mem (h.symbol_getLast? n) rest

end IsClauseLine

namespace Extractor

/-- The state with every number of a line set to zero. -/
def unnumbered (x : Extractor) : Extractor := x.after (fun _ => 0) []

/-- The states differ in numbers of lines at most. -/
def SameButNumbers (x y : Extractor) : Prop := x.unnumbered = y.unnumbered

variable {x : Extractor} {line : String}

/-- Apart from numbers a line is taken in through its tokens alone. -/
theorem unnumbered_feed (x : Extractor) (line : String) :
    (x.feed line).unnumbered = x.unnumbered.take (Lexer.tokenize line 0) := by
  have htake := take_change (f := fun _ => 0) (Token.faithful_renumber fun _ => 0)
    { x with lineCount := x.lineCount + 1 } [] (Lexer.tokenize line (x.lineCount + 1))
  rw [← Lexer.tokenize_renumber (fun _ => 0) line (x.lineCount + 1)] at htake
  exact htake.symm

/-- A clause opens no unit. -/
@[simp] theorem current_collect (x : Extractor) (c : Clause) :
    (x.collect c).current = x.current := by
  cases c <;> rfl

/-- A clause at the beginning of the tokens is collected before the rest is taken in. -/
theorem take_append {c : Clause} {ts : List Token} (hx : x.current = none)
    (h : Clause.Spells c ts) (more : List Token) :
    x.take (ts ++ more) = (x.collect c).take more := by
  simp only [take, current_collect, hx, h.readAll_append, List.foldl_cons]

/-- Tokens of a clause and nothing else leave no unit open. -/
theorem take_spells {c : Clause} {ts : List Token} (hx : x.current = none)
    (h : Clause.Spells c ts) : x.take ts = x.collect c := by
  have hnil := take_append hx h []
  rw [List.append_nil] at hnil
  rw [hnil]
  simp only [take, current_collect, hx, Clause.readAll, List.foldl_nil]
  rfl

/-- A clause before the rest of a line, or on a line of its own before it. -/
theorem sameButNumbers_feed_append (hx : x.current = none) (hline : IsClauseLine line)
    (rest : String) :
    (x.feed (line ++ rest)).SameButNumbers ((x.feed line).feed rest) := by
  obtain ⟨c, hc⟩ := hline.spells_tokenize 0
  have hx' : x.unnumbered.current = none := by simp [unnumbered, after, hx]
  calc (x.feed (line ++ rest)).unnumbered
      = x.unnumbered.take (Lexer.tokenize line 0 ++ Lexer.tokenize rest 0) := by
        rw [unnumbered_feed, hline.tokenize_append]
    _ = (x.unnumbered.take (Lexer.tokenize line 0)).take (Lexer.tokenize rest 0) := by
        rw [take_append hx' hc, take_spells hx' hc]
    _ = ((x.feed line).feed rest).unnumbered := by
        rw [unnumbered_feed, unnumbered_feed]

/-- After a clause between units no unit is open. -/
theorem current_feed_of_isClauseLine (hx : x.current = none) (hline : IsClauseLine line) :
    (x.feed line).current = none := by
  obtain ⟨c, hc⟩ := hline.spells_tokenize (x.lineCount + 1)
  have htake : x.feed line = ({ x with lineCount := x.lineCount + 1 } : Extractor).collect c :=
    take_spells hx hc
  rw [htake, current_collect]
  exact hx

end Extractor

/-- Exactly what is spelled like a clause is read as that clause, and just its own tokens are
taken. So between units several clauses with anything behind them may stand on one line: apart
from the numbers of lines the state is the one reached with each on a line of its own. -/
theorem clauses_free_of_layout :
    (∀ (word : Token) (rest : List Token) (c : Clause) (taken : Nat),
      Clause.read? word rest = some (c, taken) ↔
        ∃ ts more, rest = ts ++ more ∧ ts.length = taken ∧ Clause.Spells c (word :: ts)) ∧
    ∀ (x : Extractor) (lines : List String) (tail : String), x.current = none →
      (∀ line ∈ lines, IsClauseLine line) →
      (x.feed (String.join lines ++ tail)).SameButNumbers
        ((lines ++ [tail]).foldl Extractor.feed x) := by
  refine ⟨fun _ _ _ _ => Clause.read?_eq_some_iff, fun x lines tail hx hlines => ?_⟩
  induction lines generalizing x with
  | nil =>
    rw [String.join_nil, String.empty_append]
    rfl
  | cons line lines ih =>
    obtain ⟨hline, hlines⟩ := List.forall_mem_cons.mp hlines
    rw [String.join_cons, String.append_assoc]
    exact (Extractor.sameButNumbers_feed_append hx hline _).trans
      (ih (x.feed line) (Extractor.current_feed_of_isClauseLine hx hline) hlines)

/-- Two clauses and a header on one line, of which the clauses have two and three names. -/
theorem clauses_before_header :
    IsClauseLine "library ieee, std;" ∧ IsClauseLine " use ieee.a.all, std.b.c, d.e;" ∧
      ((Extractor.start "top.vhd" "work").feed
        "library ieee, std; use ieee.a.all, std.b.c, d.e;entity top is").SameButNumbers
          ((((Extractor.start "top.vhd" "work").feed "library ieee, std;").feed
            " use ieee.a.all, std.b.c, d.e;").feed "entity top is") := by
  have hlibrary : IsClauseLine "library ieee, std;" :=
    ⟨⟨.library ["IEEE", "STD"], Clause.spells_cons_iff.mpr (by decide +kernel)⟩, by decide +kernel⟩
  have huse : IsClauseLine " use ieee.a.all, std.b.c, d.e;" :=
    ⟨⟨.use [⟨"IEEE", some "A"⟩, ⟨"STD", some "B"⟩, ⟨"D", some "E"⟩],
      Clause.spells_cons_iff.mpr (by decide +kernel)⟩, by decide +kernel⟩
  have hline : String.join ["library ieee, std;", " use ieee.a.all, std.b.c, d.e;"] ++
      "entity top is" = "library ieee, std; use ieee.a.all, std.b.c, d.e;entity top is" := by
    decide +kernel
  have hsame := clauses_free_of_layout.2 (Extractor.start "top.vhd" "work")
    ["library ieee, std;", " use ieee.a.all, std.b.c, d.e;"] "entity top is" rfl
    (List.forall_mem_cons.mpr ⟨hlibrary, List.forall_mem_singleton.mpr huse⟩)
  rw [hline] at hsame
  exact ⟨hlibrary, huse, hsame⟩

end CompileOrder
