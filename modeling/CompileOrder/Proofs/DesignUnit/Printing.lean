import CompileOrder.Proofs.DesignUnit.Ending
import CompileOrder.Proofs.Text.Split
import CompileOrder.Proofs.Token.Scanning

/-!
# Printed units

A unit is written as one line for each context clause, a line with its header, the lines of
its body and a line with its end. The lines other than those of the body are put together
from words and punctuation, and each is read back as what it was written for: a clause as
that clause, the header line as the header, and the end line as an end of one of the
accepted forms.
-/

namespace CompileOrder.Written

/-- A name as it is written: a text that is read as one identifier. -/
structure Name where
  /-- The characters of the name. -/
  text : String
  /-- They are one lexeme, an identifier. -/
  lexes : Lexer.tokenize text 1 = [⟨.identifier, text, 1⟩]

/-- A name is a word that is not reserved. -/
theorem Name.isWord (a : Name) :
    Lexer.IsWord a.text.toList ∧ Lexer.wordSymbol a.text.toList = .identifier := by
  have hmem : (⟨.identifier, a.text, 1⟩ : Token) ∈ Lexer.tokenize a.text 1 := by simp [a.lexes]
  exact Lexer.isWord_of_mem_scan hmem rfl

/-- A lexeme of a written line. -/
inductive Piece where
  /-- A reserved word. -/
  | word (k : Keyword)
  /-- A name. -/
  | name (a : Name)
  /-- A comma. -/
  | comma
  /-- A semicolon. -/
  | semicolon
  /-- The point of a selected name. -/
  | point

namespace Piece

/-- The characters of a piece. -/
def text : Piece → String
  | word k => k.spelling
  | name a => a.text
  | comma => ","
  | semicolon => ";"
  | point => "."

/-- What a piece stands for. -/
def symbol : Piece → Symbol
  | word k => .keyword k
  | name _ => .identifier
  | comma => .delimiter ','
  | semicolon => .delimiter ';'
  | point => .delimiter '.'

/-- Whether a piece is a reserved word or a name. -/
def isWord : Piece → Bool
  | word _ | name _ => true
  | comma | semicolon | point => false

/-- The token of a piece on the line with this number. -/
def token (number : Nat) (p : Piece) : Token := ⟨p.symbol, p.text, number⟩

/-- The characters of the pieces, with a blank between two words; `after` says whether
they follow a word. -/
def charsAfter : Bool → List Piece → List Char
  | _, [] => []
  | after, p :: ps =>
    (if after && p.isWord then [' '] else []) ++ p.text.toList ++ charsAfter p.isWord ps

/-- The line that the pieces make up. -/
def line (ps : List Piece) : String := String.ofList (charsAfter false ps)

/-- A piece is a word, or one of three punctuation characters. -/
theorem word_or_mark (p : Piece) :
    (p.isWord = true ∧ Lexer.IsWord p.text.toList ∧ Lexer.wordSymbol p.text.toList = p.symbol ∧
        Lexer.tokenText p.symbol p.text.toList = p.text) ∨
      (p.isWord = false ∧ ∃ c ∈ [',', ';', '.'], p.text = String.ofList [c] ∧
        p.symbol = .delimiter c) := by
  cases p with
  | word k =>
    obtain ⟨hword, hsymbol⟩ := Lexer.isWord_spelling k
    exact Or.inl ⟨rfl, hword, hsymbol, rfl⟩
  | name a =>
    obtain ⟨hword, hsymbol⟩ := a.isWord
    exact Or.inl ⟨rfl, hword, hsymbol, String.ofList_toList⟩
  | comma => exact Or.inr ⟨rfl, ',', by simp, rfl, rfl⟩
  | semicolon => exact Or.inr ⟨rfl, ';', by simp, rfl, rfl⟩
  | point => exact Or.inr ⟨rfl, '.', by simp, rfl, rfl⟩

/-- After a word, no character follows that could be part of it. -/
theorem isWordChar_head?_charsAfter (ps : List Piece) :
    ∀ d ∈ (charsAfter true ps).head?, Text.isWordChar d = false := by
  cases ps with
  | nil => simp [charsAfter]
  | cons p ps =>
    rcases p.word_or_mark with ⟨hp, -⟩ | ⟨hp, c, hc, htext, -⟩
    · simp only [charsAfter, hp, Bool.and_self, if_true, List.cons_append, List.head?_cons,
        Option.mem_some_iff, forall_eq']
      decide
    · simp only [charsAfter, hp, htext, Bool.and_false, Bool.false_eq_true, if_false,
        String.toList_ofList, List.nil_append, List.cons_append, List.head?_cons,
        Option.mem_some_iff, forall_eq']
      simp only [List.mem_cons, List.not_mem_nil, or_false] at hc
      rcases hc with rfl | rfl | rfl <;> decide

/-- The pieces are read back one by one. -/
theorem scan_charsAfter (number : Nat) (after : Bool) (ps : List Piece) :
    Lexer.scan number 0 (charsAfter after ps) = ps.map (token number) := by
  induction ps generalizing after with
  | nil => rfl
  | cons p ps ih =>
    have hpiece : Lexer.scan number 0 (p.text.toList ++ charsAfter p.isWord ps) =
        p.token number :: ps.map (token number) := by
      rcases p.word_or_mark with ⟨hp, hword, hsymbol, htext⟩ | ⟨hp, c, hc, htext, hsymbol⟩
      · rw [hp, Lexer.scan_word hword (isWordChar_head?_charsAfter ps), hsymbol, htext, ih, token]
      · rw [htext, String.toList_ofList, List.singleton_append, Lexer.scan_mark number hc, ih,
          token, htext, hsymbol]
    rw [charsAfter, List.append_assoc]
    split
    · rw [List.singleton_append, Lexer.scan_space, hpiece, List.map_cons]
    · rw [List.nil_append, hpiece, List.map_cons]

/-- A line of pieces holds no hyphen and no line end. -/
theorem not_mem_charsAfter (after : Bool) (ps : List Piece) :
    ∀ c ∈ ['-', '\n', '\r'], c ∉ charsAfter after ps := by
  intro c hc
  have hclass : c ∉ [' '] ∧ Text.isWordChar c = false ∧ c ∉ [',', ';', '.'] := by
    simp only [List.mem_cons, List.not_mem_nil, or_false] at hc
    rcases hc with rfl | rfl | rfl <;> decide
  obtain ⟨hspace, hnotword, hnotmark⟩ := hclass
  induction ps generalizing after with
  | nil => exact List.not_mem_nil
  | cons p ps ih =>
    have hpiece : c ∉ p.text.toList := by
      rcases p.word_or_mark with ⟨-, hword, -⟩ | ⟨-, d, hd, htext, -⟩
      · intro hmem
        exact absurd (hword.isWordChar hmem) (by simp [hnotword])
      · rw [htext, String.toList_ofList, List.mem_singleton]
        rintro rfl
        exact hnotmark hd
    simp only [charsAfter, List.mem_append, not_or]
    refine ⟨⟨?_, hpiece⟩, ih p.isWord⟩
    split
    · exact hspace
    · exact List.not_mem_nil

/-- A written line is read back as the tokens of its pieces. -/
theorem tokenize_line (ps : List Piece) (number : Nat) :
    Lexer.tokenize (line ps) number = ps.map (token number) := by
  rw [Lexer.tokenize, line, String.toList_ofList,
    Lexer.code_eq_self (not_mem_charsAfter false ps), scan_charsAfter]

/-- A written line is a single line. -/
theorem not_mem_line (ps : List Piece) : '\n' ∉ (line ps).toList := by
  rw [line, String.toList_ofList]
  exact not_mem_charsAfter false ps '\n' (by simp)

end Piece

/-- A selected name of a use clause. -/
inductive SelectedName where
  /-- `lib.all` -/
  | library (lib : Name)
  /-- `lib.unit` -/
  | unit (lib name : Name)
  /-- `lib.unit.item` -/
  | item (lib name inner : Name)
  /-- `lib.unit.all` -/
  | everything (lib name : Name)

namespace SelectedName

/-- How the selected name is written. -/
def pieces : SelectedName → List Piece
  | library lib => [.name lib, .point, .word .ALL]
  | unit lib name => [.name lib, .point, .name name]
  | item lib name inner => [.name lib, .point, .name name, .point, .name inner]
  | everything lib name => [.name lib, .point, .name name, .point, .word .ALL]

/-- What the selected name makes visible. -/
def meaning : SelectedName → UseClause
  | library lib => ⟨Text.upper lib.text, none⟩
  | unit lib name | item lib name _ | everything lib name =>
    ⟨Text.upper lib.text, some (Text.upper name.text)⟩

theorem selectedName?_tokens (number : Nat) (s : SelectedName) :
    CompileOrder.Clause.selectedName? (s.pieces.map (Piece.token number)) = some s.meaning := by
  cases s <;> rfl

end SelectedName

/-- A context clause: at least one library or selected name. -/
inductive Clause where
  /-- `library first, more;` -/
  | library (first : Name) (more : List Name)
  /-- `use first, more;` -/
  | use (first : SelectedName) (more : List SelectedName)

namespace Clause

/-- The word that begins the clause. -/
def word : Clause → Keyword
  | library _ _ => .LIBRARY
  | use _ _ => .USE

/-- The items between the commas. -/
def items : Clause → List (List Piece)
  | library first more => (first :: more).map fun a => [.name a]
  | use first more => (first :: more).map SelectedName.pieces

/-- The items with commas between them. -/
def body (c : Clause) : List Piece := Text.joinWith [.comma] c.items

/-- How the clause is written. -/
def pieces (c : Clause) : List Piece := .word c.word :: (c.body ++ [.semicolon])

/-- The libraries or names that the clause makes visible. -/
def meaning : Clause → CompileOrder.Clause
  | library first more => .library ((first :: more).map fun a => Text.upper a.text)
  | use first more => .use ((first :: more).map SelectedName.meaning)

/-- No item holds a comma or a semicolon. -/
theorem symbol_ne_of_mem_items (c : Clause) : ∀ item ∈ c.items, ∀ p ∈ item,
    p.symbol ≠ .delimiter ',' ∧ p.symbol ≠ .delimiter ';' := by
  intro item hitem
  cases c with
  | library first more =>
    obtain ⟨a, -, rfl⟩ := List.mem_map.mp hitem
    simp [Piece.symbol]
  | use first more =>
    obtain ⟨s, -, rfl⟩ := List.mem_map.mp hitem
    cases s <;> simp [SelectedName.pieces, Piece.symbol]

/-- The items are found again between the commas. -/
theorem items?_tokens (number : Nat) (c : Clause) :
    CompileOrder.Clause.items? ((c.body ++ [Piece.semicolon]).map (Piece.token number)) =
      some (c.items.map (List.map (Piece.token number)), c.body.length + 1) := by
  have hsemicolon : ∀ p ∈ c.body, p.symbol ≠ .delimiter ';' := by
    intro p hp
    rcases Text.mem_joinWith hp with hp | ⟨item, hitem, hp⟩
    · rw [List.mem_singleton.mp hp]
      decide
    · exact (c.symbol_ne_of_mem_items item hitem p hp).2
  have hbody : ((c.body ++ [Piece.semicolon]).map (Piece.token number)).takeWhile
      (fun t => !t.isDelimiter ';') = c.body.map (Piece.token number) := by
    rw [List.map_append, List.takeWhile_append_of_pos]
    · exact List.append_nil _
    · intro t ht
      obtain ⟨p, hp, rfl⟩ := List.mem_map.mp ht
      simpa [Token.isDelimiter, Piece.token] using hsemicolon p hp
  have hsplit : Text.splitAt (Token.isDelimiter ',') (c.body.map (Piece.token number)) =
      c.items.map (List.map (Piece.token number)) := by
    rw [Text.splitAt_map (p := fun p => p.symbol == .delimiter ',') (fun _ => rfl), body,
      Text.splitAt_joinWith (by rfl)]
    · cases c <;> exact List.cons_ne_nil _ _
    · intro item hitem p hp
      exact beq_eq_false_iff_ne.mpr (c.symbol_ne_of_mem_items item hitem p hp).1
  simp only [CompileOrder.Clause.items?, hbody, hsplit, List.length_map, List.length_append,
    List.length_singleton, Nat.lt_succ_self, if_true]

/-- A written clause is read back as what it means. -/
theorem read?_tokens (number : Nat) (c : Clause) :
    CompileOrder.Clause.read? ((Piece.word c.word).token number)
        ((c.body ++ [Piece.semicolon]).map (Piece.token number)) =
      some (c.meaning, c.body.length + 1) := by
  simp only [CompileOrder.Clause.read?, items?_tokens, Option.bind_eq_bind, Option.bind_some]
  cases c with
  | library first more =>
    have hnames : ((library first more).items.map (List.map (Piece.token number))).mapM
        CompileOrder.Clause.libraryName? =
          some ((first :: more).map fun a => Text.upper a.text) := by
      rw [items, List.map_map, List.mapM_map]
      exact List.mapM_pure
    rw [hnames]
    rfl
  | use first more =>
    have hnames : ((use first more).items.map (List.map (Piece.token number))).mapM
        CompileOrder.Clause.selectedName? = some ((first :: more).map SelectedName.meaning) := by
      rw [items, List.map_map, List.mapM_map]
      simp only [Function.comp_def, SelectedName.selectedName?_tokens]
      exact List.mapM_pure
    rw [hnames]
    rfl

/-- The line of a clause holds the clause and nothing else. -/
theorem readAll_tokens (number : Nat) (c : Clause) :
    CompileOrder.Clause.readAll 0 (c.pieces.map (Piece.token number)) = ([c.meaning], []) := by
  have hskip : ∀ ts : List Token, CompileOrder.Clause.readAll ts.length ts = ([], []) := by
    intro ts
    induction ts with
    | nil => rfl
    | cons t ts ih => exact ih
  have hrest := hskip ((c.body ++ [Piece.semicolon]).map (Piece.token number))
  rw [List.length_map, List.length_append, List.length_singleton] at hrest
  simp only [pieces, List.map_cons, CompileOrder.Clause.readAll, read?_tokens, hrest]

end Clause

/-- The header of a unit. -/
inductive Heading where
  /-- `entity name is` -/
  | entity (name : Name)
  /-- `architecture name of owner is` -/
  | architecture (name owner : Name)
  /-- `package name is` -/
  | package (name : Name)
  /-- `package body name is` -/
  | packageBody (name : Name)

namespace Heading

/-- How the header is written. -/
def pieces : Heading → List Piece
  | entity name => [.word .ENTITY, .name name, .word .IS]
  | architecture name owner =>
    [.word .ARCHITECTURE, .name name, .word .OF, .name owner, .word .IS]
  | package name => [.word .PACKAGE, .name name, .word .IS]
  | packageBody name => [.word .PACKAGE, .word .BODY, .name name, .word .IS]

/-- What the header opens. -/
def meaning : Heading → Header
  | entity name => ⟨.entity, Text.upper name.text, false⟩
  | architecture name owner =>
    ⟨.architecture (Text.upper name.text) [], Text.upper owner.text, false⟩
  | package name => ⟨.package, Text.upper name.text, false⟩
  | packageBody name => ⟨.packageBody, Text.upper name.text, false⟩

/-- The line of a header begins with no clause, and is read back as what it means. -/
theorem read?_tokens (number : Nat) (h : Heading) :
    CompileOrder.Clause.readAll 0 (h.pieces.map (Piece.token number)) =
        ([], h.pieces.map (Piece.token number)) ∧
      Header.read? (h.pieces.map (Piece.token number)) = some h.meaning := by
  cases h <;> exact ⟨rfl, rfl⟩

/-- The line of a header does not end the unit it opens. -/
theorem not_endsIn_tokens (number : Nat) (h : Heading) :
    ¬ h.meaning.EndsIn (h.pieces.map (Piece.token number)) := by
  rintro ⟨start, e, words, semicolon, htokens, -, -, hsemicolon⟩
  have hlast : (h.pieces.map (Piece.token number)).getLast? = some semicolon := by
    rw [htokens, ← List.cons_append, ← List.append_assoc, List.getLast?_concat]
  have hsymbol : ∀ t ∈ (h.pieces.map (Piece.token number)).getLast?, t.symbol = .keyword .IS := by
    cases h <;> simp [pieces, Piece.token, Piece.symbol]
  exact absurd (hsemicolon.symm.trans (hsymbol semicolon hlast)) (by simp)

end Heading

/-- The words of an end as they are written, with this closing name. -/
def endPart (closing : Name) : EndPart → Piece
  | .word k => .word k
  | .name => .name closing

/-- How an end is written. -/
def endPieces (form : List EndPart) (closing : Name) : List Piece :=
  .word .END :: (form.map (endPart closing) ++ [.semicolon])

/-- The line of an end ends the unit, if its form is accepted and its name is the one that
closes the unit. -/
theorem endsIn_endPieces {h : Header} {form : List EndPart} {closing : Name}
    (hform : form ∈ h.kind.endForms) (hclosing : Text.upper closing.text = h.closingName)
    (start : List Token) (number : Nat) :
    h.EndsIn (start ++ (endPieces form closing).map (Piece.token number)) := by
  refine ⟨start, (Piece.word .END).token number,
    (form.map (endPart closing)).map (Piece.token number), Piece.semicolon.token number, ?_, rfl,
    ⟨form, hform, ?_⟩, rfl⟩
  · simp [endPieces]
  · rw [List.map_map, List.forall₂_map_right_iff, List.forall₂_same]
    intro part _
    cases part with
    | word k => rfl
    | name => exact ⟨rfl, hclosing⟩

end CompileOrder.Written
