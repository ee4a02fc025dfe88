import CompileOrder.Proofs.DesignUnit.Boundaries

/-!
# Where package instantiations end

A package made by instantiation is closed by any line at whose end the last token read for it
is a semicolon. So it ends at the line of its first semicolon if no other token follows on
that line; otherwise it stays open, and the lines after it are taken in until one of them ends
in a semicolon.
-/

namespace CompileOrder

/-- The last token is a semicolon. -/
def EndsInSemicolon (tokens : List Token) : Prop :=
  ∃ t ∈ tokens.getLast?, t.symbol = .delimiter ';'

/-- One of the tokens is a semicolon. -/
def HasSemicolon (tokens : List Token) : Prop := ∃ t ∈ tokens, t.symbol = .delimiter ';'

theorem EndsInSemicolon.hasSemicolon {tokens : List Token} (h : EndsInSemicolon tokens) :
    HasSemicolon tokens :=
  let ⟨t, ht, hsymbol⟩ := h
  ⟨t, List.mem_of_getLast? ht, hsymbol⟩

instance : DecidablePred HasSemicolon := fun tokens =>
  inferInstanceAs (Decidable (∃ t ∈ tokens, t.symbol = .delimiter ';'))

/-- A package made by instantiation is closed exactly when its tokens end in a semicolon. -/
theorem OpenUnit.isClosed_iff_of_instantiates {o : OpenUnit} (ho : o.instantiates = true) :
    o.isClosed = true ↔ EndsInSemicolon o.tokens := by
  rw [isClosed, EndsInSemicolon]
  cases o.tokens.getLast? with
  | none => simp
  | some last => simp [ho, Token.isDelimiter]

namespace Extractor

variable {x : Extractor} {line : String} {h : Header} {tokens : List Token} {n : Nat}

/-- With the tokens of further lines, a package made by instantiation is closed exactly when
these tokens end in a semicolon. -/
theorem isClosed_instantiation (hnew : h.instantiates = true) (lines : List String) :
    ((x.opening line h tokens).through n lines).isClosed = true ↔
      EndsInSemicolon (tokens ++ Lexer.tokenizeFrom n lines) :=
  OpenUnit.isClosed_iff_of_instantiates (o := (x.opening line h tokens).through n lines) hnew

end Extractor

open Extractor

/-- A package made by instantiation ends at the first line, counted from its header on, at
whose end the last token read for it is a semicolon; if no line is such, it is left open when
the file ends. So it ends at the line of its first semicolon exactly if no token follows the
last semicolon of that line. -/
theorem instantiation_boundaries (file library : String) (before : List String) (line : String)
    (after : List String) {h : Header} {tokens : List Token}
    (hopens : (before.foldl feed (start file library)).Opens line h tokens)
    (hnew : h.instantiates = true) :
    let lines := before ++ line :: after
    let first := before.length + 1
    let read := fun l => tokens ++ Lexer.tokenizeFrom (first + 1) (after.take (l - first))
    let ends := {l | first ≤ l ∧ l ≤ lines.length ∧ EndsInSemicolon (read l)}
    let found := fun l =>
      ∃ u ∈ (extractLines lines file library).units, u.OpenedBy h first ∧ u.endLine = l
    (∀ l, found l ↔ IsLeast ends l) ∧
      ((∃ u, (extractLines lines file library).unterminated = some u ∧ u.OpenedBy h first) ↔
        ends = ∅) ∧
      ∀ l, IsLeast {l | first ≤ l ∧ l ≤ lines.length ∧ HasSemicolon (read l)} l →
        (found l ↔ EndsInSemicolon (read l)) := by
  intro lines first read ends found
  obtain ⟨hfound, hopen⟩ : (∀ l, found l ↔ IsLeast ends l) ∧ (_ ↔ ends = ∅) :=
    boundaries_of_closing file library before line after hopens fun _ => isClosed_instantiation hnew
  refine ⟨hfound, hopen, fun l hl => ?_⟩
  rw [hfound l]
  constructor
  · exact fun hleast => hleast.1.2.2
  · intro hend
    exact ⟨⟨hl.1.1, hl.1.2.1, hend⟩, fun j hj => hl.2 ⟨hj.1, hj.2.1, hj.2.2.hasSemicolon⟩⟩

namespace LateEnd

/-- An instantiation whose semicolon is the last token of the second line. -/
def after : List String := ["generic map (8); -- done", "package r is new work.gen;"]

/-- Its header. -/
def header : Header := ⟨.package, "Q", true⟩

/-- The tokens of its first line. -/
def tokens : List Token :=
  [⟨.keyword .PACKAGE, "PACKAGE", 2⟩, ⟨.identifier, "q", 2⟩, ⟨.keyword .IS, "IS", 2⟩,
    ⟨.keyword .NEW, "NEW", 2⟩, ⟨.identifier, "gen", 2⟩]

theorem opens :
    (["library ieee;"].foldl feed (start "f" "l")).Opens "package q is new gen" header tokens where
  idle := by decide +kernel
  rest_eq := by decide +kernel
  header := by decide +kernel

/-- A semicolon that no token follows on its line ends the package there. -/
theorem package_ends_at_semicolon :
    (["library ieee;"].foldl feed (start "f" "l")).Opens "package q is new gen" header tokens ∧
      header.instantiates = true ∧
      IsLeast {l | 2 ≤ l ∧ l ≤ 4 ∧
        EndsInSemicolon (tokens ++ Lexer.tokenizeFrom 3 (after.take (l - 2)))} 3 := by
  have hfound : ⟨.package, "Q", "L", "f", 2, 3, ["IEEE"], { entries := [] }⟩ ∈
      (extractLines (["library ieee;"] ++ "package q is new gen" :: after) "f" "l").units := by
    decide +kernel
  have hleast := ((instantiation_boundaries "f" "l" ["library ieee;"] "package q is new gen" after
    opens rfl).1 3).mp ⟨_, hfound, ⟨rfl, rfl, rfl⟩, rfl⟩
  exact ⟨opens, rfl, hleast⟩

/-- A library clause begun behind an instantiation, and an entity. -/
def lines : List String :=
  ["package q is new work.gen; library", "ieee;", "entity e is", "end e;"]

/-- The first semicolon does not end a package if another token follows on its line: the line
after it is taken in as well. -/
theorem package_outlasts_semicolon :
    (start "f" "work").Opens "package q is new work.gen; library" header
        (Lexer.tokenize "package q is new work.gen; library" 1) ∧
      header.instantiates = true ∧
      HasSemicolon (Lexer.tokenize "package q is new work.gen; library" 1) ∧
      ∃ q e, extractLines lines "f" "work" = ⟨[q, e], none⟩ ∧ q.OpenedBy header 1 ∧
        q.endLine = 2 ∧ ∀ u ∈ [q, e], ¬ (u.OpenedBy header 1 ∧ u.endLine = 1) := by
  have hopens : (start "f" "work").Opens "package q is new work.gen; library" header
      (Lexer.tokenize "package q is new work.gen; library" 1) :=
    ⟨by decide +kernel, by decide +kernel, by decide +kernel⟩
  have hextract : extractLines lines "f" "work" =
      ⟨[⟨.package, "Q", "WORK", "f", 1, 2, [], { entries := [] }⟩,
        ⟨.entity, "E", "WORK", "f", 3, 4, [], { entries := [] }⟩],
        none⟩ := by decide +kernel
  refine ⟨hopens, rfl, by decide +kernel, _, _, hextract, ⟨rfl, rfl, rfl⟩, rfl, ?_⟩
  simp

end LateEnd

end CompileOrder
