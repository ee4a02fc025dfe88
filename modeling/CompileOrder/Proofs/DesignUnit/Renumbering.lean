import CompileOrder.Proofs.DesignUnit.Faithful

/-!
# Renumbered lines and changed tokens

Lines carry their numbers into tokens, and headers and ends carry them into units; nothing
else depends on them. So a step of the extractor commutes with renumbering, with units found
before, and with any change of tokens that the readers do not see: the changed tokens of
renumbered lines lead from the changed state to the changed state.
-/

namespace CompileOrder

variable {f : Nat → Nat}

/-- The token on the line with the new number. -/
def Token.renumber (f : Nat → Nat) (t : Token) : Token := { t with line := f t.line }

/-- The unit with the new numbers of its first and last line. -/
def DesignUnit.renumber (f : Nat → Nat) (u : DesignUnit) : DesignUnit :=
  { u with beginLine := f u.beginLine, endLine := f u.endLine }

/-- The open unit with the new numbers of its lines. -/
def OpenUnit.renumber (f : Nat → Nat) (o : OpenUnit) : OpenUnit :=
  { o with unit := o.unit.renumber f, tokens := o.tokens.map (Token.renumber f) }

/-- The numbers of lines are not part of what the readers of tokens see. -/
theorem Token.faithful_renumber (f : Nat → Nat) : Faithful (renumber f) :=
  ⟨fun _ => rfl, fun _ => rfl⟩

/-- A line with another number has the same tokens on that line. -/
theorem Lexer.tokenize_renumber (f : Nat → Nat) (line : String) (number : Nat) :
    tokenize line (f number) = (tokenize line number).map (Token.renumber f) := by
  have hscan : ∀ (skip : Nat) (cs : List Char),
      scan (f number) skip cs = (scan number skip cs).map (Token.renumber f) := by
    intro skip cs
    induction cs generalizing skip with
    | nil => cases skip <;> rfl
    | cons c cs ih =>
      cases skip with
      | succ skip => exact ih skip
      | zero =>
        simp only [scan]
        cases lexeme? c cs with
        | none => exact ih 0
        | some x => simp only [List.map_cons, ih]; rfl
  exact hscan 0 (code line.toList)

/-- The open unit with the new numbers of its lines and its tokens changed. -/
def OpenUnit.change (f : Nat → Nat) (g : Token → Token) (o : OpenUnit) : OpenUnit :=
  { o with unit := o.unit.renumber f, tokens := o.tokens.map g }

namespace Extractor

/-- The state with its lines renumbered, its tokens changed and other units found before its
own. -/
def change (x : Extractor) (f : Nat → Nat) (g : Token → Token) (found : List DesignUnit) :
    Extractor :=
  { x with
    lineCount := f x.lineCount
    current := x.current.map (OpenUnit.change f g)
    units := found ++ x.units.map (DesignUnit.renumber f) }

/-- The state with its lines renumbered and other units found before its own. -/
def after (x : Extractor) (f : Nat → Nat) (found : List DesignUnit) : Extractor :=
  { x with
    lineCount := f x.lineCount
    current := x.current.map (OpenUnit.renumber f)
    units := found ++ x.units.map (DesignUnit.renumber f) }

/-- Renumbering the lines of a state renumbers its tokens. -/
theorem after_eq_change (x : Extractor) (found : List DesignUnit) :
    x.after f found = x.change f (Token.renumber f) found := rfl

end Extractor

section
variable {g : Token → Token} (hg : Token.Faithful g)
include hg

namespace OpenUnit

/-- Whether a unit is closed depends neither on the numbers of its lines nor on what the
readers of its tokens do not see. -/
theorem isClosed_change (o : OpenUnit) : (o.change f g).isClosed = o.isClosed := by
  have hend : ∀ ts, (o.change f g).hasEnd ts = o.hasEnd ts := by
    intro ts
    induction ts with
    | nil => rfl
    | cons t ts ih => simp only [hasEnd, ih]; rfl
  have htokens : (o.change f g).tokens = o.tokens.map g := rfl
  have hinstantiates : (o.change f g).instantiates = o.instantiates := rfl
  simp only [isClosed, htokens, hinstantiates, hend, List.getLast?_map]
  cases o.tokens.getLast? with
  | none => rfl
  | some last =>
    simp only [Option.map_some, hg.isDelimiter, ← List.map_dropLast, List.length_map,
      ← List.map_drop, hasEnd_map hg]

/-- A unit closed at the new number of its last line is the renumbered unit. -/
theorem close_change (o : OpenUnit) (line : Nat) :
    (o.change f g).close (f line) = (o.close line).renumber f := by
  have hmine : Instance.mine (o.change f g).tokens = Instance.mine o.tokens :=
    Instance.mine_map hg o.tokens
  simp only [close, hmine]
  rfl

end OpenUnit

namespace Extractor

variable (x : Extractor) (found : List DesignUnit)

theorem advance_change (o : OpenUnit) (ts : List Token) :
    (x.change f g found).advance (o.change f g) (ts.map g) =
      (x.advance o ts).change f g found := by
  have ho : { o.change f g with tokens := (o.change f g).tokens ++ ts.map g } =
      { o with tokens := o.tokens ++ ts }.change f g := by
    simp only [OpenUnit.change, List.map_append]
  have hclose := OpenUnit.close_change (f := f) hg { o with tokens := o.tokens ++ ts } x.lineCount
  simp only [advance, ho, OpenUnit.isClosed_change hg]
  split
  · simp [change, hclose]
  · rfl

omit hg in
theorem foldl_collect_change (cs : List Clause) :
    cs.foldl collect (x.change f g found) = (cs.foldl collect x).change f g found := by
  induction cs generalizing x with
  | nil => rfl
  | cons c cs ih =>
    have hcollect : (x.change f g found).collect c = (x.collect c).change f g found := by
      cases c <;> rfl
    rw [List.foldl_cons, hcollect, ih, List.foldl_cons]

/-- Taking in changed tokens gives the changed state. -/
theorem take_change (ts : List Token) :
    (x.change f g found).take (ts.map g) = (x.take ts).change f g found := by
  have hcurrent : (x.change f g found).current = x.current.map (OpenUnit.change f g) := rfl
  have himply : ∀ (y : Extractor) (h : Header),
      (y.change f g found).implyUse h = (y.implyUse h).change f g found := fun _ _ => rfl
  have hopen : ∀ (y : Extractor) (h : Header),
      (y.change f g found).openUnit h = (y.openUnit h).change f g := fun _ _ => rfl
  simp only [take, hcurrent]
  cases x.current with
  | some o => exact advance_change hg x found o ts
  | none =>
    simp only [Option.map_none, Clause.readAll_map hg, Header.read?_map hg, foldl_collect_change]
    cases Header.read? (Clause.readAll 0 ts).2 with
    | none => rfl
    | some h => simp only [himply, hopen, advance_change hg]

end Extractor

end

namespace Extractor

variable (x : Extractor) (found : List DesignUnit)

/-- Reading a line whose new number is the next one gives the renumbered state. -/
theorem feed_after (line : String) (hf : f (x.lineCount + 1) = f x.lineCount + 1) :
    (x.after f found).feed line = (x.feed line).after f found := by
  have hcount : ({ x.after f found with lineCount := f x.lineCount + 1 } : Extractor) =
      { x with lineCount := x.lineCount + 1 }.change f (Token.renumber f) found := by
    simp only [after_eq_change, change, hf]
  calc (x.after f found).feed line
      = ({ x.after f found with lineCount := f x.lineCount + 1 } : Extractor).take
          (Lexer.tokenize line (f x.lineCount + 1)) := rfl
    _ = ({ x with lineCount := x.lineCount + 1 }.change f (Token.renumber f) found).take
          ((Lexer.tokenize line (x.lineCount + 1)).map (Token.renumber f)) := by
        rw [hcount, ← hf, Lexer.tokenize_renumber f line (x.lineCount + 1)]
    _ = (x.feed line).after f found := take_change (Token.faithful_renumber f) _ found _

/-- What has been found when a file ends is renumbered with the state. -/
theorem finish_change (g : Token → Token) :
    (x.change f g found).finish =
      ⟨found ++ x.finish.units.map (DesignUnit.renumber f),
        x.finish.unterminated.map (DesignUnit.renumber f)⟩ := by
  cases x with
  | mk _ _ _ _ _ current _ => cases current <;> rfl

theorem finish_after :
    (x.after f found).finish =
      ⟨found ++ x.finish.units.map (DesignUnit.renumber f),
        x.finish.unterminated.map (DesignUnit.renumber f)⟩ :=
  finish_change x found (Token.renumber f)

end Extractor

end CompileOrder
