import CompileOrder.DesignUnit.Extractor

/-!
# What a line does

A line either goes to a unit, the open one or one whose header it holds, or it only adds to
the clauses kept. The unit it goes to is closed by it or stays open. Whatever else is said
about runs of the extractor rests on these three cases.
-/

namespace CompileOrder

/-- The library names that a clause adds to those kept. -/
def Clause.libraryNames : Clause → List String
  | .library names => names
  | .use _ => []

/-- The use clauses that a clause adds to those kept. -/
def Clause.useClauses : Clause → List UseClause
  | .library _ => []
  | .use clauses => clauses

namespace Extractor

variable {x : Extractor} {line : String} {o : OpenUnit}

/-- Collecting clauses only adds to what is kept. -/
theorem foldl_collect (x : Extractor) (cs : List Clause) :
    cs.foldl collect x =
      { x with
        libraries := x.libraries ++ cs.flatMap Clause.libraryNames
        clauses := x.clauses ++ cs.flatMap Clause.useClauses } := by
  induction cs generalizing x with
  | nil => simp
  | cons c cs ih =>
    rw [List.foldl_cons, ih]
    cases c <;> simp [collect, Clause.libraryNames, Clause.useClauses]

/-- The state in which the line is counted and its clauses are kept. -/
def keeping (x : Extractor) (line : String) : Extractor :=
  (Clause.readAll 0 (Lexer.tokenize line (x.lineCount + 1))).1.foldl collect
    { x with lineCount := x.lineCount + 1 }

/-- The unit that a header on the line opens, with the tokens from the header on. -/
def opening (x : Extractor) (line : String) (h : Header) (tokens : List Token) : OpenUnit :=
  { ((x.keeping line).implyUse h).openUnit h with tokens := tokens }

/-- The line opens a unit by the header `h`; its tokens from the header on are `tokens`. -/
structure Opens (x : Extractor) (line : String) (h : Header) (tokens : List Token) : Prop where
  /-- No unit is open before the line. -/
  idle : x.current = none
  /-- These tokens follow the clauses of the line. -/
  rest_eq : (Clause.readAll 0 (Lexer.tokenize line (x.lineCount + 1))).2 = tokens
  /-- They begin with the header. -/
  header : Header.read? tokens = some h

/-- The unit that the tokens of a line go to, with these tokens. -/
inductive Receives (x : Extractor) (line : String) : OpenUnit → Prop
  /-- The unit that is open is continued. -/
  | continued {o : OpenUnit} (hcurrent : x.current = some o) :
    Receives x line { o with tokens := o.tokens ++ Lexer.tokenize line (x.lineCount + 1) }
  /-- A header opens a unit. -/
  | opened {h : Header} {tokens : List Token} (hopens : x.Opens line h tokens) :
    Receives x line (x.opening line h tokens)

/-- Between two units: none is open and no clause is pending. -/
structure Resting (x : Extractor) : Prop where
  /-- No unit is open. -/
  current : x.current = none
  /-- No library clause is pending. -/
  libraries : x.libraries = []
  /-- No use clause is pending. -/
  clauses : x.clauses = []

section
variable (x : Extractor) (line : String)

@[simp] theorem file_keeping : (x.keeping line).file = x.file := by simp [keeping, foldl_collect]

@[simp] theorem library_keeping : (x.keeping line).library = x.library := by
  simp [keeping, foldl_collect]

@[simp] theorem lineCount_keeping : (x.keeping line).lineCount = x.lineCount + 1 := by
  simp [keeping, foldl_collect]

@[simp] theorem current_keeping : (x.keeping line).current = x.current := by
  simp [keeping, foldl_collect]

@[simp] theorem units_keeping : (x.keeping line).units = x.units := by
  simp [keeping, foldl_collect]

end

@[simp] theorem beginLine_opening (x : Extractor) (line : String) (h : Header)
    (tokens : List Token) : (x.opening line h tokens).unit.beginLine = x.lineCount + 1 := by
  simp only [opening, openUnit, DesignUnit.declare, implyUse, lineCount_keeping]

/-- A line without a header adds its clauses while no unit is open. -/
theorem feed_idle (hcurrent : x.current = none)
    (hread : Header.read? (Clause.readAll 0 (Lexer.tokenize line (x.lineCount + 1))).2 = none) :
    x.feed line = x.keeping line := by
  simp only [feed, take, hcurrent, hread, keeping]

/-- The state when a unit has taken in its tokens: the unit is found and the clauses are
forgotten, or it stays open. -/
def settle (y : Extractor) (o : OpenUnit) : Extractor :=
  if o.isClosed then
    { y with
      current := none
      units := y.units ++ [o.close y.lineCount]
      libraries := []
      clauses := [] }
  else { y with current := some o }

theorem advance_eq (y : Extractor) (o : OpenUnit) (tokens : List Token) :
    y.advance o tokens = y.settle { o with tokens := o.tokens ++ tokens } := rfl

theorem feed_continued (hcurrent : x.current = some o) :
    x.feed line = { x with lineCount := x.lineCount + 1 }.settle
      { o with tokens := o.tokens ++ Lexer.tokenize line (x.lineCount + 1) } := by
  simp only [feed, take, hcurrent, advance_eq]

theorem feed_opens {h : Header} {tokens : List Token} (hopens : x.Opens line h tokens) :
    x.feed line = ((x.keeping line).implyUse h).settle (x.opening line h tokens) := by
  simp only [feed, take, hopens.idle, hopens.rest_eq, hopens.header, advance_eq, keeping, opening,
    openUnit, List.nil_append]

/-- A line that goes to no unit stands between units and holds no header. -/
theorem receives_or_idle (x : Extractor) (line : String) :
    (∃ o, x.Receives line o) ∨ (x.current = none ∧ x.feed line = x.keeping line) := by
  cases hcurrent : x.current with
  | some o => exact Or.inl ⟨_, .continued hcurrent⟩
  | none =>
    cases hread : Header.read? (Clause.readAll 0 (Lexer.tokenize line (x.lineCount + 1))).2 with
    | some h => exact Or.inl ⟨_, .opened ⟨hcurrent, rfl, hread⟩⟩
    | none => exact Or.inr ⟨rfl, feed_idle hcurrent hread⟩

/-- The unit that a line goes to is settled in a state with this line counted. -/
theorem Receives.feed_eq (h : x.Receives line o) :
    ∃ y : Extractor, x.feed line = y.settle o ∧ y.units = x.units ∧
      y.lineCount = x.lineCount + 1 ∧ y.file = x.file ∧ y.library = x.library := by
  cases h with
  | continued hcurrent => exact ⟨_, feed_continued hcurrent, rfl, rfl, rfl, rfl⟩
  | opened hopens =>
    refine ⟨_, feed_opens hopens, ?_⟩
    simp only [implyUse, units_keeping, lineCount_keeping, file_keeping, library_keeping, and_self]

/-- What a line does to a unit that it leaves open. -/
theorem Receives.feed_open (h : x.Receives line o) (ho : o.isClosed = false) :
    (x.feed line).current = some o ∧ (x.feed line).units = x.units := by
  obtain ⟨y, hfeed, hunits, -⟩ := h.feed_eq
  simp only [hfeed, settle, ho, Bool.false_eq_true, if_false]
  exact ⟨trivial, hunits⟩

/-- What a line does to a unit that it closes. -/
theorem Receives.feed_closed (h : x.Receives line o) (ho : o.isClosed = true) :
    (x.feed line).Resting ∧ (x.feed line).units = x.units ++ [o.close (x.lineCount + 1)] := by
  obtain ⟨y, hfeed, hunits, hcount, -⟩ := h.feed_eq
  simp only [hfeed, settle, ho, if_true, hunits, hcount]
  exact ⟨⟨rfl, rfl, rfl⟩, trivial⟩

/-- A line that goes to no unit leaves the units alone. -/
theorem feed_of_not_receives (h : ¬ ∃ o, x.Receives line o) :
    x.current = none ∧ (x.feed line).current = none ∧ (x.feed line).units = x.units := by
  obtain ⟨hcurrent, hfeed⟩ := (receives_or_idle x line).resolve_left h
  simp [hfeed, hcurrent]

/-- What a line does to the open unit and the units found: the unit it goes to stays open, or
is closed and found, or there is no such unit. -/
theorem feed_cases (x : Extractor) (line : String) :
    (∃ o, x.Receives line o ∧ o.isClosed = false ∧
      (x.feed line).current = some o ∧ (x.feed line).units = x.units) ∨
    (∃ o, x.Receives line o ∧ o.isClosed = true ∧
      (x.feed line).current = none ∧
      (x.feed line).units = x.units ++ [o.close (x.lineCount + 1)]) ∨
    (x.current = none ∧ (x.feed line).current = none ∧ (x.feed line).units = x.units) := by
  by_cases h : ∃ o, x.Receives line o
  · obtain ⟨o, ho⟩ := h
    cases hclosed : o.isClosed with
    | false => exact Or.inl ⟨o, ho, hclosed, ho.feed_open hclosed⟩
    | true =>
      obtain ⟨hrest, hunits⟩ := ho.feed_closed hclosed
      exact Or.inr (Or.inl ⟨o, ho, hclosed, hrest.current, hunits⟩)
  · exact Or.inr (Or.inr (feed_of_not_receives h))

/-- Each line is counted, and the file and its library stay what they were. -/
theorem feed_same (x : Extractor) (line : String) :
    (x.feed line).lineCount = x.lineCount + 1 ∧ (x.feed line).file = x.file ∧
      (x.feed line).library = x.library := by
  rcases receives_or_idle x line with ⟨o, ho⟩ | ⟨-, hfeed⟩
  · obtain ⟨y, hfeed, -, hsame⟩ := ho.feed_eq
    rw [hfeed, settle]
    split <;> exact hsame
  · simp [hfeed]

@[simp] theorem lineCount_feed (x : Extractor) (line : String) :
    (x.feed line).lineCount = x.lineCount + 1 := (feed_same x line).1

@[simp] theorem file_feed (x : Extractor) (line : String) : (x.feed line).file = x.file :=
  (feed_same x line).2.1

@[simp] theorem library_feed (x : Extractor) (line : String) :
    (x.feed line).library = x.library := (feed_same x line).2.2

/-- What each line preserves is preserved by all lines. -/
theorem foldl_feed_of_feed {P : Extractor → Prop} (hfeed : ∀ x line, P x → P (x.feed line))
    (hx : P x) (lines : List String) : P (lines.foldl feed x) := by
  induction lines generalizing x with
  | nil => exact hx
  | cons line lines ih => exact ih (hfeed x line hx)

@[simp] theorem lineCount_foldl_feed (x : Extractor) (lines : List String) :
    (lines.foldl feed x).lineCount = x.lineCount + lines.length := by
  induction lines generalizing x with
  | nil => rfl
  | cons line lines ih => rw [List.foldl_cons, ih, lineCount_feed, List.length_cons]; omega

@[simp] theorem file_foldl_feed (x : Extractor) (lines : List String) :
    (lines.foldl feed x).file = x.file := by
  induction lines generalizing x with
  | nil => rfl
  | cons line lines ih => rw [List.foldl_cons, ih, file_feed]

@[simp] theorem library_foldl_feed (x : Extractor) (lines : List String) :
    (lines.foldl feed x).library = x.library := by
  induction lines generalizing x with
  | nil => rfl
  | cons line lines ih => rw [List.foldl_cons, ih, library_feed]

/-- No line takes back a unit that was found. -/
theorem units_prefix_feed (x : Extractor) (line : String) : x.units <+: (x.feed line).units := by
  rcases feed_cases x line with ⟨_, _, _, _, hunits⟩ | ⟨_, _, _, _, hunits⟩ | ⟨_, _, hunits⟩
  · exact hunits ▸ List.prefix_rfl
  · exact hunits ▸ List.prefix_append _ _
  · exact hunits ▸ List.prefix_rfl

theorem units_prefix_foldl_feed (x : Extractor) (lines : List String) :
    x.units <+: (lines.foldl feed x).units := by
  induction lines generalizing x with
  | nil => exact List.prefix_rfl
  | cons line lines ih => exact (units_prefix_feed x line).trans (ih (x.feed line))

end Extractor

end CompileOrder
