import CompileOrder.Proofs.Instance.Shapes
import CompileOrder.Token.Lexer
import Mathlib.Data.List.Nodup

/-!
# Headers before map clauses

At most one header shape fits the end of a row of tokens, so every order of the table reads the
same header. A stretch of tokens holds one instance for each place where a map clause is opened
and a header ends; for that all tokens before the place may be read, however many there are,
although only the nearest ones are looked at.
-/

namespace CompileOrder

/-- A map clause is opened at this position: `port map (` or `generic map (` begins here. -/
def OpensMapAt (tokens : List Token) (i : Nat) : Prop :=
  (tokens[i]?.map (·.symbol) = some (.keyword .PORT) ∨
      tokens[i]?.map (·.symbol) = some (.keyword .GENERIC)) ∧
    tokens[i + 1]?.map (·.symbol) = some (.keyword .MAP) ∧
    tokens[i + 2]?.map (·.symbol) = some (.delimiter '(')

instance (tokens : List Token) : DecidablePred (OpensMapAt tokens) := fun _ =>
  inferInstanceAs (Decidable (_ ∧ _))

/-- The positions at which map clauses are opened, in order. -/
def openings (tokens : List Token) : List Nat :=
  (List.range tokens.length).filter fun i => OpensMapAt tokens i

namespace Shape

/-- At most one place of the table holds a shape that fits the end of a header. -/
theorem length_filter_fits_le_one (header : List Token) :
    (all.filter fun s => s.fits (s.tail header)).length ≤ 1 := by
  have hdistinct : all.Nodup := by decide
  have hfits : ∀ s ∈ all.filter fun s => s.fits (s.tail header),
      s ∈ all ∧ s.symbols <:+ header.map (·.symbol) := by
    intro s hs
    obtain ⟨hs, hfits⟩ := List.mem_filter.mp hs
    exact ⟨hs, (fits_tail_iff s header).mp hfits⟩
  have hfiltered := hdistinct.filter fun s => s.fits (s.tail header)
  generalize all.filter (fun s => s.fits (s.tail header)) = found at hfits hfiltered
  match found with
  | [] | [_] => simp
  | s :: s' :: _ =>
    obtain ⟨hs, hsuffix⟩ := hfits s (by simp)
    obtain ⟨hs', hsuffix'⟩ := hfits s' (by simp)
    have heq := eq_of_suffix hs hs' hsuffix hsuffix'
    simp [heq] at hfiltered

/-- A table with shapes of the table, in any order, reads what one of its shapes reads. -/
theorem findSome?_read?_eq_some_iff {table : List Shape} (htable : ∀ s ∈ table, s ∈ all)
    {header : List Token} {i : Instance} :
    (table.findSome? fun s => s.read? header) = some i ↔ ∃ s ∈ table, s.read? header = some i := by
  constructor
  · exact List.exists_of_findSome?_eq_some
  · rintro ⟨s, hs, hread⟩
    cases hfound : table.findSome? fun s => s.read? header with
    | none =>
      rw [List.findSome?_eq_none_iff.mp hfound s hs] at hread
      cases hread
    | some j =>
      obtain ⟨s', hs', hread'⟩ := List.exists_of_findSome?_eq_some hfound
      obtain rfl := eq_of_suffix (htable s hs) (htable s' hs') (suffix_of_read? hread)
        (suffix_of_read? hread')
      exact hread'.symm.trans hread

/-- The order of the table does not matter. -/
theorem findSome?_read?_of_perm {table : List Shape} (h : table.Perm all) (header : List Token) :
    (table.findSome? fun s => s.read? header) = Instance.ofHeader? header := by
  refine Option.ext fun i => ?_
  rw [findSome?_read?_eq_some_iff (fun s hs => h.mem_iff.mp hs), Instance.ofHeader?,
    findSome?_read?_eq_some_iff (fun s hs => hs)]
  simp only [h.mem_iff]

end Shape

namespace Instance

/-- The tokens at a position open a map clause if their symbols do. -/
theorem opensMap_iff (tokens : List Token) : opensMap tokens = true ↔ OpensMapAt tokens 0 := by
  match tokens with
  | [] | [_] | [_, _] => simp [opensMap, OpensMapAt]
  | a :: b :: c :: _ =>
    simp [opensMap, OpensMapAt, Token.isKeyword, Token.isDelimiter, and_assoc]

/-- From some position on, an instance is found wherever a map clause is opened and the tokens
before it, those before the position included, end in a header. -/
theorem mineFrom_eq (before tokens : List Token) :
    mineFrom before tokens =
      (openings tokens).filterMap fun i => ofHeader? (before.reverse ++ tokens.take i) := by
  induction tokens generalizing before with
  | nil => rfl
  | cons t ts ih =>
    have hpositions : openings (t :: ts) =
        (if OpensMapAt (t :: ts) 0 then [0] else []) ++ (openings ts).map (· + 1) := by
      rw [openings, openings, List.length_cons, List.range_succ_eq_map, List.filter_cons,
        List.filter_map]
      have hnext : ((fun i => decide (OpensMapAt (t :: ts) i)) ∘ Nat.succ) =
          fun i => decide (OpensMapAt ts i) := by
        funext i
        simp [OpensMapAt]
      rw [hnext]
      by_cases hopens : OpensMapAt (t :: ts) 0 <;> simp [hopens]
    have hrest : (openings ts).filterMap
          ((fun i => ofHeader? (before.reverse ++ (t :: ts).take i)) ∘ (· + 1)) =
        mineFrom (t :: before) ts := by
      rw [ih]
      simp [Function.comp_def]
    rw [mineFrom, hpositions, List.filterMap_append, List.filterMap_map, hrest, ofHeader?_window]
    congr 1
    by_cases hopens : OpensMapAt (t :: ts) 0
    · rw [if_pos ((opensMap_iff _).mpr hopens), if_pos hopens]
      cases hheader : ofHeader? before.reverse <;> simp [hheader]
    · rw [if_neg (mt (opensMap_iff _).mp hopens), if_neg hopens]
      rfl

end Instance

/-- Headers are read without ambiguity: at most one of the shapes fits the end of a header, so
the table may stand in any order. And no header is lost to the window: a stretch of tokens holds
the instances that are read from all tokens before each opening of a map clause, in order. -/
theorem headers_read_whole :
    (∀ header : List Token, (Shape.all.filter fun s => s.fits (s.tail header)).length ≤ 1) ∧
      (∀ (header : List Token) (table : List Shape), table.Perm Shape.all →
        (table.findSome? fun s => s.read? header) = Instance.ofHeader? header) ∧
      ∀ tokens : List Token, Instance.mine tokens =
        (openings tokens).filterMap fun i => Instance.ofHeader? (tokens.take i) := by
  refine ⟨Shape.length_filter_fits_le_one, fun header table h => ?_, fun tokens => ?_⟩
  · exact Shape.findSome?_read?_of_perm h header
  · exact Instance.mineFrom_eq [] tokens

/-- The table read backwards, short shapes first, still finds the longest shape that fits. -/
theorem selected_component_backwards :
    Shape.all.reverse.Perm Shape.all ∧
      (Shape.all.reverse.findSome? fun s => s.read? (Lexer.tokenize "begin u : lib.pkg.fifo" 1)) =
        some ⟨"U", some "LIB", .component "FIFO"⟩ := by
  have hperm := Shape.all.reverse_perm
  refine ⟨hperm, (headers_read_whole.2.1 _ _ hperm).trans ?_⟩
  decide +kernel

end CompileOrder
