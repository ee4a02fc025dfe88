import CompileOrder.Instance.Header
import Mathlib.Data.List.Infix

/-!
# The shapes of a header

A shape is a row of symbols, and a header has the shape if its last tokens have these
symbols. No shape ends another, so at most one of them fits a header, and the order in
which they are tried does not matter. None is longer than the window that is looked at,
so the tokens before the window do not matter either.
-/

namespace CompileOrder

/-- What a token has to stand for to fit the part. -/
def Part.symbol : Part → Symbol
  | .word k => .keyword k
  | .mark c => .delimiter c
  | .label | .library | .package | .target | .architecture => .identifier

theorem Part.fits_iff (p : Part) (t : Token) : p.fits t = true ↔ t.symbol = p.symbol := by
  cases p <;> simp [Part.fits, Part.symbol, Token.isKeyword, Token.isDelimiter, Token.isIdentifier]

namespace Shape

variable {s s' : Shape} {before header : List Token} {i : Instance}

/-- The symbols of the parts. -/
def symbols (s : Shape) : List Symbol := s.parts.map Part.symbol

@[simp] theorem length_symbols (s : Shape) : s.symbols.length = s.parts.length :=
  List.length_map _

/-- Tokens fit a shape if they have its symbols. -/
theorem fits_iff (s : Shape) (ts : List Token) :
    s.fits ts = true ↔ ts.map (·.symbol) = s.symbols := by
  rw [fits, symbols]
  generalize s.parts = parts
  induction parts generalizing ts with
  | nil => cases ts <;> simp
  | cons p parts ih =>
    cases ts with
    | nil => simp
    | cons t ts =>
      have hts := ih ts
      simp only [List.length_cons, List.zip_cons_cons, List.all_cons, List.map_cons,
        List.cons.injEq, Bool.and_eq_true, Part.fits_iff, beq_iff_eq, Nat.add_right_cancel_iff]
        at hts ⊢
      rw [← hts]
      exact and_left_comm

/-- A header is read as a shape only if it ends in the symbols of the shape. -/
theorem fits_tail_iff (s : Shape) (header : List Token) :
    s.fits (s.tail header) = true ↔ s.symbols <:+ header.map (·.symbol) := by
  rw [fits_iff, tail, List.map_drop, List.suffix_iff_eq_drop, List.length_map, length_symbols,
    eq_comm]

/-- Tokens with the symbols of a shape are read as that shape, whatever stands before. -/
theorem read?_append (h : header.map (·.symbol) = s.symbols) (before : List Token) :
    s.read? (before ++ header) = s.build header := by
  have hlength : header.length = s.parts.length := by
    rw [← length_symbols, ← h, List.length_map]
  have htail : s.tail (before ++ header) = header := by
    rw [tail, List.length_append, hlength, Nat.add_sub_cancel, List.drop_left]
  rw [read?, htail, if_pos ((fits_iff s header).mpr h)]

/-- At most one shape fits the end of a row of symbols. -/
theorem eq_of_suffix (hs : s ∈ all) (hs' : s' ∈ all) {symbols : List Symbol}
    (h : s.symbols <:+ symbols) (h' : s'.symbols <:+ symbols) : s = s' := by
  have hall : ∀ s ∈ all, ∀ s' ∈ all, s.symbols <:+ s'.symbols → s = s' := by decide
  rcases List.suffix_or_suffix_of_suffix h h' with h | h
  · exact hall s hs s' hs' h
  · exact (hall s' hs' s hs h).symm

/-- A shape that describes an instance fits. -/
theorem suffix_of_read? (h : s.read? header = some i) : s.symbols <:+ header.map (·.symbol) := by
  rw [read?] at h
  split at h
  · rename_i hfits
    exact (fits_tail_iff s header).mp hfits
  · cases h

/-- No shape is longer than the window. -/
theorem length_le_maxLength (hs : s ∈ all) : s.parts.length ≤ maxLength := by
  have hall : ∀ s ∈ all, s.parts.length ≤ maxLength := by decide
  exact hall s hs

/-- A shape sees nothing before the window. -/
theorem read?_drop (hs : s ∈ all) (header : List Token) :
    s.read? (header.drop (header.length - maxLength)) = s.read? header := by
  have hle := length_le_maxLength hs
  have htail : s.tail (header.drop (header.length - maxLength)) = s.tail header := by
    rw [tail, tail, List.drop_drop, List.length_drop]
    congr 1
    omega
  rw [read?, read?, htail]

end Shape

namespace Instance

open Shape

variable {s : Shape} {header : List Token} {i : Instance}

/-- Tokens with the symbols of a shape are the header that the shape describes, whatever
stands before. -/
theorem ofHeader?_append (hs : s ∈ all) (h : header.map (·.symbol) = s.symbols)
    (hbuild : s.build header = some i) (before : List Token) :
    ofHeader? (before ++ header) = some i := by
  have hread : s.read? (before ++ header) = some i := (read?_append h before).trans hbuild
  cases hfound : ofHeader? (before ++ header) with
  | none =>
    rw [ofHeader?, List.findSome?_eq_none_iff] at hfound
    rw [hfound s hs] at hread
    cases hread
  | some j =>
    obtain ⟨s', hs', hread'⟩ := List.exists_of_findSome?_eq_some hfound
    obtain rfl := eq_of_suffix hs hs' (suffix_of_read? hread) (suffix_of_read? hread')
    exact hread'.symm.trans hread

/-- Where no shape fits there is no header. -/
theorem ofHeader?_eq_none (h : ∀ s ∈ all, ¬ s.symbols <:+ header.map (·.symbol)) :
    ofHeader? header = none := by
  rw [ofHeader?, List.findSome?_eq_none_iff]
  intro s hs
  cases hread : s.read? header with
  | none => rfl
  | some i => exact absurd (suffix_of_read? hread) (h s hs)

/-- The tokens before the window do not matter. -/
theorem ofHeader?_window (before : List Token) :
    ofHeader? (before.take maxLength).reverse = ofHeader? before.reverse := by
  have hwindow : (before.take maxLength).reverse =
      before.reverse.drop (before.reverse.length - maxLength) := by
    rw [List.reverse_take, List.length_reverse]
  rw [hwindow, ofHeader?, ofHeader?, ← List.head?_filterMap, ← List.head?_filterMap,
    List.filterMap_congr fun s hs => read?_drop hs before.reverse]

theorem exists_header_of_mem_mineFrom {before ts : List Token} (hi : i ∈ mineFrom before ts) :
    ∃ s : Shape, ∃ header : List Token, s.fits header = true ∧ s.build header = some i ∧
      ∀ t ∈ header, t ∈ before ∨ t ∈ ts := by
  induction ts generalizing before with
  | nil => cases hi
  | cons t ts ih =>
    rw [mineFrom] at hi
    rcases List.mem_append.mp hi with hi | hi
    · split at hi
      · obtain ⟨s, -, hread⟩ := List.exists_of_findSome?_eq_some (Option.mem_toList.mp hi)
        obtain ⟨hfits, hbuild⟩ := Option.ite_none_right_eq_some.mp hread
        refine ⟨s, _, hfits, hbuild, fun u hu => Or.inl ?_⟩
        exact List.mem_of_mem_take (List.mem_reverse.mp (List.mem_of_mem_drop hu))
      · cases hi
    · obtain ⟨s, header, hfits, hbuild, hmem⟩ := ih hi
      refine ⟨s, header, hfits, hbuild, fun u hu => ?_⟩
      rcases hmem u hu with hu | hu
      · exact (List.mem_cons.mp hu).elim (fun h => Or.inr (h ▸ List.mem_cons_self)) Or.inl
      · exact Or.inr (List.mem_cons_of_mem t hu)

/-- An instance found is described by a fitting header made of the tokens. -/
theorem exists_header_of_mem_mine {ts : List Token} (hi : i ∈ mine ts) :
    ∃ s : Shape, ∃ header : List Token, s.fits header = true ∧ s.build header = some i ∧
      ∀ t ∈ header, t ∈ ts := by
  obtain ⟨s, header, hfits, hbuild, hmem⟩ := exists_header_of_mem_mineFrom hi
  exact ⟨s, header, hfits, hbuild, fun t ht => (hmem t ht).resolve_left List.not_mem_nil⟩

end Instance

end CompileOrder
