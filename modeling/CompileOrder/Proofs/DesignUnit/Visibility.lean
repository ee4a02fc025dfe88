import CompileOrder.DesignUnit
import CompileOrder.Proofs.Text.Order

/-!
# What clauses make visible

The table of a unit is made from the clauses before it: it mentions the libraries of the
clauses and holds their names, each in its library, all in increasing order. The library
`WORK` is resolved on the way, so the table mentions it only when it is the unit's own.
-/

namespace CompileOrder

/-- Resolved in the library `own`, no library is `WORK` except `own` itself. -/
theorem eq_work_of_resolveWork {own library : String} (h : resolveWork own library = workLibrary) :
    own = workLibrary := by
  rw [resolveWork] at h
  split at h
  · exact h
  · rename_i hne
    exact absurd (beq_iff_eq.mpr h) hne

/-- A library resolved in itself stays what it is. -/
@[simp] theorem resolveWork_self (own : String) : resolveWork own own = own := by
  rw [resolveWork]
  split <;> rfl

namespace UseTable

theorem pairwise_libraries (t : UseTable) : t.libraries.Pairwise (· < ·) :=
  Text.increasing_iff.mp t.libraries_increasing

/-- The table lists exactly what the clauses use, for a unit of the library `own`. -/
structure Lists (t : UseTable) (own : String) (clauses : List UseClause) : Prop where
  /-- The libraries are those of the clauses. -/
  mem_libraries : ∀ l, l ∈ t.libraries ↔ ∃ c ∈ clauses, resolveWork own c.library = l
  /-- The names are those of the clauses, each in its library. -/
  mem_pairs : ∀ l n, (l, n) ∈ t.pairs ↔
    ∃ c ∈ clauses, resolveWork own c.library = l ∧ c.name = some n

/-- The table made from clauses lists exactly what they use. -/
theorem lists_ofClauses (own : String) (clauses : List UseClause) :
    (ofClauses own clauses).Lists own clauses := by
  constructor
  · intro l
    simp [libraries, ofClauses, Function.comp_def]
  · intro l n
    simp only [pairs, ofClauses, List.flatMap_map, List.mem_flatMap, List.mem_map,
      Text.mem_nameSet, List.mem_filterMap]
    constructor
    · rintro ⟨l', -, n', ⟨c, hc, hname⟩, heq⟩
      obtain ⟨rfl, rfl⟩ := Prod.mk.inj heq
      split at hname
      · rename_i hlibrary
        exact ⟨c, hc, beq_iff_eq.mp hlibrary, hname⟩
      · cases hname
    · rintro ⟨c, hc, rfl, hname⟩
      exact ⟨_, ⟨c, hc, rfl⟩, n, ⟨c, hc, by simp [hname]⟩, rfl⟩

end UseTable

end CompileOrder
