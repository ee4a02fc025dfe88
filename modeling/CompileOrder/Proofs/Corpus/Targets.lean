import CompileOrder.Proofs.Corpus.Lookup
import CompileOrder.Proofs.DesignUnit.Visibility

/-!
# Where an instance is looked for

An instance that names a library is looked for there. Otherwise its architecture's own library
comes first, then the libraries of its library clauses, then those that only its use clauses
mention; the first library with an architecture that the instance accepts supplies all targets.
The search walks a list in which a library may stand more than once, but a library without a
match has none the second time either, so only the first mention counts.
-/

namespace CompileOrder

/-- The unit is an architecture, in this library, of the entity that the instance asks for, and
the one it names if it names one. -/
def Instance.Accepts (i : Instance) (library : String) (v : DesignUnit) : Prop :=
  v.isArchitecture = true ∧ v.library = library ∧ v.name = i.target.name ∧
    (i.target.architecture = none ∨ v.architecture? = i.target.architecture)

instance (i : Instance) (library : String) (v : DesignUnit) : Decidable (i.Accepts library v) :=
  inferInstanceAs (Decidable (_ ∧ _ ∧ _ ∧ _))

namespace Corpus

/-- The libraries in which an instance inside `u` is looked for, each once: the one it names, or
the unit's own, those of its library clauses in the order of their first mention, and those that
its use clauses add in increasing order. -/
def searchOrder (u : DesignUnit) (i : Instance) : List String :=
  match i.library with
  | some l => [l]
  | none =>
    let declared := (u.library :: u.libraries).eraseDups
    declared ++ (Text.nameSet u.uses.libraries).filter fun l => !declared.contains l

/-- The corpus has an architecture in the library that the instance accepts. -/
def Offers (c : Corpus) (i : Instance) (library : String) : Prop :=
  ∃ v ∈ c.units, i.Accepts library v

instance (c : Corpus) (i : Instance) (library : String) : Decidable (c.Offers i library) :=
  inferInstanceAs (Decidable (∃ v ∈ c.units, _))

/-- The library is the first of some libraries that offers an architecture. -/
def FirstOffering (c : Corpus) (i : Instance) (order : List String) (library : String) : Prop :=
  c.Offers i library ∧
    ∃ before after, order = before ++ library :: after ∧ ∀ l ∈ before, ¬ c.Offers i l

/-- Leaving out members without a property does not change the first one that has it. -/
theorem find?_filter_of_imp {α : Type} {p q : α → Bool} (h : ∀ x, p x = true → q x = true)
    (xs : List α) : (xs.filter q).find? p = xs.find? p := by
  have hsame : ∀ x, decide (q x = true ∧ p x = true) = p x := by
    intro x
    rw [Bool.eq_iff_iff, decide_eq_true_iff]
    exact and_iff_right_of_imp (h x)
  simp only [List.find?_filter, hsame]

/-- The first member with a property is its own first mention. -/
theorem find?_eraseDups {α : Type} [BEq α] [LawfulBEq α] (p : α → Bool) (xs : List α) :
    xs.eraseDups.find? p = xs.find? p := by
  induction xs using Text.eraseDups_induction with
  | nil => rfl
  | cons x xs ih =>
    rw [List.eraseDups_cons, List.find?_cons, List.find?_cons]
    cases hx : p x with
    | true => rfl
    | false =>
      have hother : ∀ y, p y = true → (!y == x) = true := by
        intro y hy
        have hne : y ≠ x := by
          rintro rfl
          rw [hx] at hy
          cases hy
        simpa using hne
      simp only [ih, find?_filter_of_imp hother]

/-- The libraries on the search path and those in the order of the search have the same first
member with a property. -/
theorem find?_searchPath (u : DesignUnit) (i : Instance)
    (p : String → Bool) : (searchPath u i).find? p = (searchOrder u i).find? p := by
  have hsorted : Text.nameSet u.uses.libraries = u.uses.libraries :=
    (Text.pairwise_nameSet u.uses.libraries).eq_of_mem_iff u.uses.pairwise_libraries (by simp)
  rw [searchPath, searchOrder]
  cases i.library with
  | some l => rfl
  | none =>
    simp only [DesignUnit.referencedLibraries, hsorted]
    rw [← List.cons_append, List.find?_append, List.find?_append, find?_eraseDups]
    cases hfirst : (u.library :: u.libraries).find? p with
    | some l => rfl
    | none =>
      have hnew : ∀ l, p l = true → l ∉ u.library :: u.libraries := fun l hl hmem =>
        List.find?_eq_none.mp hfirst l hmem hl
      have hpath : ∀ l, p l = true → (!u.libraries.contains l) = true := fun l hl => by
        simpa using fun hmem => hnew l hl (List.mem_cons_of_mem _ hmem)
      have horder : ∀ l, p l = true →
          (!(u.library :: u.libraries).eraseDups.contains l) = true := fun l hl => by
        simpa [List.mem_eraseDups] using hnew l hl
      rw [Option.none_or, Option.none_or, find?_filter_of_imp hpath, find?_filter_of_imp horder]

section

variable {c : Corpus} {u : DesignUnit} {i : Instance} {l : String}

theorem isArchitectureOf_iff_accepts {v : DesignUnit} :
    isArchitectureOf l i.target.name i.target.architecture v = true ↔ i.Accepts l v := by
  rw [isArchitectureOf_iff, Instance.Accepts, DesignUnit.isArchitecture]
  cases hv : v.architecture? with
  | none => simp
  | some a => cases i.target.architecture <;> simp

/-- In a library that offers nothing, nothing is found. -/
theorem architectures_eq_nil_iff :
    c.architectures l i.target.name i.target.architecture = [] ↔ ¬ c.Offers i l := by
  rw [architectures, positions_eq_nil_iff_forall]
  simp only [← Bool.not_eq_true, isArchitectureOf_iff_accepts, Offers, not_exists, not_and]

/-- The targets are found in the first library on the search path that offers any. -/
theorem targets_eq :
    c.targets u i = ((searchPath u i).find? fun l => c.Offers i l).elim []
      fun l => c.architectures l i.target.name i.target.architecture := by
  have hoffers : ((fun found => !found.isEmpty) ∘ fun l =>
      c.architectures l i.target.name i.target.architecture) = fun l => decide (c.Offers i l) := by
    funext l
    rw [Bool.eq_iff_iff, decide_eq_true_iff, ← not_iff_not, ← architectures_eq_nil_iff]
    simp
  rw [targets, List.find?_map, hoffers]
  cases (searchPath u i).find? fun l => c.Offers i l <;> rfl

/-- What a search of some libraries stops at is the first that offers an architecture. -/
theorem find?_offers_eq_some_iff {order : List String} :
    (order.find? fun l => c.Offers i l) = some l ↔ c.FirstOffering i order l := by
  rw [List.find?_eq_some_iff_append, FirstOffering, decide_eq_true_iff]
  simp

/-- The targets of an instance are, in the order of the corpus and each once, all architectures
of one library that the instance accepts: of the first in the order of the search that offers
any. There are none exactly if no library in that order offers any. -/
theorem targets_of_first_library (c : Corpus) (u : DesignUnit) (i : Instance) :
    (c.targets u i).Pairwise (· < ·) ∧
      (c.targets u i ≠ [] → ∃ l, c.FirstOffering i (searchOrder u i) l ∧
        (∀ k, k ∈ c.targets u i ↔ ∃ v, c.units[k]? = some v ∧ i.Accepts l v) ∧
        c.unitsAt (c.targets u i) = c.units.filter fun v => i.Accepts l v) ∧
      (c.targets u i = [] ↔ ∀ l ∈ searchOrder u i, ¬ c.Offers i l) := by
  rw [targets_eq, find?_searchPath]
  cases hfound : (searchOrder u i).find? fun l => c.Offers i l with
  | none =>
    refine ⟨List.Pairwise.nil, fun hne => absurd rfl hne, iff_of_true rfl ?_⟩
    simpa using List.find?_eq_none.mp hfound
  | some l =>
    have hfirst := find?_offers_eq_some_iff.mp hfound
    have hsome : c.architectures l i.target.name i.target.architecture ≠ [] := fun hnone =>
      architectures_eq_nil_iff.mp hnone hfirst.1
    refine ⟨pairwise_positions c _, fun _ => ⟨l, hfirst, fun k => ?_, ?_⟩, ?_⟩
    · simp only [Option.elim, architectures, mem_positions, isArchitectureOf_iff_accepts]
    · simp only [Option.elim, architectures, unitsAt_positions]
      apply List.filter_congr
      intro v _
      rw [Bool.eq_iff_iff, isArchitectureOf_iff_accepts, decide_eq_true_iff]
    · refine iff_of_false hsome fun hnone => ?_
      exact hnone l (List.mem_of_find?_eq_some hfound) hfirst.1

end

namespace Fallback

/-- An instance of an entity in no particular library. -/
def inst : Instance := ⟨"U", none, .entity "CORE" none⟩

/-- An architecture with this instance under a library clause and two use clauses. -/
def user : DesignUnit :=
  .declare (.architecture "RTL" [inst]) "TOP" "LIB" "top.vhd" 4 ["UTIL", "WORK", "UTIL"]
    [⟨"VENDOR", some "CELLS"⟩, ⟨"BASE", none⟩]

/-- An architecture of the entity in some library. -/
def core (library architecture : String) : DesignUnit :=
  .declare (.architecture architecture []) "CORE" library "core.vhd" 1 [] []

/-- The entity has no architecture in the own library and in that of the library clauses. -/
def corpus : Corpus := ⟨[core "BASE" "FAST", user, core "VENDOR" "FAST", core "BASE" "SLOW"]⟩

/-- The libraries of the use clauses are searched in increasing order. -/
theorem found_in_base :
    searchOrder user inst = ["LIB", "UTIL", "BASE", "VENDOR"] ∧
      corpus.FirstOffering inst (searchOrder user inst) "BASE" ∧
      corpus.unitsAt (corpus.targets user inst) = [core "BASE" "FAST", core "BASE" "SLOW"] := by
  have hbase : (searchOrder user inst).find? (fun l => corpus.Offers inst l) = some "BASE" := by
    decide +kernel
  obtain ⟨-, hfirst, -⟩ := targets_of_first_library corpus user inst
  obtain ⟨l, hl, -, hunits⟩ := hfirst (by decide +kernel)
  obtain rfl : l = "BASE" :=
    Option.some.inj ((find?_offers_eq_some_iff.mpr hl).symm.trans hbase)
  exact ⟨by decide +kernel, hl, hunits.trans (by decide +kernel)⟩

end Fallback

end Corpus

end CompileOrder
