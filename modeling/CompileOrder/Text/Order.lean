/-!
# The order of names and sorted sets

Names are ordered by code point, which is the order of their UTF-8 bytes. A set of
names is a strictly increasing list, built by insertion, so equal sets are equal
lists.
-/

namespace CompileOrder.Text

/-- Strict lexicographic order by code point. -/
def charsPrecede : List Char → List Char → Bool
  | _, [] => false
  | [], _ :: _ => true
  | a :: as, b :: bs => decide (a.toNat < b.toNat) || (a == b && charsPrecede as bs)

/-- Strict order of two names by code point. -/
def precedes (a b : String) : Bool := charsPrecede a.toList b.toList

/-- Strict order of two pairs of names: by the first name, then by the second. -/
def pairPrecedes (a b : String × String) : Bool :=
  precedes a.1 b.1 || (a.1 == b.1 && precedes a.2 b.2)

/-- `before` puts different members in a row. -/
structure Orders {α : Type} (before : α → α → Bool) : Prop where
  /-- No member stands before itself. -/
  irrefl : ∀ a, before a a = false
  /-- What stands before a member stands before those behind it. -/
  trans : ∀ a b c, before a b = true → before b c = true → before a c = true
  /-- Of two different members one stands before the other. -/
  total : ∀ a b, before a b = false → a ≠ b → before b a = true

theorem charsPrecede_irrefl (as : List Char) : charsPrecede as as = false := by
  induction as with
  | nil => rfl
  | cons a as ih => simp [charsPrecede, ih]

theorem charsPrecede_trans (as bs cs : List Char) (hab : charsPrecede as bs = true)
    (hbc : charsPrecede bs cs = true) : charsPrecede as cs = true := by
  induction as generalizing bs cs with
  | nil =>
    cases cs with
    | nil => cases bs <;> cases hbc
    | cons c cs => rfl
  | cons a as ih =>
    cases bs with
    | nil => cases hab
    | cons b bs =>
      cases cs with
      | nil => cases hbc
      | cons c cs =>
        simp only [charsPrecede, Bool.or_eq_true, Bool.and_eq_true, decide_eq_true_eq,
          beq_iff_eq] at hab hbc ⊢
        rcases hab with hab | ⟨rfl, hab⟩
        · rcases hbc with hbc | ⟨rfl, -⟩
          · exact Or.inl (Nat.lt_trans hab hbc)
          · exact Or.inl hab
        · exact hbc.imp_right fun h => ⟨h.1, ih bs cs hab h.2⟩

theorem charsPrecede_total (as bs : List Char) (hab : charsPrecede as bs = false)
    (hne : as ≠ bs) : charsPrecede bs as = true := by
  induction as generalizing bs with
  | nil =>
    cases bs with
    | nil => exact absurd rfl hne
    | cons b bs => cases hab
  | cons a as ih =>
    cases bs with
    | nil => rfl
    | cons b bs =>
      simp only [charsPrecede, Bool.or_eq_false_iff, decide_eq_false_iff_not, Nat.not_lt] at hab
      simp only [charsPrecede, Bool.or_eq_true, Bool.and_eq_true, decide_eq_true_eq, beq_iff_eq]
      rcases Nat.lt_or_eq_of_le hab.1 with hlt | heq
      · exact Or.inl hlt
      · obtain rfl : b = a := Char.toNat_inj.mp heq
        rw [beq_self_eq_true, Bool.true_and] at hab
        exact Or.inr ⟨rfl, ih bs hab.2 fun h => hne (h ▸ rfl)⟩

/-- Names are put in a row by their order. -/
theorem orders_precedes : Orders precedes where
  irrefl a := charsPrecede_irrefl a.toList
  trans a b c := charsPrecede_trans a.toList b.toList c.toList
  total a b hab hne :=
    charsPrecede_total a.toList b.toList hab fun h => hne (String.toList_inj.mp h)

/-- So are pairs of names. -/
theorem orders_pairPrecedes : Orders pairPrecedes where
  irrefl a := by simp [pairPrecedes, orders_precedes.irrefl]
  trans a b c hab hbc := by
    simp only [pairPrecedes, Bool.or_eq_true, Bool.and_eq_true, beq_iff_eq] at hab hbc ⊢
    rcases hab with hab | ⟨hab, hab'⟩
    · rcases hbc with hbc | ⟨hbc, -⟩
      · exact Or.inl (orders_precedes.trans _ _ _ hab hbc)
      · exact Or.inl (hbc ▸ hab)
    · rw [hab]
      exact hbc.imp_right fun h => ⟨h.1, orders_precedes.trans _ _ _ hab' h.2⟩
  total a b hab hne := by
    simp only [pairPrecedes, Bool.or_eq_false_iff, Bool.and_eq_false_imp, beq_iff_eq] at hab
    simp only [pairPrecedes, Bool.or_eq_true, Bool.and_eq_true, beq_iff_eq]
    by_cases hfirst : a.1 = b.1
    · refine Or.inr ⟨hfirst.symm, orders_precedes.total _ _ (hab.2 hfirst) fun hsecond => ?_⟩
      exact hne (Prod.ext hfirst hsecond)
    · exact Or.inl (orders_precedes.total _ _ hab.1 hfirst)

/-- `x` put into the increasing list at its place, unless it is there already. -/
def insertSorted {α : Type} [BEq α] (before : α → α → Bool) (x : α) : List α → List α
  | [] => [x]
  | y :: ys =>
    if before x y then x :: y :: ys
    else if x == y then y :: ys
    else y :: insertSorted before x ys

/-- The members of a list in increasing order, each once. -/
def sortedSet {α : Type} [BEq α] (before : α → α → Bool) (xs : List α) : List α :=
  xs.foldr (insertSorted before) []

/-- Inserting adds one member. -/
@[simp] theorem mem_insertSorted {α : Type} [BEq α] [LawfulBEq α] (before : α → α → Bool)
    (x y : α) (xs : List α) : y ∈ insertSorted before x xs ↔ y = x ∨ y ∈ xs := by
  induction xs with
  | nil => simp [insertSorted]
  | cons z zs ih =>
    rw [insertSorted]
    split
    · simp
    · split
      · rename_i hxz
        rw [eq_of_beq hxz]
        simp
      · simp only [List.mem_cons, ih]
        exact or_left_comm

/-- A sorted set has the members of the list it is made from. -/
@[simp] theorem mem_sortedSet {α : Type} [BEq α] [LawfulBEq α] (before : α → α → Bool)
    (xs : List α) (y : α) : y ∈ sortedSet before xs ↔ y ∈ xs := by
  induction xs with
  | nil => simp [sortedSet]
  | cons x xs ih =>
    rw [sortedSet, List.foldr_cons, mem_insertSorted, List.mem_cons]
    exact or_congr_right ih

namespace Orders

variable {α : Type} [BEq α] [LawfulBEq α] {before : α → α → Bool}

/-- Inserting keeps a strictly increasing list strictly increasing. -/
theorem pairwise_insertSorted (h : Orders before) (x : α) {xs : List α}
    (hxs : xs.Pairwise fun a b => before a b = true) :
    (insertSorted before x xs).Pairwise fun a b => before a b = true := by
  induction xs with
  | nil => exact List.pairwise_singleton _ _
  | cons y ys ih =>
    obtain ⟨hy, hys⟩ := List.pairwise_cons.mp hxs
    rw [insertSorted]
    split
    · rename_i hxy
      refine List.pairwise_cons.mpr ⟨fun z hz => ?_, hxs⟩
      rcases List.mem_cons.mp hz with rfl | hz
      · exact hxy
      · exact h.trans x y z hxy (hy z hz)
    · rename_i hxy
      split
      · exact hxs
      · rename_i hne
        have hyx : before y x = true :=
          h.total x y (Bool.eq_false_iff.mpr hxy) fun heq => hne (beq_iff_eq.mpr heq)
        refine List.pairwise_cons.mpr ⟨fun z hz => ?_, ih hys⟩
        rcases (mem_insertSorted ..).mp hz with rfl | hz
        · exact hyx
        · exact hy z hz

/-- A sorted set is strictly increasing. -/
theorem pairwise_sortedSet (h : Orders before) (xs : List α) :
    (sortedSet before xs).Pairwise fun a b => before a b = true := by
  induction xs with
  | nil => exact .nil
  | cons x xs ih => exact h.pairwise_insertSorted x ih

/-- A sorted set holds nothing twice. -/
theorem nodup_sortedSet (h : Orders before) (xs : List α) : (sortedSet before xs).Nodup := by
  refine (h.pairwise_sortedSet xs).imp fun {a b} hab heq => ?_
  rw [heq, h.irrefl b] at hab
  cases hab

end Orders

/-- The names of a list in increasing order, each once. -/
def nameSet (names : List String) : List String := sortedSet precedes names

/-- The names are strictly increasing, as those of a set are. -/
def Increasing (names : List String) : Prop := names.Pairwise fun a b => precedes a b = true

instance : DecidablePred Increasing := fun names =>
  inferInstanceAs (Decidable (names.Pairwise fun a b => precedes a b = true))

theorem increasing_nameSet (names : List String) : Increasing (nameSet names) :=
  orders_precedes.pairwise_sortedSet names

end CompileOrder.Text
