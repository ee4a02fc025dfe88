import CompileOrder.Text.Order
import CompileOrder.Text.Utf8
import Mathlib.Data.List.Sort
import Mathlib.Data.Prod.Lex
import Mathlib.Data.String.Basic

/-!
# The order of names

The computed order of names is the strict lexicographic order by code point, hence
linear, and so is that of pairs of names. It is the order of their bytes as well: a
character with a greater code point has a greater first byte, or the same one and the
first of the others that differs is greater. A sorted set built by insertion is strictly
increasing and has exactly the members of the list it was built from, so it is the same
for every list with these members. A list whose repetitions are removed instead keeps its
order.
-/

namespace CompileOrder.Text

/-- Code points compare as characters do. -/
theorem toNat_lt_iff (a b : Char) : a.toNat < b.toNat ↔ a < b := by
  rw [Char.lt_def, UInt32.lt_iff_toNat_lt]
  rfl

theorem charsPrecede_iff (as bs : List Char) : charsPrecede as bs = true ↔ as < bs := by
  induction as generalizing bs with
  | nil => cases bs <;> simp [charsPrecede]
  | cons a as ih =>
    cases bs with
    | nil => simp [charsPrecede]
    | cons b bs =>
      rw [List.cons_lt_cons_iff, ← ih, ← toNat_lt_iff]
      simp [charsPrecede]

/-- The computed order is the order of strings. -/
@[simp] theorem precedes_iff (a b : String) : precedes a b = true ↔ a < b := by
  rw [precedes, charsPrecede_iff, String.lt_iff_toList_lt]

theorem not_precedes_iff (a b : String) : (!precedes a b) = true ↔ b ≤ a := by
  rw [Bool.not_eq_true', ← Bool.not_eq_true, precedes_iff, not_lt]

/-- The bytes of a character come before those of one with a greater code point, whatever
follows them. -/
theorem utf8EncodeChar_append_lt {c d : Char} (h : c < d) (bytes bytes' : Bytes) :
    String.utf8EncodeChar c ++ bytes < String.utf8EncodeChar d ++ bytes' := by
  have hlt : c.val.toNat < d.val.toNat := h
  have hd : d.val.toNat < 0x110000 := by
    rcases d.valid with hd | hd <;> omega
  simp only [String.utf8EncodeChar]
  generalize c.val.toNat = v at hlt
  generalize d.val.toNat = w at hlt hd
  have hdigits : ∀ n : Nat, n / 4096 = n / 64 / 64 ∧ n / 262144 = n / 64 / 64 / 64 := by omega
  rw [(hdigits v).1, (hdigits v).2, (hdigits w).1, (hdigits w).2]
  split_ifs <;>
    simp only [List.cons_append, List.nil_append, List.cons_lt_cons_iff, UInt8.lt_iff_toNat_lt,
      ← UInt8.toNat_inj, UInt8.toNat_ofNat'] <;>
    omega

/-- Texts are in the order of their bytes. -/
theorem encode_lt_encode {s t : String} (h : s < t) : encode s < encode t := by
  rw [String.lt_iff_toList_lt] at h
  rw [encode, encode]
  generalize s.toList = cs at h
  generalize t.toList = ds at h
  induction ds generalizing cs with
  | nil => exact absurd h (List.not_lt_nil cs)
  | cons d ds ih =>
    cases cs with
    | nil =>
      have hne : String.utf8EncodeChar d ≠ [] := by
        rw [← List.length_pos_iff, String.length_utf8EncodeChar]
        exact d.utf8Size_pos
      rw [List.flatMap_nil, List.flatMap_cons]
      cases hbytes : String.utf8EncodeChar d with
      | nil => exact absurd hbytes hne
      | cons b bs => exact List.nil_lt_cons b _
    | cons c cs =>
      rw [List.flatMap_cons, List.flatMap_cons]
      rcases List.cons_lt_cons_iff.mp h with hlt | ⟨rfl, hrest⟩
      · exact utf8EncodeChar_append_lt hlt _ _
      · exact List.append_left_lt (ih cs hrest)

/-- Lists with the same members make the same sorted set. -/
theorem Orders.sortedSet_congr {α : Type} [BEq α] [LawfulBEq α] {before : α → α → Bool}
    (h : Orders before) {xs ys : List α} (hmem : ∀ x, x ∈ xs ↔ x ∈ ys) :
    sortedSet before xs = sortedSet before ys := by
  have hasymm : Std.Asymm fun a b : α => before a b = true := by
    refine ⟨fun a b hab hba => ?_⟩
    have hself := h.trans a b a hab hba
    rw [h.irrefl a] at hself
    cases hself
  exact (h.pairwise_sortedSet xs).eq_of_mem_iff (h.pairwise_sortedSet ys) (by simpa using hmem)

/-- Induction along the removal of repetitions: what holds of a tail without the repetitions of
its head holds of the list. -/
@[elab_as_elim]
theorem eraseDups_induction {α : Type} [BEq α] {motive : List α → Prop} (nil : motive [])
    (cons : ∀ x xs, motive (xs.filter fun y => !y == x) → motive (x :: xs)) (xs : List α) :
    motive xs := by
  induction hn : xs.length using Nat.strong_induction_on generalizing xs with
  | _ n ih =>
    cases xs with
    | nil => exact nil
    | cons x xs =>
      have hle := List.length_filter_le (fun y => !y == x) xs
      rw [List.length_cons] at hn
      exact cons x xs (ih _ (by omega) _ rfl)

/-- Removing repetitions leaves none. -/
theorem nodup_eraseDups {α : Type} [BEq α] [LawfulBEq α] (xs : List α) : xs.eraseDups.Nodup := by
  induction xs using eraseDups_induction with
  | nil => exact List.nodup_nil
  | cons x xs ih =>
    rw [List.eraseDups_cons]
    exact List.nodup_cons.mpr ⟨fun hx => by simp [List.mem_eraseDups] at hx, ih⟩

/-- A last member is kept if it is new. -/
theorem eraseDups_concat {α : Type} [DecidableEq α] (xs : List α) (x : α) :
    (xs ++ [x]).eraseDups = xs.eraseDups ++ if x ∈ xs then [] else [x] := by
  rw [List.eraseDups_append]
  by_cases hx : x ∈ xs <;> simp [List.removeAll, List.eraseDups_cons, hx]

theorem increasing_iff {names : List String} : Increasing names ↔ names.Pairwise (· < ·) := by
  simp only [Increasing, precedes_iff]

/-- A set of names is strictly increasing. -/
theorem pairwise_nameSet (names : List String) : (nameSet names).Pairwise (· < ·) :=
  increasing_iff.mp (increasing_nameSet names)

@[simp] theorem mem_nameSet (names : List String) (name : String) :
    name ∈ nameSet names ↔ name ∈ names := mem_sortedSet precedes names name

/-- Lists with the same names make the same set of names. -/
theorem nameSet_congr {names names' : List String} (h : ∀ name, name ∈ names ↔ name ∈ names') :
    nameSet names = nameSet names' := orders_precedes.sortedSet_congr h

end CompileOrder.Text
