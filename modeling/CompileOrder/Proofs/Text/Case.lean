import CompileOrder.Text.Case
import CompileOrder.Text.CharClass
import Mathlib.Data.List.Forall2

/-!
# Texts that differ in case

Texts that differ only in the case of ASCII letters agree in upper case. No class of
characters tells the two cases of a letter apart, and a reserved word is spelled by both.
-/

namespace CompileOrder.Text

/-- The texts differ at most in the case of ASCII letters. -/
def SameButCase (s t : String) : Prop :=
  List.Forall₂ (fun c d => c = d ∨ c.toUpper = d ∨ c = d.toUpper) s.toList t.toList

theorem toUpper_eq_self {c : Char} (hc : ¬ (97 ≤ c.toNat ∧ c.toNat ≤ 122)) : c.toUpper = c := by
  have hval : ¬ (c.val ≥ 'a'.val ∧ c.val ≤ 'z'.val) := fun h =>
    hc ⟨UInt32.le_iff_toNat_le.mp h.1, UInt32.le_iff_toNat_le.mp h.2⟩
  exact dif_neg hval

/-- What is checked for the small letters of ASCII one by one holds of each. -/
theorem of_small {P : Char → Prop} (h : ∀ n ∈ List.range' 97 26, P (Char.ofNat n)) {c : Char}
    (hc : 97 ≤ c.toNat ∧ c.toNat ≤ 122) : P c := by
  have hmem : c.toNat ∈ List.range' 97 26 := by
    rw [List.mem_range'_1]
    omega
  simpa only [Char.ofNat_toNat] using h c.toNat hmem

/-- What holds of the small letters of ASCII holds of all characters: the others are their
own upper case. -/
theorem eq_of_small {α : Type} {f : Char → α}
    (h : ∀ n ∈ List.range' 97 26, f (Char.ofNat n).toUpper = f (Char.ofNat n)) (c : Char) :
    f c.toUpper = f c := by
  by_cases hc : 97 ≤ c.toNat ∧ c.toNat ≤ 122
  · exact of_small (P := fun c => f c.toUpper = f c) h hc
  · rw [toUpper_eq_self hc]

@[simp] theorem toUpper_toUpper (c : Char) : c.toUpper.toUpper = c.toUpper :=
  eq_of_small (by decide) c

@[simp] theorem isDigit_toUpper (c : Char) : c.toUpper.isDigit = c.isDigit :=
  eq_of_small (by decide) c

@[simp] theorem isAlphabetic_toUpper (c : Char) : isAlphabetic c.toUpper = isAlphabetic c :=
  eq_of_small (by decide) c

@[simp] theorem isWordChar_toUpper (c : Char) : isWordChar c.toUpper = isWordChar c :=
  eq_of_small (by decide) c

@[simp] theorem isBlank_toUpper (c : Char) : isBlank c.toUpper = isBlank c :=
  eq_of_small (by decide) c

@[simp] theorem isControl_toUpper (c : Char) : isControl c.toUpper = isControl c :=
  eq_of_small (by decide) c

@[simp] theorem isPunctuation_toUpper (c : Char) : isPunctuation c.toUpper = isPunctuation c :=
  eq_of_small (by decide) c

@[simp] theorem upperLetters_toUpper (c : Char) : upperLetters c.toUpper = upperLetters c :=
  eq_of_small (by decide) c

@[simp] theorem isAlpha_toUpper (c : Char) : c.toUpper.isAlpha = c.isAlpha :=
  eq_of_small (by decide) c

/-- A character that is no letter is its own upper case. -/
theorem toUpper_of_not_isAlpha {c : Char} (hc : c.isAlpha = false) : c.toUpper = c := by
  refine toUpper_eq_self fun hletter => ?_
  have hsmall : c.isAlpha = true := of_small (P := fun c => c.isAlpha = true) (by decide) hletter
  rw [hc] at hsmall
  cases hsmall

/-- No upper case is a small letter. -/
@[simp] theorem isLower_toUpper (c : Char) : c.toUpper.isLower = false := by
  by_cases hc : 97 ≤ c.toNat ∧ c.toNat ≤ 122
  · exact of_small (P := fun c => c.toUpper.isLower = false) (by decide) hc
  · rw [toUpper_eq_self hc, Bool.eq_false_iff]
    intro hlower
    obtain ⟨hge, hle⟩ := (Bool.and_eq_true ..).mp hlower
    exact hc ⟨UInt32.le_iff_toNat_le.mp (of_decide_eq_true hge),
      UInt32.le_iff_toNat_le.mp (of_decide_eq_true hle)⟩

/-- Only a character that is no letter has it as its upper case. -/
theorem toUpper_eq_iff {c d : Char} (hd : d.isAlpha = false) : c.toUpper = d ↔ c = d := by
  constructor
  · rintro rfl
    rw [isAlpha_toUpper] at hd
    exact (toUpper_of_not_isAlpha hd).symm
  · rintro rfl
    exact toUpper_of_not_isAlpha hd

@[simp] theorem toList_upper (s : String) : (upper s).toList = s.toList.map Char.toUpper :=
  String.toList_ofList

@[simp] theorem upper_upper (s : String) : upper (upper s) = upper s := by
  rw [upper, toList_upper, List.map_map, upper]
  simp only [Function.comp_def, toUpper_toUpper]

/-- Texts that differ only in the case of letters agree in upper case. -/
theorem SameButCase.upper_eq {s t : String} (h : SameButCase s t) : upper s = upper t := by
  have hchars : s.toList.map Char.toUpper = t.toList.map Char.toUpper := by
    rw [← List.forall₂_eq_eq_eq, List.forall₂_map_left_iff, List.forall₂_map_right_iff]
    refine h.imp fun c d hcd => ?_
    rcases hcd with rfl | rfl | rfl <;> simp
  rw [upper, upper, hchars]

end CompileOrder.Text
