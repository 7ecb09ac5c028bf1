import Mathlib.Algebra.Group.Int.Defs
import SheetQuery.Decimal.Whole

/-!
# Whole numbers of a machine word

The whole numbers that a 64-bit word can be. Such a number is a word of that value, and any other
has none; the word nearest to a number is the number itself or an end of the range.

Main statements: `exists_word?_iff` and `toInt_nearestWord`.
-/

namespace SheetQuery.Decimal

/-- The whole number is the value of a 64-bit word. -/
def IsWord (n : Int) : Prop :=
  -2 ^ 63 ≤ n ∧ n < 2 ^ 63

instance (n : Int) : Decidable (IsWord n) :=
  inferInstanceAs (Decidable (_ ∧ _))

variable {n : Int}

theorem toInt_minValue : Int64.minValue.toInt = -2 ^ 63 := by
  decide

theorem toInt_maxValue : Int64.maxValue.toInt = 2 ^ 63 - 1 := by
  decide

theorem isWord_toInt (i : Int64) : IsWord i.toInt :=
  ⟨Int64.le_toInt i, Int64.toInt_lt i⟩

/-- Exactly the numbers of the range are words. -/
theorem exists_word?_iff : (∃ i, word? n = some i) ↔ IsWord n := by
  rw [word?, toInt_minValue, toInt_maxValue, IsWord]
  constructor
  · rintro ⟨i, h⟩
    split at h
    · omega
    · cases h
  · intro h
    exact ⟨_, if_pos (by omega)⟩

theorem word?_eq_none (h : ¬ IsWord n) : word? n = none :=
  Option.eq_none_iff_forall_ne_some.mpr fun i hi => h (exists_word?_iff.mp ⟨i, hi⟩)

/-- The nearest word is the number, or the end of the range on its side. -/
theorem toInt_nearestWord (n : Int) :
    (nearestWord n).toInt = max (-2 ^ 63) (min n (2 ^ 63 - 1)) := by
  rw [nearestWord, toInt_minValue, toInt_maxValue]
  exact Int64.toInt_ofInt_of_le (by omega) (by omega)

theorem toInt_nearestWord_of_isWord (h : IsWord n) : (nearestWord n).toInt = n := by
  obtain ⟨hlow, hhigh⟩ := h
  rw [toInt_nearestWord]
  omega

end SheetQuery.Decimal
