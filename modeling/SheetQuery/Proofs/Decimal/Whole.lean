import SheetQuery.Proofs.Decimal.Nearest
import SheetQuery.Proofs.Value.Order

/-!
# Whole numbers as floating-point numbers

A whole number of a machine word becomes the floating-point number that it rounds to, with its sign.
Two words can become level this way, but they do not trade places.

Main statements: `isRounded_ofInt` and `IsRounded.isLE_compare`.
-/

namespace SheetQuery.Decimal

open Float.Model Float.Model.UnpackedFloat

/-- The floating-point number is what a number rounds to, which keeps its sign. -/
inductive IsRounded (v : ℚ) : UnpackedFloat → Prop where
  | zero (hv : v = 0) : IsRounded v (.zero .positive)
  | positive {m : Nat} {e : Int} (hc : IsCanonical m e) (hr : RoundsTo v m e) :
      IsRounded v (.finite .positive m e hc.pos)
  | negative {m : Nat} {e : Int} (hc : IsCanonical m e) (hr : RoundsTo (-v) m e) :
      IsRounded v (.finite .negative m e hc.pos)

variable {v v' : ℚ} {x x' : UnpackedFloat} {n m m' : Nat} {e e' : Int}

theorem isLE_compareMagnitude (h : e < e' ∨ e = e' ∧ m ≤ m') :
    ((compare e e').then (compare m m')).isLE = true := by
  rcases h with hlt | ⟨rfl, hle⟩
  · rw [compare_lt_iff_lt.mpr hlt]
    rfl
  · rw [compare_eq_iff_eq.mpr rfl]
    exact Std.isLE_compare.mpr hle

/-- **Rounding keeps the order of numbers**, their signs included. -/
theorem IsRounded.isLE_compare (h : IsRounded v x) (h' : IsRounded v' x') (hv : v ≤ v') :
    ∃ o, x.compare x' = some o ∧ o.isLE = true := by
  cases h with
  | zero hzero =>
      cases h' with
      | zero => exact ⟨_, rfl, rfl⟩
      | positive => exact ⟨_, rfl, rfl⟩
      | negative hc' hr' => linarith [hr'.pos hc']
  | positive hc hr =>
      have hpos := hr.pos hc
      cases h' with
      | zero => linarith
      | positive hc' hr' =>
          exact ⟨_, rfl, isLE_compareMagnitude (RoundsTo.le_of_le hc hc' hr hr' hv)⟩
      | negative hc' hr' => linarith [hr'.pos hc']
  | negative hc hr =>
      cases h' with
      | zero => exact ⟨_, rfl, rfl⟩
      | positive => exact ⟨_, rfl, rfl⟩
      | negative hc' hr' =>
          refine ⟨_, rfl, ?_⟩
          rw [← Value.compareMagnitude_swap]
          exact isLE_compareMagnitude (RoundsTo.le_of_le hc' hc hr' hr (neg_le_neg hv))

theorem IsRounded.neg (h : IsRounded v x) (hv : 0 < v) : IsRounded (-v) x.neg := by
  cases h with
  | zero hzero => exact absurd hzero hv.ne'
  | positive hc hr => exact .negative hc (by simpa using hr)
  | negative hc hr => linarith [hr.pos hc]

/-- A positive whole number rounds to some magnitude. -/
theorem exists_roundsTo (hpos : 0 < n) (hlt : n < 2 ^ 64) :
    ∃ m e, IsCanonical m e ∧ e ≤ 971 ∧ RoundsTo n m e := by
  have hvalue : (n : ℚ) / 2 ^ (-53 : Int) = (n * 2 ^ 53 : Nat) := by
    rw [zpow_neg, div_inv_eq_mul]
    push_cast
    rfl
  have hdescribes := describes_exact (n * 2 ^ 53)
  rw [← hvalue] at hdescribes
  rcases roundWithAccuracy_roundsTo .positive hdescribes (Or.inl (by omega)) with
    ⟨m, e, -, -, hc, hr⟩ | hsmall
  · refine ⟨m, e, hc, ?_, hr⟩
    by_contra he
    have hm : (1 : ℚ) ≤ m := by exact_mod_cast hc.pos
    have hn : (n : ℚ) < 2 ^ 64 := by exact_mod_cast hlt
    have hpower : (2 : ℚ) ^ (65 : Int) ≤ 2 ^ e := zpow_le_zpow_right₀ (by norm_num) (by omega)
    have hbound : (1 / 2 : ℚ) * 2 ^ (65 : Int) ≤ (m - stepBelow m e) * 2 ^ e :=
      mul_le_mul (by linarith [stepBelow_le m e]) hpower (by positivity)
        (by linarith [stepBelow_le m e])
    norm_num at hbound
    linarith [hr.lower]
  · have hone : (1 : ℚ) ≤ n := by exact_mod_cast hpos
    have hleast : (2 : ℚ) ^ (-1075 : Int) < 1 := zpow_lt_one_of_neg₀ (by norm_num) (by norm_num)
    rw [half_least] at hsmall
    linarith

theorem isRounded_ofNat (hpos : 0 < n) (hlt : n < 2 ^ 64) :
    IsRounded n (Float.ofNat n).toModel.unpack := by
  obtain ⟨m, e, hc, he, hr⟩ := exists_roundsTo hpos hlt
  have hunpack : (Float.ofScientific n false 0).toModel.unpack = .finite .positive m e hc.pos :=
    unpack_ofScientific false hc he (by simpa [tens] using hr)
  show IsRounded n (Float.ofScientific n false 0).toModel.unpack
  rw [hunpack]
  exact .positive hc hr

/-- **A whole number becomes what it rounds to.** -/
theorem isRounded_ofInt {i : Int} (h : i.natAbs < 2 ^ 64) :
    IsRounded i (Float.ofInt i).toModel.unpack := by
  cases i with
  | ofNat n =>
      rcases Nat.eq_zero_or_pos n with rfl | hpos
      · exact .zero rfl
      · exact isRounded_ofNat hpos h
  | negSucc n =>
      have hrounded := (isRounded_ofNat (Nat.succ_pos n) h).neg (by positivity)
      rw [← unpack_neg] at hrounded
      have hcast : ((Int.negSucc n : Int) : ℚ) = -((n.succ : Nat) : ℚ) := by
        rw [Int.negSucc_eq]
        push_cast
        ring
      rw [hcast]
      exact hrounded

theorem natAbs_toInt_lt (i : Int64) : i.toInt.natAbs < 2 ^ 64 := by
  have hlow := Int64.le_toInt i
  have hhigh := Int64.toInt_lt i
  omega

theorem IsRounded.isNaN (h : IsRounded v x) : x.isNaN = false := by
  cases h <;> rfl

end SheetQuery.Decimal
