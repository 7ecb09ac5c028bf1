import SheetQuery.Decimal.Reading
import SheetQuery.Proofs.Decimal.Packing

/-!
# The number nearest to a decimal

Products and quotients of two exact numbers are rounded to nearest, as far as the digits that are
computed fill the room there is. A decimal is such a product or quotient, of its digits and a power
of ten, so what it is read as is the magnitude that it rounds to.

Main statements: `unpack_ofScientific` and `unpack_nearest`.
-/

namespace SheetQuery.Decimal

open Float.Model Float.Model.UnpackedFloat

variable {v : ℚ} {m : Nat} {e : Int}

/-! ## Rounding packed -/

theorem describes_exact (n : Nat) :
    Describes (ExtendedMantissa.ofMantissaAndAccuracy n .exact) n := by
  refine ⟨le_rfl, by simp [ExtendedMantissa.ofMantissaAndAccuracy], ?_, ?_⟩
  · simp [ExtendedMantissa.ofMantissaAndAccuracy]
  · simp [ExtendedMantissa.ofMantissaAndAccuracy]

/-- A whole part and a fraction are described by how the fraction compares with the half. -/
theorem describes_fraction (q : Nat) {r d : Nat} (hr : r < d) :
    Describes (ExtendedMantissa.ofMantissaAndAccuracy q (accuracyOfFraction r d))
      (q + (r : ℚ) / d) := by
  have hpos : (0 : ℚ) < d := by exact_mod_cast Nat.zero_lt_of_lt hr
  have hlt : (r : ℚ) / d < 1 := by
    rw [div_lt_one hpos]
    exact_mod_cast hr
  have hnonneg : (0 : ℚ) ≤ (r : ℚ) / d := by positivity
  unfold accuracyOfFraction
  by_cases hzero : r = 0
  · subst hzero
    simpa using describes_exact q
  · rw [if_neg hzero]
    have hround : (q : ℚ) + 1 / 2 ≤ q + r / d ↔ d ≤ 2 * r := by
      rw [add_le_add_iff_left, le_div_iff₀ hpos, one_div_mul_eq_div, div_le_iff₀ two_pos, mul_comm]
      exact_mod_cast Iff.rfl
    have hsticky : ((q : ℚ) + r / d = q ∨ (q : ℚ) + r / d = q + 1 / 2) ↔ 2 * r = d := by
      have hstrict : (r : ℚ) / d ≠ 0 := div_ne_zero (by exact_mod_cast hzero) hpos.ne'
      rw [add_eq_left, or_iff_right hstrict, add_right_inj, div_eq_iff hpos.ne',
        one_div_mul_eq_div, eq_div_iff two_ne_zero, mul_comm]
      exact_mod_cast Iff.rfl
    refine ⟨?_, ?_, ?_, ?_⟩
    · rw [mantissa_ofMantissaAndAccuracy]
      linarith
    · rw [mantissa_ofMantissaAndAccuracy]
      linarith
    · rw [mantissa_ofMantissaAndAccuracy, hround]
      rcases Nat.lt_trichotomy (2 * r) d with h | h | h
      · simp [ExtendedMantissa.ofMantissaAndAccuracy, Nat.compare_eq_lt.mpr h, h]
      · simp [ExtendedMantissa.ofMantissaAndAccuracy, h]
      · simp [ExtendedMantissa.ofMantissaAndAccuracy, Nat.compare_eq_gt.mpr h, h.le]
    · rw [mantissa_ofMantissaAndAccuracy, hsticky]
      rcases Nat.lt_trichotomy (2 * r) d with h | h | h
      · simp [ExtendedMantissa.ofMantissaAndAccuracy, Nat.compare_eq_lt.mpr h, h.ne]
      · simp [ExtendedMantissa.ofMantissaAndAccuracy, h]
      · simp [ExtendedMantissa.ofMantissaAndAccuracy, Nat.compare_eq_gt.mpr h, h.ne']

/-- A quotient is described by its whole part and by what the rest is of the divisor. -/
theorem describes_quotient (n : Nat) {d : Nat} (hd : 0 < d) :
    Describes (ExtendedMantissa.ofMantissaAndAccuracy (n / d) (accuracyOfFraction (n % d) d))
      (n / d) := by
  have hpos : (0 : ℚ) < d := by exact_mod_cast hd
  have hparts : (n : ℚ) / d = (n / d : Nat) + ((n % d : Nat) : ℚ) / d := by
    have hcast : (d : ℚ) * (n / d : Nat) + (n % d : Nat) = n := by
      exact_mod_cast Nat.div_add_mod n d
    rw [eq_comm, ← hcast]
    field_simp
  rw [hparts]
  exact describes_fraction (n / d) (Nat.mod_lt n hd)

theorem half_least : (1 / 2 * 2 ^ (-1074 : Int) : ℚ) = 2 ^ (-1075 : Int) := by
  have hexponent : (-1074 : Int) = -1075 + 1 := rfl
  rw [hexponent, zpow_add_one₀ (by norm_num)]
  ring

/-- What rounds to a magnitude does not vanish. -/
theorem RoundsTo.half_lt (h : RoundsTo v m e) (hc : IsCanonical m e) :
    1 / 2 * (2 : ℚ) ^ (-1074 : Int) < v := by
  have hpower : (2 : ℚ) ^ (-1074 : Int) ≤ 2 ^ e := zpow_le_zpow_right₀ (by norm_num) hc.le
  have hp : (0 : ℚ) < 2 ^ (-1074 : Int) := by positivity
  have hstep := stepBelow_le m e
  rcases Nat.lt_or_ge 1 m with hm | hm
  · have hcast : (2 : ℚ) ≤ m := by exact_mod_cast hm
    have hwide : (1 : ℚ) * 2 ^ (-1074 : Int) ≤ (m - stepBelow m e) * 2 ^ e :=
      mul_le_mul (by linarith) hpower hp.le (by linarith)
    linarith [h.lower]
  · obtain rfl : m = 1 := Nat.le_antisymm hm hc.pos
    have hone : stepBelow 1 e = 1 / 2 := if_neg fun hpowerOfTwo => absurd hpowerOfTwo.1 (by decide)
    have hlower := h.lower
    have hne : v ≠ ((1 : Nat) - stepBelow 1 e) * 2 ^ e := fun heq => by
      simpa using h.even (Or.inl heq)
    rw [hone] at hlower hne
    have hlt := lt_of_le_of_ne hlower hne.symm
    push_cast at hlt
    linarith

theorem RoundsTo.pos (h : RoundsTo v m e) (hc : IsCanonical m e) : 0 < v :=
  lt_trans (by positivity) (h.half_lt hc)

/-- Nor is it larger than what there is room for. -/
theorem RoundsTo.lt_bound (h : RoundsTo v m e) (hc : IsCanonical m e) (he : e ≤ 971) :
    v < 2 ^ 1024 := by
  have hm : (m : ℚ) + 1 ≤ 2 ^ 53 := by exact_mod_cast hc.lt
  have hpower : (2 : ℚ) ^ e ≤ 2 ^ (971 : Int) := zpow_le_zpow_right₀ (by norm_num) he
  have hp : (0 : ℚ) < 2 ^ e := by positivity
  have hbound : (2 : ℚ) ^ 1024 = 2 ^ 53 * 2 ^ (971 : Int) := by
    rw [← zpow_natCast, ← zpow_natCast, ← zpow_add₀ (by norm_num)]
    rfl
  calc v ≤ (m + 1 / 2) * 2 ^ e := h.upper
    _ < 2 ^ 53 * 2 ^ e := mul_lt_mul_of_pos_right (by linarith) hp
    _ ≤ 2 ^ 53 * 2 ^ (971 : Int) := mul_le_mul_of_nonneg_left hpower (by positivity)
    _ = 2 ^ 1024 := hbound.symm

/-- What the model rounds to is the magnitude that a number rounds to. -/
theorem unpack_pack_roundWithAccuracy (s : Sign) {q : Nat} {f : Int} {accuracy : Accuracy}
    (h : Describes (ExtendedMantissa.ofMantissaAndAccuracy q accuracy) (v / 2 ^ f))
    (hbits : 2 ^ 52 ≤ q ∨ f ≤ -1074) (hc : IsCanonical m e) (he : e ≤ 971) (hr : RoundsTo v m e) :
    (Float.Model.pack (roundWithAccuracy .binary64 s q f accuracy)).unpack =
      .finite s m e hc.pos := by
  rcases roundWithAccuracy_roundsTo s h hbits with ⟨m', e', hpos, heq, hc', hr'⟩ | hsmall
  · obtain ⟨rfl, rfl⟩ := RoundsTo.unique hc hc' hr hr'
    rw [heq]
    exact unpack_pack hc he s hpos
  · exact absurd hsmall (not_le.mpr (hr.half_lt hc))

/-! ## Arithmetic -/

section Arithmetic

variable {s₁ s₂ : Sign} {m₁ m₂ : Nat} {e₁ e₂ : Int} {h₁ : 0 < m₁} {h₂ : 0 < m₂}

/-- A product is rounded to nearest. -/
theorem unpack_pack_mul (hbits : 2 ^ 52 ≤ m₁ * m₂) (hc : IsCanonical m e) (he : e ≤ 971)
    (hr : RoundsTo (m₁ * 2 ^ e₁ * (m₂ * 2 ^ e₂)) m e) :
    (Float.Model.pack (mul .binary64 (.finite s₁ m₁ e₁ h₁) (.finite s₂ m₂ e₂ h₂))).unpack =
      .finite (s₁ * s₂) m e hc.pos := by
  refine unpack_pack_roundWithAccuracy (s₁ * s₂) ?_ (Or.inl hbits) hc he hr
  have hdigits := describes_exact (m₁ * m₂)
  have hvalue : (m₁ * 2 ^ e₁ * (m₂ * 2 ^ e₂) : ℚ) / 2 ^ (e₁ + e₂) = (m₁ * m₂ : Nat) := by
    rw [zpow_add₀ (by norm_num)]
    push_cast
    field_simp
  rwa [hvalue]

/-- The exponent at which a quotient is computed. -/
def quotientExponent (m₁ : Nat) (e₁ : Int) (m₂ : Nat) (e₂ : Int) : Int :=
  min (e₁ - e₂) (max ((m₁.log2 : Int) + 1 + e₁ - (m₂.log2 + 1 + e₂) - 53) (-1074))

/-- A quotient is computed with enough digits. -/
theorem le_quotient (h₁ : 0 < m₁) (h₂ : 0 < m₂)
    (he : -1074 < quotientExponent m₁ e₁ m₂ e₂) :
    2 ^ 52 ≤ (m₁ <<< (e₁ - e₂ - quotientExponent m₁ e₁ m₂ e₂).toNat) / m₂ := by
  have hlow : 2 ^ m₁.log2 ≤ m₁ := Nat.log2_self_le h₁.ne'
  have hhigh : m₂ < 2 ^ (m₂.log2 + 1) := Nat.lt_log2_self
  have hshift : m₂.log2 + 53 ≤ m₁.log2 + (e₁ - e₂ - quotientExponent m₁ e₁ m₂ e₂).toNat := by
    unfold quotientExponent at he ⊢
    omega
  rw [Nat.le_div_iff_mul_le h₂, Nat.shiftLeft_eq]
  calc 2 ^ 52 * m₂ ≤ 2 ^ 52 * 2 ^ (m₂.log2 + 1) := Nat.mul_le_mul_left _ hhigh.le
    _ = 2 ^ (m₂.log2 + 53) := by rw [← pow_add]; congr 1; omega
    _ ≤ 2 ^ (m₁.log2 + (e₁ - e₂ - quotientExponent m₁ e₁ m₂ e₂).toNat) :=
        Nat.pow_le_pow_right (by decide) hshift
    _ = 2 ^ m₁.log2 * 2 ^ (e₁ - e₂ - quotientExponent m₁ e₁ m₂ e₂).toNat := pow_add _ _ _
    _ ≤ _ := Nat.mul_le_mul_right _ hlow

/-- And a quotient. -/
theorem unpack_pack_div (hc : IsCanonical m e) (he : e ≤ 971)
    (hr : RoundsTo (m₁ * 2 ^ e₁ / (m₂ * 2 ^ e₂)) m e) :
    (Float.Model.pack (div .binary64 (.finite s₁ m₁ e₁ h₁) (.finite s₂ m₂ e₂ h₂))).unpack =
      .finite (s₁ / s₂) m e hc.pos := by
  have hbits : -1074 < quotientExponent m₁ e₁ m₂ e₂ → _ := le_quotient h₁ h₂
  have hle : quotientExponent m₁ e₁ m₂ e₂ ≤ e₁ - e₂ := min_le_left _ _
  have hdigits := describes_quotient
    (m₁ <<< (e₁ - e₂ - quotientExponent m₁ e₁ m₂ e₂).toNat) h₂
  show (Float.Model.pack (roundWithAccuracy .binary64 (s₁ / s₂)
    (m₁ <<< (e₁ - e₂ - quotientExponent m₁ e₁ m₂ e₂).toNat / m₂)
    (quotientExponent m₁ e₁ m₂ e₂) _)).unpack = _
  refine unpack_pack_roundWithAccuracy (s₁ / s₂) ?_ ?_ hc he hr
  · have hvalue : (m₁ * 2 ^ e₁ / (m₂ * 2 ^ e₂) : ℚ) / 2 ^ quotientExponent m₁ e₁ m₂ e₂ =
        (m₁ <<< (e₁ - e₂ - quotientExponent m₁ e₁ m₂ e₂).toNat : Nat) / m₂ := by
      have hpower : (2 : ℚ) ^ (e₁ - e₂ - quotientExponent m₁ e₁ m₂ e₂).toNat =
          2 ^ (e₁ - e₂ - quotientExponent m₁ e₁ m₂ e₂) := by
        rw [← zpow_natCast, Int.toNat_of_nonneg (by omega)]
      rw [Nat.shiftLeft_eq]
      push_cast
      rw [hpower, zpow_sub₀ (by norm_num), zpow_sub₀ (by norm_num)]
      have hpos : (0 : ℚ) < m₂ := by exact_mod_cast h₂
      field_simp
    rw [hvalue]
    exact hdigits
  · by_cases hleast : quotientExponent m₁ e₁ m₂ e₂ ≤ -1074
    · exact Or.inr hleast
    · exact Or.inl (hbits (by omega))

/-- A magnitude with any digits is rounded to nearest. -/
theorem unpack_pack_round (s : Sign) (h₁ : 0 < m₁) (hc : IsCanonical m e) (he : e ≤ 971)
    (hr : RoundsTo (m₁ * 2 ^ e₁) m e) :
    (Float.Model.pack (UnpackedFloat.round .binary64 s m₁ e₁)).unpack = .finite s m e hc.pos := by
  have hlow : 2 ^ m₁.log2 ≤ m₁ := Nat.log2_self_le h₁.ne'
  have htarget : Format.binary64.targetExponent (totalExponent m₁ e₁) =
      max ((m₁.log2 : Int) + 1 + e₁ - 53) (-1074) := rfl
  rw [UnpackedFloat.round, htarget]
  generalize hshift : (e₁ - max ((m₁.log2 : Int) + 1 + e₁ - 53) (-1074)).toNat = shift
  have hdecrease : decreaseExponent m₁ e₁ (max ((m₁.log2 : Int) + 1 + e₁ - 53) (-1074)) =
      (m₁ <<< shift, e₁ - shift) := by
    rw [decreaseExponent, hshift]
  rw [hdecrease]
  refine unpack_pack_roundWithAccuracy s ?_ ?_ hc he hr
  · have hvalue : (m₁ * 2 ^ e₁ : ℚ) / 2 ^ (e₁ - shift) = (m₁ <<< shift : Nat) := by
      rw [zpow_sub₀ (by norm_num), Nat.shiftLeft_eq, zpow_natCast]
      push_cast
      field_simp
    rw [hvalue]
    exact describes_exact _
  · by_cases hleast : e₁ - shift ≤ -1074
    · exact Or.inr hleast
    · left
      have hdigits : 52 ≤ m₁.log2 + shift := by omega
      rw [Nat.shiftLeft_eq]
      calc 2 ^ 52 ≤ 2 ^ (m₁.log2 + shift) := Nat.pow_le_pow_right (by decide) hdigits
        _ = 2 ^ m₁.log2 * 2 ^ shift := pow_add _ _ _
        _ ≤ m₁ * 2 ^ shift := Nat.mul_le_mul_right _ hlow

end Arithmetic

/-! ## Decimals -/

/-- A whole number of a machine word is rounded to nearest. -/
theorem unpack_toFloat {n : Nat} (hpos : 0 < n) (hlt : n < 2 ^ 64) (hc : IsCanonical m e)
    (he : e ≤ 971) (hr : RoundsTo n m e) :
    n.toUInt64.toFloat.toModel.unpack = .finite .positive m e hc.pos := by
  have hword : n.toUInt64.toNat = n := by
    rw [UInt64.toNat_ofNat']
    omega
  have hcompare : compare (n : Int) 0 = .gt := compare_gt_iff_gt.mpr (by omega)
  show (Float.Model.pack
    (UnpackedFloat.normalize .binary64 (n.toUInt64.toNat : Int) 0 .positive)).unpack = _
  rw [hword, UnpackedFloat.normalize, hcompare]
  refine unpack_pack_round .positive hpos hc he ?_
  simpa using hr

/-- The number is a power of ten, written with all the digits there is room for. -/
def isPowerOfTen (k : Nat) : UnpackedFloat → Bool
  | .finite .positive p f _ => decide (2 ^ 52 ≤ p ∧ p * 2 ^ f.toNat = 10 ^ k * 2 ^ (-f).toNat)
  | _ => false

theorem isPowerOfTen_table : ∀ k : Fin Float.exactlyRepresentablePowersOfTen.size,
    isPowerOfTen k.val Float.exactlyRepresentablePowersOfTen[k].toModel.unpack = true := by
  decide +kernel

/-- The first powers of ten are exact. -/
theorem exists_powerOfTen {k : Nat} (hk : k < Float.exactlyRepresentablePowersOfTen.size) :
    ∃ p f hpos,
      Float.exactlyRepresentablePowersOfTen[k].toModel.unpack = .finite .positive p f hpos ∧
      2 ^ 52 ≤ p ∧ (p * 2 ^ f : ℚ) = 10 ^ k := by
  have htable : isPowerOfTen k Float.exactlyRepresentablePowersOfTen[k].toModel.unpack = true :=
    isPowerOfTen_table ⟨k, hk⟩
  generalize Float.exactlyRepresentablePowersOfTen[k].toModel.unpack = u at htable
  cases u with
  | notANumber => cases htable
  | infinity => cases htable
  | zero => cases htable
  | finite s p f hpos =>
      cases s with
      | negative => cases htable
      | positive =>
          obtain ⟨hfull, hvalue⟩ := of_decide_eq_true htable
          refine ⟨p, f, hpos, rfl, hfull, ?_⟩
          have hcast : (p : ℚ) * 2 ^ f.toNat = 10 ^ k * 2 ^ (-f).toNat := by exact_mod_cast hvalue
          have hsplit : f = (f.toNat : Int) - ((-f).toNat : Int) := by omega
          rw [hsplit, zpow_sub₀ (by norm_num), zpow_natCast, zpow_natCast, mul_div_assoc', hcast]
          field_simp

/-- Small whole numbers are exact. -/
theorem exists_toFloat {n : Nat} (hpos : 0 < n) (hlt : n < 2 ^ 53) : ∃ p f hpos',
    n.toUInt64.toFloat.toModel.unpack = .finite .positive p f hpos' ∧ 2 ^ 52 ≤ p ∧
      (p * 2 ^ f : ℚ) = n := by
  have hlog : n.log2 < 53 := (Nat.log2_lt hpos.ne').mpr hlt
  have hlow : 2 ^ n.log2 ≤ n := Nat.log2_self_le hpos.ne'
  have hhigh : n < 2 ^ (n.log2 + 1) := Nat.lt_log2_self
  have hfull : 2 ^ 52 ≤ n * 2 ^ (52 - n.log2) := by
    calc 2 ^ 52 = 2 ^ n.log2 * 2 ^ (52 - n.log2) := by rw [← pow_add]; congr 1; omega
      _ ≤ n * 2 ^ (52 - n.log2) := Nat.mul_le_mul_right _ hlow
  have hfits : n * 2 ^ (52 - n.log2) < 2 ^ 53 := by
    calc n * 2 ^ (52 - n.log2) < 2 ^ (n.log2 + 1) * 2 ^ (52 - n.log2) :=
          Nat.mul_lt_mul_of_pos_right hhigh (by positivity)
      _ = 2 ^ 53 := by rw [← pow_add]; congr 1; omega
  have hc : IsCanonical (n * 2 ^ (52 - n.log2)) (-((52 - n.log2 : Nat) : Int)) :=
    ⟨by omega, hfits, by omega, Or.inr hfull⟩
  have hvalue : ((n * 2 ^ (52 - n.log2) : Nat) * 2 ^ (-((52 - n.log2 : Nat) : Int)) : ℚ) = n := by
    rw [zpow_neg, zpow_natCast]
    push_cast
    field_simp
  have hself := roundsTo_self (n * 2 ^ (52 - n.log2)) (-((52 - n.log2 : Nat) : Int))
  rw [hvalue] at hself
  exact ⟨_, _, hc.pos, unpack_toFloat hpos (by omega) hc (by omega) hself, hfull, hvalue⟩

variable {n k : Nat}

/-- The power of ten of a decimal with a sign in its exponent. -/
def tens (negative : Bool) (k : Nat) : ℚ :=
  if negative then 10 ^ (-(k : Int)) else 10 ^ (k : Int)

/-- A short decimal is a quotient or a product of exact numbers. -/
theorem unpack_ofScientific_short (negative : Bool) (hpos : 0 < n) (hn : n < 2 ^ 53)
    (hk : k < Float.exactlyRepresentablePowersOfTen.size) (hc : IsCanonical m e) (he : e ≤ 971)
    (hr : RoundsTo (n * tens negative k) m e) :
    (Float.ofScientific n negative k).toModel.unpack = .finite .positive m e hc.pos := by
  obtain ⟨p, f, hp, hdigits, hpfull, hpvalue⟩ := exists_toFloat hpos hn
  obtain ⟨q, g, hq, hpower, hqfull, hqvalue⟩ := exists_powerOfTen hk
  have hfast : k ≤ 22 := Nat.le_of_lt_succ hk
  rw [Float.ofScientific, dif_pos ⟨hn, hfast⟩]
  cases negative with
  | true =>
      show (Float.Model.pack (div .binary64 n.toUInt64.toFloat.toModel.unpack
        Float.exactlyRepresentablePowersOfTen[k].toModel.unpack)).unpack = _
      rw [hdigits, hpower]
      refine unpack_pack_div hc he ?_
      rw [hpvalue, hqvalue]
      simpa [tens, zpow_neg, div_eq_mul_inv] using hr
  | false =>
      show (Float.Model.pack (mul .binary64 n.toUInt64.toFloat.toModel.unpack
        Float.exactlyRepresentablePowersOfTen[k].toModel.unpack)).unpack = _
      rw [hdigits, hpower]
      refine unpack_pack_mul ?_ hc he ?_
      · exact hpfull.trans (Nat.le_mul_of_pos_right p hq)
      · rw [hpvalue, hqvalue]
        simpa [tens] using hr

/-- What rounds to a magnitude has no exponent out of range. -/
theorem RoundsTo.exponent_bounds {i : Int} (hr : RoundsTo (n * 10 ^ i) m e) (hpos : 0 < n)
    (hc : IsCanonical m e) (he : e ≤ 971) : i ≤ 2048 ∧ -(2048 + (n.log2 : Int)) ≤ i := by
  constructor
  · by_contra hi
    have hone : (1 : ℚ) ≤ n := by exact_mod_cast hpos
    have hpower : (10 : ℚ) ^ (2048 : Int) ≤ 10 ^ i :=
      zpow_le_zpow_right₀ (by norm_num) (not_le.mp hi).le
    have htwo : (2 : ℚ) ^ 1024 ≤ 10 ^ (2048 : Int) := by
      calc (2 : ℚ) ^ 1024 ≤ 10 ^ 1024 := pow_le_pow_left₀ (by norm_num) (by norm_num) _
        _ ≤ 10 ^ 2048 := pow_le_pow_right₀ (by norm_num) (by norm_num)
        _ = 10 ^ (2048 : Int) := (zpow_natCast 10 2048).symm
    have hprod : (10 : ℚ) ^ i ≤ n * 10 ^ i := le_mul_of_one_le_left (by positivity) hone
    exact absurd (hr.lt_bound hc he) (not_lt.mpr (htwo.trans (hpower.trans hprod)))
  · by_contra hi
    have hhigh : (n : ℚ) ≤ 2 ^ (n.log2 + 1) := by exact_mod_cast Nat.lt_log2_self.le
    have hpower : (10 : ℚ) ^ i ≤ 2 ^ i := by
      obtain ⟨j, rfl⟩ : ∃ j : Nat, i = -(j : Int) := ⟨(-i).toNat, by omega⟩
      rw [zpow_neg, zpow_neg, zpow_natCast, zpow_natCast]
      exact inv_anti₀ (by positivity) (pow_le_pow_left₀ (by norm_num) (by norm_num) j)
    have hprod : (n * 10 ^ i : ℚ) ≤ 2 ^ (n.log2 + 1) * 2 ^ i :=
      mul_le_mul hhigh hpower (by positivity) (by positivity)
    have hsum : (2 : ℚ) ^ (n.log2 + 1) * 2 ^ i = 2 ^ ((n.log2 + 1 : Nat) + i) := by
      rw [zpow_add₀ (by norm_num), zpow_natCast]
    have hbound : (2 : ℚ) ^ ((n.log2 + 1 : Nat) + i) ≤ 2 ^ (-1075 : Int) :=
      zpow_le_zpow_right₀ (by norm_num) (by omega)
    have hlt := hr.half_lt hc
    rw [half_least] at hlt
    linarith

/-- Any other one within the range is computed from its digits at once. -/
theorem unpack_ofScientific_long {i : Int} (hpos : 0 < n) (hc : IsCanonical m e) (he : e ≤ 971)
    (hr : RoundsTo (n * 10 ^ i) m e) :
    (Float.Model.ofScientific n i).unpack = .finite .positive m e hc.pos := by
  have hbits : (2 ^ Format.binary64.exponentBits : Int) = 2048 := rfl
  obtain ⟨hlarge, hsmall⟩ := hr.exponent_bounds hpos hc he
  show (Float.Model.pack (UnpackedFloat.ofScientific .binary64 n i)).unpack = _
  rw [UnpackedFloat.ofScientific, dif_neg hpos.ne', if_neg (by rw [hbits]; omega),
    if_neg (by rw [hbits]; omega)]
  by_cases hi : 0 ≤ i
  · rw [if_pos hi]
    have hten : 0 < 10 ^ i.toNat := by positivity
    refine unpack_pack_mul ?_ hc he ?_
    · rw [Nat.shiftLeft_eq]
      have hroom : 2 ^ 52 ≤ n * 2 ^ Format.binary64.mantissaBits := by
        show 2 ^ 52 ≤ n * 2 ^ 53
        omega
      exact hroom.trans (Nat.le_mul_of_pos_right _ hten)
    · have hvalue : ((n <<< Format.binary64.mantissaBits : Nat) *
          2 ^ (-(Format.binary64.mantissaBits : Int)) *
          ((10 ^ i.toNat : Nat) * 2 ^ (0 : Int)) : ℚ) = n * 10 ^ i := by
        rw [Nat.shiftLeft_eq, zpow_neg, zpow_natCast]
        push_cast
        rw [← zpow_natCast (10 : ℚ), Int.toNat_of_nonneg hi]
        field_simp
      rwa [hvalue]
  · rw [if_neg hi]
    refine unpack_pack_div hc he ?_
    have hvalue : (n * 2 ^ (0 : Int) / ((10 ^ (-i).toNat : Nat) * 2 ^ (0 : Int)) : ℚ) =
        n * 10 ^ i := by
      push_cast
      rw [← zpow_natCast (10 : ℚ), Int.toNat_of_nonneg (by omega), zpow_neg]
      field_simp
    rwa [hvalue]

theorem RoundsTo.digits_pos {u : ℚ} (hr : RoundsTo (n * u) m e) (hc : IsCanonical m e) :
    0 < n := by
  refine Nat.pos_of_ne_zero ?_
  rintro rfl
  simpa using (hr.pos hc).ne'

/-- **A decimal is the number nearest to it.** -/
theorem unpack_ofScientific (negative : Bool) (hc : IsCanonical m e) (he : e ≤ 971)
    (hr : RoundsTo (n * tens negative k) m e) :
    (Float.ofScientific n negative k).toModel.unpack = .finite .positive m e hc.pos := by
  have hpos := hr.digits_pos hc
  by_cases hshort : n < 2 ^ 53 ∧ k ≤ 22
  · exact unpack_ofScientific_short negative hpos hshort.1 (Nat.lt_succ_of_le hshort.2) hc he hr
  · rw [Float.ofScientific, dif_neg hshort]
    refine unpack_ofScientific_long hpos hc he ?_
    cases negative with
    | true =>
        rw [if_pos rfl, Int.negOfNat_eq]
        exact hr
    | false => exact hr

theorem lt_pow_length (n : Nat) : n < 10 ^ (digits n).length :=
  (Nat.length_toDigits_le_iff (by decide) Nat.length_toDigits_pos).mp le_rfl

theorem pow_length_le (hpos : 0 < n) : 10 ^ ((digits n).length - 1) ≤ n := by
  rcases Nat.eq_zero_or_pos ((digits n).length - 1) with hzero | hlong
  · rw [hzero]
    exact hpos
  · refine Nat.le_of_not_lt fun hlt => ?_
    have hshort : (digits n).length ≤ (digits n).length - 1 :=
      (Nat.length_toDigits_le_iff (by decide) hlong).mpr hlt
    omega

/-- What rounds to a magnitude has its first digit within the range. -/
theorem RoundsTo.leading_bounds {i : Int} (hr : RoundsTo (n * 10 ^ i) m e) (hpos : 0 < n)
    (hc : IsCanonical m e) (he : e ≤ 971) :
    -330 ≤ ((digits n).length : Int) + i ∧ ((digits n).length : Int) + i ≤ 310 := by
  have hp : (0 : ℚ) < 10 ^ i := by positivity
  constructor
  · by_contra hsize
    have hhigh : (n : ℚ) ≤ 10 ^ (digits n).length := by exact_mod_cast (lt_pow_length n).le
    have hvalue : (n * 10 ^ i : ℚ) ≤ 10 ^ (((digits n).length : Int) + i) := by
      rw [zpow_add₀ (by norm_num), zpow_natCast]
      exact mul_le_mul_of_nonneg_right hhigh hp.le
    have hbound : (10 : ℚ) ^ (((digits n).length : Int) + i) ≤ 10 ^ (-331 : Int) :=
      zpow_le_zpow_right₀ (by norm_num) (by omega)
    have hleast : (10 : ℚ) ^ (-331 : Int) ≤ 1 / 2 * 2 ^ (-1074 : Int) := by
      have hnat : 2 ^ 1075 ≤ 10 ^ 331 := by decide +kernel
      have hcast : (2 : ℚ) ^ (1075 : Int) ≤ 10 ^ (331 : Int) := by exact_mod_cast hnat
      rw [half_least, zpow_neg, zpow_neg]
      exact inv_anti₀ (by positivity) hcast
    exact absurd (hr.half_lt hc) (not_lt.mpr (hvalue.trans (hbound.trans hleast)))
  · by_contra hsize
    have hlow : (10 : ℚ) ^ ((digits n).length - 1) ≤ n := by exact_mod_cast pow_length_le hpos
    have hvalue : (10 : ℚ) ^ (((digits n).length - 1 : Nat) + i) ≤ n * 10 ^ i := by
      rw [zpow_add₀ (by norm_num), zpow_natCast]
      exact mul_le_mul_of_nonneg_right hlow hp.le
    have hbound : (10 : ℚ) ^ (310 : Int) ≤ 10 ^ (((digits n).length - 1 : Nat) + i) :=
      zpow_le_zpow_right₀ (by norm_num) (by omega)
    have hmost : (2 : ℚ) ^ 1024 ≤ 10 ^ (310 : Int) := by
      have hnat : 2 ^ 1024 ≤ 10 ^ 310 := by decide +kernel
      exact_mod_cast hnat
    exact absurd (hr.lt_bound hc he) (not_lt.mpr (hmost.trans (hbound.trans hvalue)))

/-- **A decimal is read as the number nearest to it**, whatever its size. -/
theorem unpack_nearest {i : Int} (hc : IsCanonical m e) (he : e ≤ 971)
    (hr : RoundsTo (n * 10 ^ i) m e) :
    (nearest n i).toModel.unpack = .finite .positive m e hc.pos := by
  have hpos := hr.digits_pos hc
  obtain ⟨hsmall, hlarge⟩ := hr.leading_bounds hpos hc he
  have hnearest : nearest n i = Float.ofScientific n (decide (i < 0)) i.natAbs := by
    unfold nearest
    rw [if_neg (by omega), if_neg (by omega)]
  rw [hnearest]
  refine unpack_ofScientific _ hc he ?_
  have htens : tens (decide (i < 0)) i.natAbs = 10 ^ i := by
    unfold tens
    by_cases hi : i < 0
    · rw [if_pos (by simpa using hi)]
      congr 1
      omega
    · rw [if_neg (by simpa using hi)]
      congr 1
      omega
  rwa [htens]

end SheetQuery.Decimal
