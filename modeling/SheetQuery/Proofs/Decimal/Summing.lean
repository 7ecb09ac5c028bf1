import Mathlib.Data.Nat.Cast.Order.Field
import SheetQuery.Proofs.Decimal.Whole

/-!
# Whole numbers in floating-point arithmetic

A whole number that is taken as a floating-point number keeps its first 53 binary digits: it becomes
the nearest whole number that has no more, apart from zeros at its end. The sum of two such numbers
is computed exactly and then rounded in the same way. Numbers up to `2 ^ 53` stay as they are.

Main statements: `hasValue_of_isRounded`, `hasValue_add`, `wholePart?_of_hasValue` and
`runningSum_eq_sum`.
-/

namespace SheetQuery.Decimal

open Float.Model Float.Model.UnpackedFloat

/-! ## The nearest whole number -/

/-- The place value of the last of 53 binary digits. -/
def lastPlace (n : Nat) : Nat :=
  2 ^ (n.log2 - 52)

/-- The natural number nearest to `n` with at most 53 binary digits and zeros behind them; from the
middle the one whose last digit is even. -/
def nearestNat (n : Nat) : Nat :=
  (if 2 * (n % lastPlace n) < lastPlace n ∨
      2 * (n % lastPlace n) = lastPlace n ∧ n / lastPlace n % 2 = 0 then n / lastPlace n
    else n / lastPlace n + 1) * lastPlace n

/-- **The whole number nearest to `n`** that a floating-point number can be. -/
def nearestBinary (n : Int) : Int :=
  n.sign * nearestNat n.natAbs

variable {n : Nat}

theorem lastPlace_pos (n : Nat) : 0 < lastPlace n :=
  Nat.pow_pos (by decide)

theorem lastPlace_eq_one (h : n < 2 ^ 53) : lastPlace n = 1 := by
  have hlog : n.log2 < 53 := by
    rcases Nat.eq_zero_or_pos n with rfl | hpos
    · decide
    · exact (Nat.log2_lt hpos.ne').mpr h
  have hzero : n.log2 - 52 = 0 := by omega
  rw [lastPlace, hzero, pow_zero]

/-- A number with nothing behind its 53 digits is the nearest to itself. -/
theorem nearestNat_of_dvd (h : lastPlace n ∣ n) : nearestNat n = n := by
  have hrest : n % lastPlace n = 0 := Nat.mod_eq_zero_of_dvd h
  have hpos := lastPlace_pos n
  rw [nearestNat, hrest, if_pos (Or.inl (by omega))]
  exact Nat.div_mul_cancel h

theorem nearestNat_of_le (h : n ≤ 2 ^ 53) : nearestNat n = n := by
  refine nearestNat_of_dvd ?_
  rcases Nat.lt_or_eq_of_le h with hlt | rfl
  · rw [lastPlace_eq_one hlt]
    exact Nat.one_dvd n
  · decide

/-- The digits that are kept: as many as there is room for. -/
theorem div_lastPlace_bounds (h : 2 ^ 53 ≤ n) :
    2 ^ 52 ≤ n / lastPlace n ∧ n / lastPlace n < 2 ^ 53 ∧ 53 ≤ n.log2 := by
  have hne : n ≠ 0 := by omega
  have hlog : 53 ≤ n.log2 := (Nat.le_log2 hne).mpr h
  have hlow : 2 ^ 52 * lastPlace n ≤ n := by
    rw [lastPlace, ← pow_add, Nat.add_sub_cancel' (by omega)]
    exact Nat.log2_self_le hne
  have hhigh : n < 2 ^ 53 * lastPlace n := by
    rw [lastPlace, ← pow_add]
    have hexponent : 53 + (n.log2 - 52) = n.log2 + 1 := by omega
    rw [hexponent]
    exact Nat.lt_log2_self
  exact ⟨(Nat.le_div_iff_mul_le (lastPlace_pos n)).mpr hlow,
    (Nat.div_lt_iff_lt_mul (lastPlace_pos n)).mpr hhigh, hlog⟩

/-- A number is its full steps and a part of one. -/
theorem cast_div_eq (n : Nat) {step : Nat} (hpos : 0 < step) :
    (n / step : ℚ) = (n / step : Nat) + (n % step : Nat) / step := by
  have hne : (step : ℚ) ≠ 0 := by exact_mod_cast hpos.ne'
  have hparts : (step * (n / step : Nat) + (n % step : Nat) : ℚ) = n := by
    exact_mod_cast Nat.div_add_mod n step
  rw [← hparts]
  field_simp

theorem div_le_half_iff (rest : Nat) {step : Nat} (hpos : 0 < step) :
    (rest / step : ℚ) ≤ 1 / 2 ↔ 2 * rest ≤ step := by
  have hcast : (2 * rest : ℚ) ≤ step ↔ 2 * rest ≤ step := by exact_mod_cast Iff.rfl
  rw [div_le_iff₀ (by exact_mod_cast hpos), ← hcast]
  constructor <;> intro h <;> linarith

theorem half_le_div_iff (rest : Nat) {step : Nat} (hpos : 0 < step) :
    1 / 2 ≤ (rest / step : ℚ) ↔ step ≤ 2 * rest := by
  have hcast : (step : ℚ) ≤ 2 * rest ↔ step ≤ 2 * rest := by exact_mod_cast Iff.rfl
  rw [le_div_iff₀ (by exact_mod_cast hpos), ← hcast]
  constructor <;> intro h <;> linarith

/-- The digits of the nearest number, as a number, and how far it is from there in units of the last
digit. -/
theorem exists_nearestNat (n : Nat) : ∃ r : Nat, nearestNat n = r * lastPlace n ∧
    (r : ℚ) - 1 / 2 ≤ n / lastPlace n ∧ (n / lastPlace n : ℚ) ≤ r + 1 / 2 ∧
    ((n / lastPlace n : ℚ) = r - 1 / 2 ∨ (n / lastPlace n : ℚ) = r + 1 / 2 → r % 2 = 0) ∧
    (r = n / lastPlace n ∨ r = n / lastPlace n + 1) := by
  have hpos := lastPlace_pos n
  have hhigh := div_le_half_iff (n % lastPlace n) hpos
  have hlow := half_le_div_iff (n % lastPlace n) hpos
  have hnonneg : (0 : ℚ) ≤ (n % lastPlace n : Nat) / lastPlace n := by positivity
  have hless : ((n % lastPlace n : Nat) / lastPlace n : ℚ) < 1 := by
    rw [div_lt_one (by exact_mod_cast hpos)]
    exact_mod_cast Nat.mod_lt n hpos
  unfold nearestNat
  rw [cast_div_eq n hpos]
  generalize ((n % lastPlace n : Nat) / lastPlace n : ℚ) = part at *
  generalize n / lastPlace n = q
  split
  · next hdown =>
      have hhalf : part ≤ 1 / 2 := hhigh.mpr (by omega)
      refine ⟨q, rfl, by linarith, by linarith, ?_, Or.inl rfl⟩
      rintro (heq | heq)
      · linarith
      · have htie := hlow.mp (by linarith)
        omega
  · next hup =>
      have hhalf : 1 / 2 ≤ part := hlow.mpr (by omega)
      refine ⟨q + 1, rfl, by push_cast; linarith, by push_cast; linarith, ?_, Or.inr rfl⟩
      push_cast
      rintro (heq | heq)
      · have htie := hhigh.mp (by linarith)
        omega
      · linarith

/-- A number of 53 digits at most is a magnitude itself, with zeros behind it. -/
theorem exists_isCanonical_of_lt (hpos : 0 < n) (hlt : n < 2 ^ 53) :
    ∃ m e, IsCanonical m e ∧ e ≤ 971 ∧ (n : ℚ) = m * 2 ^ e := by
  have hlog : n.log2 < 53 := (Nat.log2_lt hpos.ne').mpr hlt
  obtain ⟨k, hk⟩ : ∃ k, n.log2 + k = 52 := ⟨52 - n.log2, by omega⟩
  have hroom : n * 2 ^ k < 2 ^ 53 :=
    calc n * 2 ^ k < 2 ^ (n.log2 + 1) * 2 ^ k :=
          Nat.mul_lt_mul_of_pos_right Nat.lt_log2_self (by positivity)
      _ = 2 ^ 53 := by rw [← pow_add]; congr 1; omega
  have hfull : 2 ^ 52 ≤ n * 2 ^ k :=
    calc 2 ^ 52 = 2 ^ n.log2 * 2 ^ k := by rw [← pow_add, hk]
      _ ≤ n * 2 ^ k := Nat.mul_le_mul_right _ (Nat.log2_self_le hpos.ne')
  refine ⟨n * 2 ^ k, -k, ⟨by positivity, hroom, by omega, Or.inr hfull⟩, by omega, ?_⟩
  push_cast
  rw [zpow_neg, zpow_natCast]
  field_simp

/-- The digits nearest to a number are those it rounds to, as long as there is room for them. -/
theorem roundsTo_of_digits {v x : ℚ} {q r k : Nat} (hv : v = x * 2 ^ (k : Int)) (hq : 2 ^ 52 ≤ q)
    (hqx : (q : ℚ) ≤ x) (hqr : q ≤ r) (hlow : (r : ℚ) - 1 / 2 ≤ x) (hhigh : x ≤ r + 1 / 2)
    (heven : x = r - 1 / 2 ∨ x = r + 1 / 2 → r % 2 = 0) : RoundsTo v r k := by
  have hrx : r = 2 ^ 52 → (r : ℚ) ≤ x := by
    intro hr
    obtain rfl : r = q := by omega
    exact hqx
  refine roundsTo_of_steps hv ?_ hhigh ?_
  · unfold stepBelow
    split
    · next hpower => linarith [hrx hpower.1]
    · exact hlow
  · unfold stepBelow
    split
    · next hpower => exact fun _ => hpower.1 ▸ by norm_num
    · exact heven

/-- Where rounding makes a digit more, the number rounds to a power of two. -/
theorem roundsTo_of_carry {v x : ℚ} {k : Nat} (hv : v = x * 2 ^ (k : Int))
    (hlow : (2 ^ 53 : ℚ) - 1 / 2 ≤ x) (hhigh : x ≤ 2 ^ 53 + 1 / 2) :
    RoundsTo v (2 ^ 52) (k + 1) := by
  have hstep : stepBelow (2 ^ 52) (k + 1) = 1 / 4 := if_pos ⟨rfl, by omega⟩
  have hhalf : v = x / 2 * 2 ^ (k + 1 : Int) := by
    rw [hv, zpow_add_one₀ (by norm_num)]
    ring
  refine roundsTo_of_steps hhalf ?_ ?_ fun _ => by decide
  · rw [hstep]
    push_cast
    linarith
  · push_cast
    linarith

/-- The nearest number is a magnitude, the one that the number rounds to. -/
theorem exists_roundsTo_nearestNat (hpos : 0 < n) (hlt : n < 2 ^ 128) :
    ∃ m e, IsCanonical m e ∧ e ≤ 971 ∧ RoundsTo n m e ∧ (nearestNat n : ℚ) = m * 2 ^ e := by
  rcases Nat.lt_or_ge n (2 ^ 53) with hsmall | hlarge
  · obtain ⟨m, e, hc, he, hvalue⟩ := exists_isCanonical_of_lt hpos hsmall
    rw [nearestNat_of_le hsmall.le, hvalue]
    exact ⟨m, e, hc, he, roundsTo_self m e, rfl⟩
  · obtain ⟨hfull, hroom, hlog⟩ := div_lastPlace_bounds hlarge
    obtain ⟨r, hr, hlow, hhigh, heven, hnear⟩ := exists_nearestNat n
    have hlog' : n.log2 < 128 := (Nat.log2_lt hpos.ne').mpr hlt
    obtain ⟨k, hk⟩ : ∃ k, n.log2 = 52 + k := ⟨n.log2 - 52, by omega⟩
    have hplace : lastPlace n = 2 ^ k := by rw [lastPlace, hk, Nat.add_sub_cancel_left]
    have hcast : (lastPlace n : ℚ) = 2 ^ (k : Int) := by
      rw [hplace, zpow_natCast]
      push_cast
      rfl
    have hle : (n / lastPlace n : Nat) ≤ (n / lastPlace n : ℚ) := Nat.cast_div_le
    have hvalue : (n : ℚ) = n / lastPlace n * 2 ^ (k : Int) := by
      rw [hcast]
      field_simp
    have hnearest : (nearestNat n : ℚ) = r * 2 ^ (k : Int) := by
      rw [hr, ← hcast]
      push_cast
      rfl
    rcases Nat.lt_or_ge r (2 ^ 53) with hr' | hr'
    · exact ⟨r, k, ⟨by omega, hr', by omega, Or.inr (by omega)⟩, by omega,
        roundsTo_of_digits hvalue hfull hle (by omega) hlow hhigh heven, hnearest⟩
    · obtain rfl : r = 2 ^ 53 := by omega
      push_cast at hlow hhigh hnearest
      refine ⟨2 ^ 52, k + 1, ⟨by decide, by decide, by omega, Or.inr le_rfl⟩, by omega,
        roundsTo_of_carry hvalue hlow hhigh, ?_⟩
      rw [hnearest, zpow_add_one₀ (by norm_num)]
      push_cast
      ring

/-- Up to a power of two, and a little beyond, the nearest number is not greater. -/
theorem nearestNat_le {k : Nat} (hk : 53 ≤ k) (hn : 2 * n < 2 * 2 ^ k + 2 ^ (k - 52)) :
    nearestNat n ≤ 2 ^ k := by
  rcases Nat.lt_or_ge n (2 ^ k) with hlt | hge
  · rcases Nat.lt_or_ge n (2 ^ 53) with hsmall | hlarge
    · rw [nearestNat_of_le hsmall.le]
      exact hlt.le
    · obtain ⟨-, hroom, hlog⟩ := div_lastPlace_bounds hlarge
      have hlog' : n.log2 < k := (Nat.log2_lt (by omega)).mpr hlt
      obtain ⟨r, hr, -, -, -, hnear⟩ := exists_nearestNat n
      calc nearestNat n = r * lastPlace n := hr
        _ ≤ 2 ^ 53 * lastPlace n := Nat.mul_le_mul_right _ (by omega)
        _ = 2 ^ (n.log2 + 1) := by rw [lastPlace, ← pow_add]; congr 1; omega
        _ ≤ 2 ^ k := Nat.pow_le_pow_right (by decide) hlog'
  · -- nothing but zeros follows the first digit as far as digits are kept
    obtain ⟨j, rfl⟩ : ∃ j, k = 52 + j := ⟨k - 52, by omega⟩
    rw [Nat.add_sub_cancel_left, pow_add] at hn
    rw [pow_add] at hge
    have hj : 0 < 2 ^ j := by positivity
    have hlog : n.log2 = 52 + j := by
      refine (Nat.log2_eq_iff (by omega)).mpr ⟨by rwa [pow_add], ?_⟩
      rw [Nat.add_right_comm, pow_add]
      omega
    have hplace : lastPlace n = 2 ^ j := by rw [lastPlace, hlog, Nat.add_sub_cancel_left]
    have hdiv : n / 2 ^ j = 2 ^ 52 := by
      rw [Nat.div_eq_iff hj]
      omega
    have hmod : n % 2 ^ j = n - 2 ^ 52 * 2 ^ j := by
      have hparts := Nat.div_add_mod n (2 ^ j)
      rw [hdiv, Nat.mul_comm] at hparts
      omega
    rw [nearestNat, hplace, hdiv, hmod, if_pos (Or.inl (by omega)), pow_add]

theorem nearestBinary_of_natAbs_le {n : Int} (h : n.natAbs ≤ 2 ^ 53) : nearestBinary n = n := by
  rw [nearestBinary, nearestNat_of_le h, Int.sign_mul_natAbs]

theorem natAbs_nearestBinary_le {n : Int} {k : Nat} (hk : 53 ≤ k)
    (hn : 2 * n.natAbs < 2 * 2 ^ k + 2 ^ (k - 52)) : (nearestBinary n).natAbs ≤ 2 ^ k := by
  have hle := nearestNat_le hk hn
  have hsign : n.sign.natAbs ≤ 1 := by
    rcases lt_trichotomy n 0 with h | rfl | h
    · rw [Int.sign_eq_neg_one_of_neg h]
      decide
    · decide
    · rw [Int.sign_eq_one_of_pos h]
      decide
  rw [nearestBinary, Int.natAbs_mul, Int.natAbs_natCast]
  calc n.sign.natAbs * nearestNat n.natAbs ≤ 1 * nearestNat n.natAbs :=
        Nat.mul_le_mul_right _ hsign
    _ ≤ 2 ^ k := by rwa [Nat.one_mul]

/-! ## Numbers that are whole -/

/-- The floating-point number is the whole number. -/
inductive HasValue (n : Int) : UnpackedFloat → Prop where
  | zero (hn : n = 0) : HasValue n (.zero .positive)
  | finite {s : Sign} {m : Nat} {e : Int} (hc : IsCanonical m e) (he : e ≤ 971)
      (hn : (n : ℚ) = (s.apply m : Int) * 2 ^ e) : HasValue n (.finite s m e hc.pos)

variable {a b k : Int} {x y : Float}

/-- The sign stands before the digits as before the number. -/
theorem exists_apply_of_cast {s : Sign} {m : Nat} {e : Int}
    (h : (a : ℚ) = (s.apply m : Int) * 2 ^ e) : ∃ n : Nat, a = s.apply n ∧ (n : ℚ) = m * 2 ^ e := by
  have hnonneg : (0 : ℚ) ≤ m * 2 ^ e := by positivity
  cases s with
  | positive =>
      have hvalue : (a : ℚ) = m * 2 ^ e := h
      have ha : 0 ≤ a := by exact_mod_cast hvalue ▸ hnonneg
      obtain ⟨n, rfl⟩ := Int.eq_ofNat_of_zero_le ha
      exact ⟨n, rfl, hvalue⟩
  | negative =>
      have hvalue : -(a : ℚ) = m * 2 ^ e := by
        rw [h]
        show -(((-(m : Int) : Int) : ℚ) * 2 ^ e) = m * 2 ^ e
        push_cast
        ring
      have ha : 0 ≤ -a := by exact_mod_cast hvalue ▸ hnonneg
      obtain ⟨n, hn⟩ := Int.eq_ofNat_of_zero_le ha
      obtain rfl : a = -n := by omega
      rw [Int.cast_neg, neg_neg] at hvalue
      exact ⟨n, rfl, hvalue⟩

/-- A number that is whole rounds to itself. -/
theorem HasValue.isRounded {u : UnpackedFloat} (h : HasValue a u) : IsRounded a u := by
  cases h with
  | zero hn => exact .zero (by exact_mod_cast hn)
  | @finite s m e hc he hn =>
      obtain ⟨n, rfl, hvalue⟩ := exists_apply_of_cast hn
      have hself : RoundsTo n m e := hvalue ▸ roundsTo_self m e
      cases s with
      | positive => exact .positive hc hself
      | negative =>
          refine .negative hc ?_
          show RoundsTo (-((-(n : Int) : Int) : ℚ)) m e
          rwa [Int.cast_neg, neg_neg]

/-- **A whole number is rounded to the nearest one** of 53 binary digits. -/
theorem hasValue_of_isRounded (h : IsRounded a x.toModel.unpack) (ha : a.natAbs < 2 ^ 128) :
    HasValue (nearestBinary a) x.toModel.unpack := by
  generalize hu : x.toModel.unpack = u at h
  cases h with
  | zero hv =>
      obtain rfl : a = 0 := by exact_mod_cast hv
      exact .zero rfl
  | @positive m e hc hr =>
      have hpos : 0 < a := by exact_mod_cast hr.pos hc
      obtain ⟨-, -, he, -⟩ := magnitude_eq hu
      obtain ⟨n, rfl⟩ := Int.eq_ofNat_of_zero_le hpos.le
      obtain ⟨m', e', hc', -, hr', hvalue⟩ :=
        exists_roundsTo_nearestNat (n := n) (by omega) (by simpa using ha)
      obtain ⟨rfl, rfl⟩ := RoundsTo.unique hc hc' hr (by simpa using hr')
      refine .finite hc he ?_
      rw [nearestBinary, Int.sign_eq_one_of_pos hpos, Int.one_mul, Int.natAbs_natCast]
      exact hvalue
  | @negative m e hc hr =>
      have hneg : a < 0 := by
        have hpos := hr.pos hc
        have hcast : (a : ℚ) < 0 := by linarith
        exact_mod_cast hcast
      obtain ⟨-, -, he, -⟩ := magnitude_eq hu
      obtain ⟨n, hn⟩ := Int.eq_ofNat_of_zero_le (a := -a) (by omega)
      obtain rfl : a = -n := by omega
      obtain ⟨m', e', hc', -, hr', hvalue⟩ :=
        exists_roundsTo_nearestNat (n := n) (by omega) (by simpa using ha)
      obtain ⟨rfl, rfl⟩ := RoundsTo.unique hc hc' hr (by simpa using hr')
      refine .finite hc he ?_
      rw [nearestBinary, Int.sign_eq_neg_one_of_neg hneg, Int.natAbs_neg, Int.natAbs_natCast]
      show (((-1 : Int) * (nearestNat n : Int) : Int) : ℚ) = ((-(m : Int) : Int) : ℚ) * 2 ^ e
      push_cast
      rw [hvalue]
      ring

/-! ## Sums -/

theorem normalize_eq_of_pos (h : 0 < a) (e : Int) :
    normalize .binary64 a e .positive = UnpackedFloat.round .binary64 .positive a.toNat e := by
  show (match compare a 0 with
    | .lt => UnpackedFloat.round .binary64 .negative (-a).toNat e
    | .eq => .zero .positive
    | .gt => UnpackedFloat.round .binary64 .positive a.toNat e) = _
  rw [compare_gt_iff_gt.mpr h]

theorem normalize_eq_of_neg (h : a < 0) (e : Int) :
    normalize .binary64 a e .positive = UnpackedFloat.round .binary64 .negative (-a).toNat e := by
  show (match compare a 0 with
    | .lt => UnpackedFloat.round .binary64 .negative (-a).toNat e
    | .eq => .zero .positive
    | .gt => UnpackedFloat.round .binary64 .positive a.toNat e) = _
  rw [compare_lt_iff_lt.mpr h]

theorem normalize_zero (e : Int) : normalize .binary64 0 e .positive = .zero .positive :=
  rfl

/-- A natural number given with an exponent is rounded. -/
theorem exists_unpack_round (s : Sign) {M n : Nat} {e : Int} (hM : 0 < M)
    (hn : (n : ℚ) = M * 2 ^ e) (hsmall : n < 2 ^ 128) : ∃ m f, ∃ hc : IsCanonical m f,
      RoundsTo n m f ∧ (Float.Model.pack (UnpackedFloat.round .binary64 s M e)).unpack =
        .finite s m f hc.pos := by
  have hpos : 0 < n := by
    have hcast : (0 : ℚ) < n := by
      rw [hn]
      positivity
    exact_mod_cast hcast
  obtain ⟨m, f, hc, hf, hr, -⟩ := exists_roundsTo_nearestNat hpos hsmall
  exact ⟨m, f, hc, hr, unpack_pack_round s hM hc hf (hn ▸ hr)⟩

/-- So is a whole number, with its sign. -/
theorem isRounded_normalize {M e : Int} (ha : (a : ℚ) = M * 2 ^ e) (hsmall : a.natAbs < 2 ^ 128) :
    IsRounded a (Float.Model.pack (normalize .binary64 M e .positive)).unpack := by
  have hp : (0 : ℚ) < 2 ^ e := by positivity
  rcases lt_trichotomy M 0 with hM | rfl | hM
  · obtain ⟨N, rfl⟩ : ∃ N : Nat, M = -N := ⟨M.natAbs, by omega⟩
    have hneg : a < 0 := by
      have hcast : (a : ℚ) < 0 := by
        rw [ha]
        exact mul_neg_of_neg_of_pos (by exact_mod_cast hM) hp
      exact_mod_cast hcast
    obtain ⟨n, rfl⟩ : ∃ n : Nat, a = -n := ⟨a.natAbs, by omega⟩
    push_cast at ha
    obtain ⟨m, f, hc, hr, hunpack⟩ := exists_unpack_round .negative (M := N) (n := n) (e := e)
      (by omega) (by linarith) (by simpa using hsmall)
    rw [normalize_eq_of_neg hM, Int.neg_neg, Int.toNat_natCast, hunpack]
    exact .negative hc (by simpa using hr)
  · obtain rfl : a = 0 := by
      rw [Int.cast_zero, zero_mul] at ha
      exact_mod_cast ha
    rw [normalize_zero, unpack_pack_zero]
    exact .zero Int.cast_zero
  · obtain ⟨N, rfl⟩ : ∃ N : Nat, M = N := ⟨M.natAbs, by omega⟩
    have hpos : 0 < a := by
      have hcast : (0 : ℚ) < a := by
        rw [ha]
        exact mul_pos (by exact_mod_cast hM) hp
      exact_mod_cast hcast
    obtain ⟨n, rfl⟩ : ∃ n : Nat, a = n := ⟨a.natAbs, by omega⟩
    obtain ⟨m, f, hc, hr, hunpack⟩ := exists_unpack_round .positive (M := N) (n := n) (e := e)
      (by omega) (by exact_mod_cast ha) (by simpa using hsmall)
    rw [normalize_eq_of_pos hM, Int.toNat_natCast, hunpack]
    exact .positive hc (by simpa using hr)

/-- Shifting digits in brings a magnitude to a smaller exponent. -/
theorem apply_shiftLeft (s : Sign) (m : Nat) {e f : Int} (h : f ≤ e) :
    ((s.apply (m <<< (e - f).toNat : Nat) : Int) : ℚ) * 2 ^ f = (s.apply m : Int) * 2 ^ e := by
  have hshift : ((m <<< (e - f).toNat : Nat) : ℚ) * 2 ^ f = m * 2 ^ e := by
    have hpower : (2 : ℚ) ^ (e - f).toNat = 2 ^ (e - f) := by
      rw [← zpow_natCast, Int.toNat_of_nonneg (by omega)]
    rw [Nat.shiftLeft_eq]
    push_cast
    rw [hpower, mul_assoc, ← zpow_add₀ (by norm_num), Int.sub_add_cancel]
  cases s with
  | positive => exact hshift
  | negative =>
      show ((-((m <<< (e - f).toNat : Nat) : Int) : Int) : ℚ) * 2 ^ f =
        ((-(m : Int) : Int) : ℚ) * 2 ^ e
      rw [Int.cast_neg, Int.cast_neg, Int.cast_natCast, Int.cast_natCast, neg_mul, neg_mul, hshift]

/-- **The sum of whole numbers is rounded once.** -/
theorem isRounded_add (hx : HasValue a x.toModel.unpack) (hy : HasValue b y.toModel.unpack)
    (hsmall : (a + b).natAbs < 2 ^ 128) : IsRounded (a + b : Int) (x + y).toModel.unpack := by
  show IsRounded (a + b : Int) (Float.Model.pack
    (UnpackedFloat.add .binary64 x.toModel.unpack y.toModel.unpack)).unpack
  generalize x.toModel.unpack = u at hx
  generalize y.toModel.unpack = v at hy
  cases hx with
  | zero ha =>
      subst ha
      rw [Int.zero_add]
      cases hy with
      | zero hb => exact .zero (by exact_mod_cast hb)
      | @finite s m e hc he hb =>
          have hrounded := (HasValue.finite hc he hb).isRounded
          rw [← unpack_pack hc he s hc.pos] at hrounded
          exact hrounded
  | @finite s m e hc he ha =>
      cases hy with
      | zero hb =>
          subst hb
          have hrounded := (HasValue.finite hc he ha).isRounded
          rw [← unpack_pack hc he s hc.pos] at hrounded
          rw [Int.add_zero]
          exact hrounded
      | @finite t l f hd hf hb =>
          refine isRounded_normalize ?_ hsmall
          rw [Int.cast_add, Int.cast_add, add_mul]
          rw [apply_shiftLeft s m (min_le_left e f), apply_shiftLeft t l (min_le_right e f), ha, hb]

/-- So a sum of whole numbers is the nearest whole number of 53 binary digits. -/
theorem hasValue_add (hx : HasValue a x.toModel.unpack) (hy : HasValue b y.toModel.unpack)
    (hsmall : (a + b).natAbs < 2 ^ 128) :
    HasValue (nearestBinary (a + b)) (x + y).toModel.unpack :=
  hasValue_of_isRounded (isRounded_add hx hy hsmall) hsmall

/-! ## Back to whole numbers -/

theorem signed_eq (x : Float) (n : Nat) : signed x n = (signOf x).apply n := by
  unfold signed signOf
  cases isNegative x <;> rfl

/-- What is left of the digits of a whole number where those behind its point are cut off. -/
theorem div_pow_of_cast {n m k : Nat} (h : (n : ℚ) = m * 2 ^ (-k : Int)) : m / 2 ^ k = n := by
  have hcast : (m : ℚ) = n * 2 ^ k := by
    rw [h, zpow_neg, zpow_natCast]
    field_simp
  have hm : m = n * 2 ^ k := by exact_mod_cast hcast
  rw [hm]
  exact Nat.mul_div_cancel n (by positivity)

/-- **The whole part of a number that is whole** is the number. -/
theorem wholePart?_of_hasValue (h : HasValue a x.toModel.unpack) : wholePart? x = some a := by
  generalize hu : x.toModel.unpack = u at h
  cases h with
  | zero ha =>
      have hfinite : x.isFinite = true := by
        show x.toModel.unpack.isFinite = true
        rw [hu]
        rfl
      obtain ⟨-, hzero⟩ := magnitude_eq_zero hu
      have hsigned : signed x 0 = 0 := by
        unfold signed
        split <;> rfl
      rw [wholePart?, if_pos hfinite, ha]
      dsimp only
      rw [hzero, Nat.zero_mul, Nat.zero_div, hsigned, ite_self]
  | @finite s m e hc he ha =>
      have hfinite : x.isFinite = true := by
        show x.toModel.unpack.isFinite = true
        rw [hu]
        rfl
      obtain ⟨hs, -, -, hmagnitude⟩ := magnitude_eq hu
      obtain ⟨n, rfl, hn⟩ := exists_apply_of_cast ha
      rw [wholePart?, if_pos hfinite, hmagnitude]
      dsimp only
      rw [signed_eq, signed_eq, ← hs]
      rcases le_or_gt 0 e with he | he
      · obtain ⟨k, rfl⟩ := Int.eq_ofNat_of_zero_le he
        rw [zpow_natCast] at hn
        have hvalue : m * 2 ^ k = n := by exact_mod_cast hn.symm
        rw [if_pos he, Int.toNat_natCast]
        exact congrArg (fun q : Nat => some (s.apply q)) hvalue
      · obtain ⟨k, rfl⟩ : ∃ k : Nat, e = -k := ⟨e.natAbs, by omega⟩
        rw [if_neg (by omega), Int.neg_neg, Int.toNat_natCast]
        exact congrArg (fun q : Nat => some (s.apply q)) (div_pow_of_cast hn)

/-! ## Running sums -/

/-- The sum from a total on, from the left: each number and each sum is brought to the nearest one of
53 binary digits. -/
def runningSum (total : Int) (numbers : List Int) : Int :=
  numbers.foldl (fun total n => nearestBinary (total + nearestBinary n)) total

/-- **A running sum is exact** where all numbers and all sums on the way stay as they are. -/
theorem runningSum_eq_sum {total : Int} {numbers : List Int}
    (hnumbers : ∀ n ∈ numbers, nearestBinary n = n)
    (hsums : ∀ first, first <+: numbers →
      nearestBinary (total + first.sum) = total + first.sum) :
    runningSum total numbers = total + numbers.sum := by
  induction numbers generalizing total with
  | nil => exact (Int.add_zero total).symm
  | cons n rest ih =>
      obtain ⟨hn, hrest⟩ := List.forall_mem_cons.mp hnumbers
      have hnext : nearestBinary (total + n) = total + n := by
        simpa using hsums [n] (List.prefix_append [n] rest)
      have hsums' : ∀ first, first <+: rest →
          nearestBinary (total + n + first.sum) = total + n + first.sum := by
        intro first hfirst
        simpa [Int.add_assoc] using hsums (n :: first) (by simpa using hfirst)
      rw [runningSum, List.foldl_cons, hn, hnext]
      exact (ih hrest hsums').trans (by rw [List.sum_cons, Int.add_assoc])

end SheetQuery.Decimal
