import Mathlib.Algebra.Order.Field.Power
import Mathlib.Algebra.Order.Field.Rat
import Mathlib.Tactic.FieldSimp
import Mathlib.Tactic.Linarith
import Mathlib.Tactic.NormNum
import Mathlib.Tactic.Positivity
import Mathlib.Tactic.Ring

/-!
# Rounding to a binary floating-point number

The magnitudes of finite floating-point numbers are `m * 2 ^ e` with few enough digits in `m`. The
numbers that round to one of them lie within half a step of it, where the step below a power of two
is half as long, and an end of this range belongs to it when `m` is even. So rounding keeps the
order, and there is one outcome. The rounding of the floating-point model, which shifts digits out
to the right and remembers two bits about them, rounds in this sense.

Main statements: `RoundsTo.le_of_le`, `RoundsTo.unique` and `roundWithAccuracy_roundsTo`.
-/

namespace SheetQuery.Decimal

open Float.Model Float.Model.UnpackedFloat

/-! ## Magnitudes -/

/-- `m * 2 ^ e` is written with as many digits as there is room for. -/
structure IsCanonical (m : Nat) (e : Int) : Prop where
  pos : 0 < m
  lt : m < 2 ^ 53
  le : -1074 ≤ e
  full : e = -1074 ∨ 2 ^ 52 ≤ m

/-- How far down the numbers reach that round to `m * 2 ^ e`, in steps. -/
def stepBelow (m : Nat) (e : Int) : ℚ :=
  if m = 2 ^ 52 ∧ e ≠ -1074 then 1 / 4 else 1 / 2

/-- The number is nearest to `m * 2 ^ e`; one in the middle is taken by the even side. -/
structure RoundsTo (v : ℚ) (m : Nat) (e : Int) : Prop where
  lower : (m - stepBelow m e) * 2 ^ e ≤ v
  upper : v ≤ (m + 1 / 2) * 2 ^ e
  even : v = (m - stepBelow m e) * 2 ^ e ∨ v = (m + 1 / 2) * 2 ^ e → m % 2 = 0

variable {v v' : ℚ} {m m' : Nat} {e e' : Int}

theorem stepBelow_pos (m : Nat) (e : Int) : 0 < stepBelow m e := by
  unfold stepBelow
  split <;> norm_num

theorem stepBelow_le (m : Nat) (e : Int) : stepBelow m e ≤ 1 / 2 := by
  unfold stepBelow
  split <;> norm_num

/-- A magnitude rounds to itself. -/
theorem roundsTo_self (m : Nat) (e : Int) : RoundsTo (m * 2 ^ e) m e := by
  have hp : (0 : ℚ) < 2 ^ e := by positivity
  have hlow := mul_lt_mul_of_pos_right (sub_lt_self (m : ℚ) (stepBelow_pos m e)) hp
  have hhigh : (m : ℚ) * 2 ^ e < (m + 1 / 2) * 2 ^ e := by linarith
  refine ⟨hlow.le, hhigh.le, ?_⟩
  rintro (heq | heq)
  · exact absurd heq hlow.ne'
  · exact absurd heq hhigh.ne

/-- Where a number lies between two magnitudes is measured in steps. -/
theorem roundsTo_of_steps {x : ℚ} (hv : v = x * 2 ^ e) (hlow : m - stepBelow m e ≤ x)
    (hhigh : x ≤ m + 1 / 2) (heven : x = m - stepBelow m e ∨ x = m + 1 / 2 → m % 2 = 0) :
    RoundsTo v m e := by
  have hp : (0 : ℚ) < 2 ^ e := by positivity
  subst hv
  refine ⟨mul_le_mul_of_nonneg_right hlow hp.le, mul_le_mul_of_nonneg_right hhigh hp.le, ?_⟩
  exact fun hends => heven (hends.imp (mul_right_cancel₀ hp.ne') (mul_right_cancel₀ hp.ne'))

/-! ## Order -/

/-- Between magnitudes with one exponent an odd one lies between two even ones. -/
theorem RoundsTo.le_of_le_same (h : RoundsTo v m e) (h' : RoundsTo v' m' e) (hv : v ≤ v') :
    m ≤ m' := by
  by_contra hlt
  have hp : (0 : ℚ) < 2 ^ e := by positivity
  have hsucc : (m' : ℚ) + 1 ≤ m := by exact_mod_cast Nat.lt_of_not_le hlt
  have hstep := stepBelow_le m e
  have hends : (m' + 1 / 2 : ℚ) * 2 ^ e ≤ (m - stepBelow m e) * 2 ^ e := by
    refine mul_le_mul_of_nonneg_right ?_ hp.le
    linarith
  -- both numbers are in the middle between the two magnitudes
  have hlower : v = (m - stepBelow m e) * 2 ^ e := by linarith [h.lower, h'.upper]
  have hupper : v' = (m' + 1 / 2) * 2 ^ e := by linarith [h.lower, h'.upper]
  have hgap : (m : ℚ) - stepBelow m e = m' + 1 / 2 := by
    have heq : (m - stepBelow m e : ℚ) * 2 ^ e = (m' + 1 / 2) * 2 ^ e := by
      linarith [h.lower, h'.upper]
    exact mul_right_cancel₀ hp.ne' heq
  have hadjacent : m ≤ m' + 1 := by
    have hle : (m : ℚ) ≤ m' + 1 := by linarith
    exact_mod_cast hle
  have heven := h.even (Or.inl hlower)
  have heven' := h'.even (Or.inr hupper)
  omega

/-- Magnitudes with a smaller exponent are smaller, so what rounds to them is. -/
theorem RoundsTo.not_lt_exponent (hc : IsCanonical m e) (hc' : IsCanonical m' e')
    (h : RoundsTo v m e) (h' : RoundsTo v' m' e') (hv : v ≤ v') : ¬ e' < e := by
  intro hlt
  have hp : (0 : ℚ) < 2 ^ e' := by positivity
  have hdouble : 2 * (2 : ℚ) ^ e' ≤ 2 ^ e := by
    have hnext : (2 : ℚ) ^ (e' + 1) ≤ 2 ^ e := zpow_le_zpow_right₀ (by norm_num) hlt
    rw [zpow_add_one₀ (by norm_num)] at hnext
    linarith
  have hnormal : e ≠ -1074 := by
    have := hc'.le
    omega
  have hfull : 2 ^ 52 ≤ m := hc.full.resolve_left hnormal
  have hlow : (2 ^ 52 - 1 / 4 : ℚ) ≤ m - stepBelow m e := by
    unfold stepBelow
    split
    · next hpower =>
        rw [hpower.1]
        norm_num
    · next hother =>
        have hsucc : 2 ^ 52 + 1 ≤ m := by
          have hne : m ≠ 2 ^ 52 := fun heq => hother ⟨heq, hnormal⟩
          omega
        have hcast : (2 ^ 52 + 1 : ℚ) ≤ m := by exact_mod_cast hsucc
        linarith
  have hhigh : (m' : ℚ) ≤ 2 ^ 53 - 1 := by
    have hcast : (m' : ℚ) + 1 ≤ 2 ^ 53 := by exact_mod_cast hc'.lt
    linarith
  have hbelow : (2 ^ 53 - 1 / 2 : ℚ) * 2 ^ e' ≤ v := by
    refine le_trans ?_ h.lower
    have hwide : (2 ^ 52 - 1 / 4 : ℚ) * (2 * 2 ^ e') ≤ (2 ^ 52 - 1 / 4) * 2 ^ e :=
      mul_le_mul_of_nonneg_left hdouble (by norm_num)
    have hdeep := mul_le_mul_of_nonneg_right hlow (le_trans (by positivity) hdouble)
    linarith
  have habove : (m' + 1 / 2 : ℚ) * 2 ^ e' ≤ (2 ^ 53 - 1 / 2) * 2 ^ e' :=
    mul_le_mul_of_nonneg_right (by linarith) hp.le
  -- so the other number is the last one below a power of two, which an odd magnitude leaves alone
  have hupper : v' = (m' + 1 / 2) * 2 ^ e' := by linarith [h'.upper]
  have hlast : (m' : ℚ) = 2 ^ 53 - 1 := by
    have heq : (m' + 1 / 2 : ℚ) * 2 ^ e' = (2 ^ 53 - 1 / 2) * 2 ^ e' := by linarith [h'.upper]
    linarith [mul_right_cancel₀ hp.ne' heq]
  have hodd : m' = 2 ^ 53 - 1 := by
    have hcast : (m' : ℚ) + 1 = 2 ^ 53 := by linarith
    have hnat : m' + 1 = 2 ^ 53 := by exact_mod_cast hcast
    omega
  have heven := h'.even (Or.inr hupper)
  omega

/-- **Rounding keeps the order** of numbers. -/
theorem RoundsTo.le_of_le (hc : IsCanonical m e) (hc' : IsCanonical m' e') (h : RoundsTo v m e)
    (h' : RoundsTo v' m' e') (hv : v ≤ v') : e < e' ∨ e = e' ∧ m ≤ m' := by
  rcases lt_trichotomy e e' with hlt | rfl | hgt
  · exact Or.inl hlt
  · exact Or.inr ⟨rfl, h.le_of_le_same h' hv⟩
  · exact absurd hgt (RoundsTo.not_lt_exponent hc hc' h h' hv)

/-- **A number rounds to one magnitude.** -/
theorem RoundsTo.unique (hc : IsCanonical m e) (hc' : IsCanonical m' e') (h : RoundsTo v m e)
    (h' : RoundsTo v m' e') : m = m' ∧ e = e' := by
  have hle := RoundsTo.le_of_le hc hc' h h' le_rfl
  have hge := RoundsTo.le_of_le hc' hc h' h le_rfl
  omega

/-! ## Digits that are shifted out -/

/-- What is left of a number after digits have been shifted out: its whole part, whether the rest is
half a unit at least, and whether it is something else than none and half of one. -/
structure Describes (em : ExtendedMantissa) (u : ℚ) : Prop where
  le : (em.mantissa : ℚ) ≤ u
  lt : u < em.mantissa + 1
  round : em.roundBit = true ↔ (em.mantissa : ℚ) + 1 / 2 ≤ u
  sticky : em.stickyBit = false ↔ u = em.mantissa ∨ u = em.mantissa + 1 / 2

variable {em : ExtendedMantissa} {u : ℚ}

/-- Neither bit is set where nothing is left behind the whole part. -/
theorem Describes.exact_iff (h : Describes em u) :
    (em.roundBit || em.stickyBit) = false ↔ u = em.mantissa := by
  rw [Bool.or_eq_false_iff, Bool.eq_false_iff, ne_eq, h.round, h.sticky]
  constructor
  · rintro ⟨hbelow, heq | heq⟩
    · exact heq
    · exact absurd heq.ge hbelow
  · rintro heq
    exact ⟨by linarith, Or.inl heq⟩

/-- Shifting out one digit halves the number. -/
theorem Describes.shiftRightOne (h : Describes em u) : Describes em.shiftRightOne (u / 2) := by
  have hsticky := h.exact_iff
  obtain ⟨mantissa, roundBit, stickyBit⟩ := em
  obtain ⟨hle, hlt, -, -⟩ := h
  dsimp only at hle hlt hsticky
  rcases Nat.even_or_odd' mantissa with ⟨q, rfl | rfl⟩
  · have hhalf : 2 * q / 2 = q := by omega
    have hbit : (2 * q % 2 != 0) = false := by simp
    push_cast at hle hlt hsticky
    refine ⟨?_, ?_, ?_, ?_⟩ <;> simp only [ExtendedMantissa.shiftRightOne, hhalf, hbit]
    · linarith
    · linarith
    · simp only [Bool.false_eq_true, false_iff]
      linarith
    · have hexact : u / 2 = q ∨ u / 2 = q + 1 / 2 ↔ u = 2 * q := by
        constructor
        · rintro (heq | heq) <;> linarith
        · exact fun heq => Or.inl (by linarith)
      rw [hexact, hsticky]
  · have hhalf : (2 * q + 1) / 2 = q := by omega
    have hbit : ((2 * q + 1) % 2 != 0) = true := by simp
    push_cast at hle hlt hsticky
    refine ⟨?_, ?_, ?_, ?_⟩ <;> simp only [ExtendedMantissa.shiftRightOne, hhalf, hbit]
    · linarith
    · linarith
    · simp only [true_iff]
      linarith
    · have hexact : u / 2 = q ∨ u / 2 = q + 1 / 2 ↔ u = 2 * q + 1 := by
        constructor
        · rintro (heq | heq) <;> linarith
        · exact fun heq => Or.inr (by linarith)
      rw [hexact, hsticky]

theorem Describes.shiftRight (h : Describes em u) (n : Nat) : Describes (em >>> n) (u / 2 ^ n) := by
  induction n with
  | zero =>
      rw [pow_zero, div_one]
      exact h
  | succ n ih =>
      rw [pow_succ, ← div_div]
      exact ih.shiftRightOne

/-- **Rounding goes to the nearest whole number**, and to the even one from the middle. -/
theorem Describes.roundedMantissa (h : Describes em u) :
    (em.roundedMantissa : ℚ) - 1 / 2 ≤ u ∧ u ≤ em.roundedMantissa + 1 / 2 ∧
      (u = em.roundedMantissa - 1 / 2 ∨ u = em.roundedMantissa + 1 / 2 →
        em.roundedMantissa % 2 = 0) ∧
      (em.roundedMantissa = em.mantissa ∨ em.roundedMantissa = em.mantissa + 1) := by
  obtain ⟨mantissa, roundBit, stickyBit⟩ := em
  obtain ⟨hle, hlt, hround, hsticky⟩ := h
  dsimp only at hle hlt hround hsticky
  cases roundBit with
  | false =>
      have hbelow : u < mantissa + 1 / 2 := by simpa using hround
      have hrounded : ExtendedMantissa.roundedMantissa ⟨mantissa, false, stickyBit⟩ = mantissa := by
        cases stickyBit <;> rfl
      rw [hrounded]
      refine ⟨by linarith, hbelow.le, ?_, Or.inl rfl⟩
      rintro (heq | heq) <;> linarith
  | true =>
      have habove : (mantissa : ℚ) + 1 / 2 ≤ u := by simpa using hround
      cases stickyBit with
      | false =>
          have hmiddle : u = mantissa + 1 / 2 := by
            rcases hsticky.mp rfl with heq | heq <;> linarith
          have hrounded : ExtendedMantissa.roundedMantissa ⟨mantissa, true, false⟩ =
              mantissa + mantissa % 2 := rfl
          rw [hrounded]
          rcases Nat.mod_two_eq_zero_or_one mantissa with hparity | hparity
          · rw [hparity]
            exact ⟨by push_cast; linarith, by push_cast; linarith, fun _ => hparity, Or.inl rfl⟩
          · rw [hparity]
            exact ⟨by push_cast; linarith, by push_cast; linarith, fun _ => by omega, Or.inr rfl⟩
      | true =>
          have hinside : u ≠ mantissa + 1 / 2 := fun heq => by simpa using hsticky.mpr (Or.inr heq)
          have hrounded : ExtendedMantissa.roundedMantissa ⟨mantissa, true, true⟩ =
              mantissa + 1 := rfl
          rw [hrounded]
          push_cast
          refine ⟨by linarith, by linarith, ?_, Or.inr rfl⟩
          rintro (heq | heq)
          · exact absurd (by linarith) hinside
          · linarith

/-! ## The rounding of the model -/

/-- How many digits of `m * 2 ^ e` have to go. -/
def excess (m : Nat) (e : Int) : Nat :=
  (max ((m.log2 : Int) + 1 + e - 53) (-1074) - e).toNat

theorem shiftToTargetExponent_eq (m : Nat) (e : Int) (accuracy : Accuracy) :
    shiftToTargetExponent .binary64 m e accuracy =
      (ExtendedMantissa.ofMantissaAndAccuracy m accuracy >>> excess m e, e + excess m e) :=
  rfl

theorem le_add_excess (m : Nat) (e : Int) : -1074 ≤ e + excess m e := by
  unfold excess
  omega

theorem log2_le_excess (m : Nat) (e : Int) : m.log2 ≤ 52 + excess m e := by
  unfold excess
  omega

theorem excess_eq_zero (hm : m < 2 ^ 53) (he : -1074 ≤ e) : excess m e = 0 := by
  have hlog : m.log2 < 53 := by
    rcases Nat.eq_zero_or_pos m with rfl | hpos
    · decide
    · exact (Nat.log2_lt hpos.ne').mpr hm
  unfold excess
  omega

/-- Where digits go, as many are left as there is room for. -/
theorem log2_eq_excess (h : 0 < excess m e) (he : -1074 < e + excess m e) :
    m.log2 = 52 + excess m e := by
  unfold excess at h he ⊢
  omega

/-- What is left of the digits fits. -/
theorem Describes.mantissa_lt {accuracy : Accuracy}
    (h : Describes (ExtendedMantissa.ofMantissaAndAccuracy m accuracy >>> excess m e)
      (u / 2 ^ excess m e)) (hu : u < m + 1) :
    (ExtendedMantissa.ofMantissaAndAccuracy m accuracy >>> excess m e).mantissa < 2 ^ 53 := by
  have hdigits : m + 1 ≤ 2 ^ 53 * 2 ^ excess m e := by
    rw [← pow_add]
    refine le_trans Nat.lt_log2_self (Nat.pow_le_pow_right (by decide) ?_)
    have := log2_le_excess m e
    omega
  have hbound : u / 2 ^ excess m e < 2 ^ 53 := by
    rw [div_lt_iff₀ (by positivity)]
    have hcast : (m : ℚ) + 1 ≤ 2 ^ 53 * 2 ^ excess m e := by exact_mod_cast hdigits
    linarith
  exact_mod_cast h.le.trans_lt hbound

/-- And above the least exponent the room is used. -/
theorem Describes.le_mantissa {accuracy : Accuracy}
    (h : Describes (ExtendedMantissa.ofMantissaAndAccuracy m accuracy >>> excess m e)
      (u / 2 ^ excess m e)) (hu : m ≤ u) (hbits : 2 ^ 52 ≤ m ∨ e ≤ -1074)
    (he : -1074 < e + excess m e) :
    2 ^ 52 ≤ (ExtendedMantissa.ofMantissaAndAccuracy m accuracy >>> excess m e).mantissa := by
  have hdigits : 2 ^ 52 * 2 ^ excess m e ≤ m := by
    rcases Nat.eq_zero_or_pos (excess m e) with hzero | hpos
    · rw [hzero] at he ⊢
      omega
    · have hlog := log2_eq_excess hpos he
      rw [← pow_add, ← hlog]
      refine Nat.log2_self_le ?_
      rintro rfl
      rw [Nat.log2_zero] at hlog
      omega
  have hbound : (2 ^ 52 : ℚ) ≤ u / 2 ^ excess m e := by
    rw [le_div_iff₀ (by positivity)]
    have hcast : (2 ^ 52 * 2 ^ excess m e : ℚ) ≤ m := by exact_mod_cast hdigits
    linarith
  have hcast : (2 ^ 52 : ℚ) < (ExtendedMantissa.ofMantissaAndAccuracy m accuracy >>>
      excess m e).mantissa + 1 := hbound.trans_lt h.lt
  have hnat := Nat.lt_succ_iff.mp (by exact_mod_cast hcast)
  exact hnat

theorem finite_eq_finite {s : Sign} {hm : 0 < m} {hm' : 0 < m'} (h : m = m') (h' : e = e') :
    UnpackedFloat.finite s m e hm = .finite s m' e' hm' := by
  subst h h'
  rfl

/-- The model rounds once and then, where that has made a digit more, shifts once more. -/
theorem roundWithAccuracy_eq (s : Sign) {accuracy : Accuracy} {r : Nat}
    (hr : (ExtendedMantissa.ofMantissaAndAccuracy m accuracy >>> excess m e).roundedMantissa = r)
    (hle : r ≤ 2 ^ 53) :
    roundWithAccuracy .binary64 s m e accuracy =
      if h : r = 0 then .zero s
      else if r = 2 ^ 53 then .finite s (2 ^ 52) (e + excess m e + 1) (by decide)
      else .finite s r (e + excess m e) (Nat.pos_of_ne_zero h) := by
  have hexponent := le_add_excess m e
  rw [roundWithAccuracy, shiftToTargetExponent_eq]
  dsimp only
  rw [hr, shiftToTargetExponent_eq]
  rcases Nat.lt_or_eq_of_le hle with hlt | rfl
  · rw [excess_eq_zero hlt hexponent]
    by_cases hzero : r = 0
    · rw [dif_pos hzero]
      exact dif_pos hzero
    · rw [dif_neg hzero, if_neg hlt.ne]
      refine (dif_neg hzero).trans ?_
      exact finite_eq_finite rfl (Int.add_zero _)
  · have hone : excess (2 ^ 53) (e + excess m e) = 1 := by
      have hlog : (2 ^ 53 : Nat).log2 = 53 := Nat.log2_two_pow
      generalize e + excess m e = first at hexponent
      unfold excess
      rw [hlog]
      omega
    rw [hone]
    rfl

theorem mantissa_ofMantissaAndAccuracy (m : Nat) (accuracy : Accuracy) :
    (ExtendedMantissa.ofMantissaAndAccuracy m accuracy).mantissa = m := by
  rcases accuracy with _ | _ | _ | _ <;> rfl

/-- **The model rounds to nearest.** A number that is known as far as needed by a first part of its
digits is rounded to a magnitude, or it is so small that it vanishes. -/
theorem roundWithAccuracy_roundsTo (s : Sign) {accuracy : Accuracy}
    (h : Describes (ExtendedMantissa.ofMantissaAndAccuracy m accuracy) (v / 2 ^ e))
    (hbits : 2 ^ 52 ≤ m ∨ e ≤ -1074) :
    (∃ m' e' hpos, roundWithAccuracy .binary64 s m e accuracy = .finite s m' e' hpos ∧
        IsCanonical m' e' ∧ RoundsTo v m' e') ∨
      v ≤ 1 / 2 * 2 ^ (-1074 : Int) := by
  have hle := h.le
  have hlt := h.lt
  rw [mantissa_ofMantissaAndAccuracy] at hle hlt
  have hshifted := h.shiftRight (excess m e)
  have hsmall := hshifted.mantissa_lt hlt
  have hlarge := hshifted.le_mantissa hle hbits
  obtain ⟨hlow, hhigh, heven, hnear⟩ := hshifted.roundedMantissa
  -- the number in steps of the exponent that is reached
  have hv : v = v / 2 ^ e / 2 ^ excess m e * 2 ^ (e + excess m e) := by
    rw [zpow_add₀ (by norm_num), zpow_natCast]
    field_simp
  have hfirst := le_add_excess m e
  have hlast := hshifted.le
  generalize hrounded : (ExtendedMantissa.ofMantissaAndAccuracy m accuracy >>>
    excess m e).roundedMantissa = r at hlow hhigh heven hnear
  generalize (ExtendedMantissa.ofMantissaAndAccuracy m accuracy >>> excess m e).mantissa = q
    at hsmall hlarge hnear hlast
  generalize v / 2 ^ e / 2 ^ excess m e = x at hv hlow hhigh heven hlast
  rw [roundWithAccuracy_eq s hrounded (by omega)]
  generalize e + (excess m e : Int) = first at hfirst hlarge hv
  rcases Nat.eq_zero_or_pos r with rfl | hpos
  · right
    have hleast : first = -1074 := by omega
    rw [hv, hleast]
    refine mul_le_mul_of_nonneg_right ?_ (by positivity)
    simpa using hhigh
  · left
    rw [dif_neg hpos.ne']
    by_cases hfull : r = 2 ^ 53
    · rw [if_pos hfull]
      have hstep : stepBelow (2 ^ 52) (first + 1) = 1 / 4 := if_pos ⟨rfl, by omega⟩
      have hhalf : v = x / 2 * 2 ^ (first + 1) := by
        rw [hv, zpow_add_one₀ (by norm_num)]
        ring
      rw [hfull] at hlow hhigh
      push_cast at hlow hhigh
      refine ⟨_, _, _, rfl, ⟨by decide, by decide, by omega, Or.inr le_rfl⟩,
        roundsTo_of_steps hhalf ?_ ?_ fun _ => by decide⟩
      · rw [hstep]
        push_cast
        linarith
      · push_cast
        linarith
    · rw [if_neg hfull]
      have hnormal : first ≠ -1074 → 2 ^ 52 ≤ q := fun hne => hlarge (by omega)
      refine ⟨_, _, _, rfl, ⟨hpos, by omega, hfirst, ?_⟩, roundsTo_of_steps hv ?_ hhigh ?_⟩
      · rcases eq_or_ne first (-1074) with heq | hne
        · exact Or.inl heq
        · have := hnormal hne
          exact Or.inr (by omega)
      · unfold stepBelow
        split
        · next hpower =>
            have hcast : (r : ℚ) ≤ q := by
              have := hnormal hpower.2
              exact_mod_cast (show r ≤ q by omega)
            linarith
        · exact hlow
      · unfold stepBelow
        split
        · next hpower => exact fun _ => hpower.1 ▸ by norm_num
        · exact heven

end SheetQuery.Decimal
