import SheetQuery.Decimal.Shortest
import SheetQuery.Proofs.Decimal.Nearest

/-!
# The shortest decimal rounds back

What the search for a short decimal looks for on each grid is a decimal that rounds to the
magnitude. On the grid of seventeen digits it finds one: there a step of the grid is shorter than
the range of numbers that round to the magnitude, so one of the two neighbours lies in it.

Main statement: `roundsTo_shortest`.
-/

namespace SheetQuery.Decimal

variable {m k c : Nat} {e : Int} {tie : Tie} {i : Int}

/-- The magnitude as it is read off the bits of a number. -/
def magnitudeOf (m : Nat) (e : Int) : Magnitude :=
  ⟨m, e, decide (m = 2 ^ 52 ∧ e ≠ -1074)⟩

theorem scale_fst_div_snd (twos tens : Int) :
    ((scale twos tens).1 : ℚ) / (scale twos tens).2 = 2 ^ twos * 10 ^ tens := by
  have hsplit (b : ℚ) (hb : b ≠ 0) (n : Int) : b ^ n = b ^ n.toNat / b ^ (-n).toNat := by
    have hn : n = (n.toNat : Int) - ((-n).toNat : Int) := by omega
    conv_lhs => rw [hn, zpow_sub₀ hb, zpow_natCast, zpow_natCast]
  show ((2 ^ twos.toNat * 10 ^ tens.toNat : Nat) : ℚ) /
    (2 ^ (-twos).toNat * 10 ^ (-tens).toNat : Nat) = _
  rw [hsplit 2 (by norm_num) twos, hsplit 10 (by norm_num) tens]
  push_cast
  field_simp

theorem scale_snd_pos (twos tens : Int) : 0 < (scale twos tens).2 := by
  show 0 < 2 ^ (-twos).toNat * 10 ^ (-tens).toNat
  positivity

/-- A number of quarter steps, measured on the grid of `10 ^ i`. -/
theorem quarters_div (q : Nat) (e i : Int) :
    ((q * (scale (e - 2) (-i)).1 : Nat) : ℚ) / (scale (e - 2) (-i)).2 =
      (q / 4 * 2 ^ e) / 10 ^ i := by
  have hscale := scale_fst_div_snd (e - 2) (-i)
  push_cast
  rw [mul_div_assoc, hscale, zpow_sub₀ (by norm_num), zpow_neg]
  norm_num
  field_simp

theorem quarters_le (q c : Nat) (e i : Int) :
    q * (scale (e - 2) (-i)).1 ≤ c * (scale (e - 2) (-i)).2 ↔ (q / 4 * 2 ^ e : ℚ) ≤ c * 10 ^ i := by
  have hden : (0 : ℚ) < (scale (e - 2) (-i)).2 := by exact_mod_cast scale_snd_pos _ _
  rw [← div_le_iff₀ (by positivity), ← quarters_div, div_le_iff₀ hden]
  exact_mod_cast Iff.rfl

theorem le_quarters (q c : Nat) (e i : Int) :
    c * (scale (e - 2) (-i)).2 ≤ q * (scale (e - 2) (-i)).1 ↔ (c * 10 ^ i : ℚ) ≤ q / 4 * 2 ^ e := by
  have hden : (0 : ℚ) < (scale (e - 2) (-i)).2 := by exact_mod_cast scale_snd_pos _ _
  rw [← le_div_iff₀ (by positivity), ← quarters_div, le_div_iff₀ hden]
  exact_mod_cast Iff.rfl

/-! ## One grid -/

/-- Whether `c * 10 ^ i` is a decimal that the search takes. -/
def Magnitude.takes (m : Magnitude) (i : Int) (c : Nat) : Bool :=
  let (num, den) := scale (m.exponent - 2) (-i)
  let low := (4 * m.significand - if m.narrowBelow then 1 else 2) * num
  let high := (4 * m.significand + 2) * num
  if m.significand % 2 == 0 then low ≤ c * den && c * den ≤ high
  else low < c * den && c * den < high

/-- The multiple of `10 ^ i` below the magnitude, counted in steps of the grid. -/
def Magnitude.below (m : Magnitude) (i : Int) : Nat :=
  4 * m.significand * (scale (m.exponent - 2) (-i)).1 / (scale (m.exponent - 2) (-i)).2

theorem takes_of_some {m : Magnitude} {b : Nat} (h : m.takes i b = true) (p : Prop) :
    (∀ c, some b = some c → m.takes i c = true) ∧ (p → some b ≠ none) := by
  refine ⟨fun c hc => ?_, fun _ => Option.some_ne_none b⟩
  obtain rfl := Option.some.inj hc
  exact h

/-- The search takes one of the two neighbours, and one if there is one to take. -/
theorem onGrid?_eq_some (m : Magnitude) (tie : Tie) (i : Int) :
    (∀ c, m.onGrid? tie i = some c → m.takes i c = true) ∧
      (m.takes i (m.below i) = true ∨ m.takes i (m.below i + 1) = true →
        m.onGrid? tie i ≠ none) := by
  unfold Magnitude.onGrid?
  dsimp only
  split
  · next hbelow habove =>
      -- the nearer one, or the one that the tie is for
      split
      · exact takes_of_some hbelow _
      · split
        · exact takes_of_some habove _
        · cases tie with
          | up => exact takes_of_some habove _
          | even =>
              refine takes_of_some ?_ _
              change m.takes i (m.below i + m.below i % 2) = true
              rcases Nat.mod_two_eq_zero_or_one (m.below i) with hparity | hparity
              · rw [hparity]
                exact hbelow
              · rw [hparity]
                exact habove
  · next hbelow _ => exact takes_of_some hbelow _
  · next _ habove => exact takes_of_some habove _
  · next hbelow habove =>
      change m.takes i (m.below i) = false at hbelow
      change m.takes i (m.below i + 1) = false at habove
      simp [hbelow, habove]

theorem quarters_below (hm : 0 < m) :
    ((4 * m - if (magnitudeOf m e).narrowBelow then 1 else 2 : Nat) : ℚ) / 4 =
      m - stepBelow m e := by
  simp only [magnitudeOf, stepBelow, decide_eq_true_eq]
  split
  · rw [Nat.cast_sub (by omega)]
    push_cast
    ring
  · rw [Nat.cast_sub (by omega)]
    push_cast
    ring

/-- **The search takes the decimals that round to the magnitude.** -/
theorem takes_iff (hm : 0 < m) :
    (magnitudeOf m e).takes i c = true ↔ RoundsTo (c * 10 ^ i) m e := by
  have hlow := quarters_below (e := e) hm
  have hhigh : ((4 * m + 2 : Nat) : ℚ) / 4 = m + 1 / 2 := by
    push_cast
    ring
  have hleLow := quarters_le (4 * m - if (magnitudeOf m e).narrowBelow then 1 else 2) c e i
  have hgeLow := le_quarters (4 * m - if (magnitudeOf m e).narrowBelow then 1 else 2) c e i
  have hleHigh := le_quarters (4 * m + 2) c e i
  have hgeHigh := quarters_le (4 * m + 2) c e i
  rw [hlow] at hleLow hgeLow
  rw [hhigh] at hleHigh hgeHigh
  show (if m % 2 == 0 then _ else _) = true ↔ _
  by_cases heven : m % 2 = 0
  · rw [if_pos (by simp [heven]), Bool.and_eq_true, decide_eq_true_eq, decide_eq_true_eq]
    exact ⟨fun h => ⟨hleLow.mp h.1, hleHigh.mp h.2, fun _ => heven⟩,
      fun h => ⟨hleLow.mpr h.lower, hleHigh.mpr h.upper⟩⟩
  · rw [if_neg (by simp [heven]), Bool.and_eq_true, decide_eq_true_eq, decide_eq_true_eq,
      ← Nat.not_le, ← Nat.not_le]
    constructor
    · rintro ⟨hl, hh⟩
      have hl' := not_le.mp (mt hgeLow.mpr hl)
      have hh' := not_le.mp (mt hgeHigh.mpr hh)
      refine ⟨hl'.le, hh'.le, ?_⟩
      rintro (heq | heq)
      · exact absurd heq hl'.ne'
      · exact absurd heq hh'.ne
    · intro h
      refine ⟨fun hl => heven (h.even (Or.inl ?_)), fun hh => heven (h.even (Or.inr ?_))⟩
      · exact le_antisymm (hgeLow.mp hl) h.lower
      · exact le_antisymm h.upper (hgeHigh.mp hh)

/-! ## The last grid -/

theorem below_le (m : Nat) (e i : Int) :
    ((magnitudeOf m e).below i * 10 ^ i : ℚ) ≤ m * 2 ^ e ∧
      (m * 2 ^ e : ℚ) < ((magnitudeOf m e).below i + 1) * 10 ^ i := by
  have hden := scale_snd_pos (e - 2) (-i)
  have hquarters : ((4 * m : Nat) : ℚ) / 4 = m := by
    push_cast
    ring
  have hle := le_quarters (4 * m) ((magnitudeOf m e).below i) e i
  have hlt := quarters_le (4 * m) ((magnitudeOf m e).below i + 1) e i
  have hge := le_quarters (4 * m) ((magnitudeOf m e).below i + 1) e i
  rw [hquarters] at hle hlt hge
  refine ⟨hle.mp (Nat.div_mul_le_self _ _), ?_⟩
  have hnot : ¬ ((magnitudeOf m e).below i + 1) * (scale (e - 2) (-i)).2 ≤
      4 * m * (scale (e - 2) (-i)).1 := by
    rw [← Nat.le_div_iff_mul_le hden]
    exact Nat.not_succ_le_self _
  have hlast := not_le.mp (mt hge.mpr hnot)
  push_cast at hlast
  exact hlast

/-- A grid with shorter steps than the magnitude has decimals that round to it. -/
theorem takes_of_fine (hm : 0 < m) (hfine : (10 : ℚ) ^ i < 2 * stepBelow m e * 2 ^ e) :
    (magnitudeOf m e).takes i ((magnitudeOf m e).below i) = true ∨
      (magnitudeOf m e).takes i ((magnitudeOf m e).below i + 1) = true := by
  obtain ⟨hbelow, habove⟩ := below_le m e i
  have hp : (0 : ℚ) < 2 ^ e := by positivity
  have hstep : stepBelow m e * 2 ^ e ≤ 1 / 2 * 2 ^ e :=
    mul_le_mul_of_nonneg_right (stepBelow_le m e) hp.le
  have hpos : 0 < stepBelow m e * 2 ^ e := mul_pos (stepBelow_pos m e) hp
  rw [takes_iff hm, takes_iff hm]
  push_cast
  -- the nearer neighbour is less than half a step of the grid away
  rcases le_or_gt ((m : ℚ) * 2 ^ e - (magnitudeOf m e).below i * 10 ^ i) (1 / 2 * 10 ^ i) with h | h
  · refine Or.inl ⟨by linarith, by linarith, ?_⟩
    rintro (heq | heq) <;> linarith
  · refine Or.inr ⟨by linarith, by linarith, ?_⟩
    rintro (heq | heq) <;> linarith

/-! ## The number of digits before the point -/

theorem pow_le_two_pow : ∀ l < 1024, 10 ^ (l * 30103 / 100000 - 1) ≤ 2 ^ l := by
  decide +kernel

theorem two_pow_le_pow : ∀ l < 1075, 2 ^ l ≤ 10 ^ ((l * 30103 + 99999) / 100000) := by
  decide +kernel

/-- The first guess is not too large by more than one. -/
theorem pow_guess_le {l : Int} (hlow : -1075 < l) (hhigh : l < 1024) :
    (10 : ℚ) ^ (l * 30103 / 100000 - 1) ≤ 2 ^ l := by
  rcases Int.lt_or_le l 0 with hneg | hnonneg
  · obtain ⟨j, rfl⟩ : ∃ j : Nat, l = -(j : Int) := ⟨(-l).toNat, by omega⟩
    have htable : ((2 : ℚ) ^ j) ≤ 10 ^ ((j * 30103 + 99999) / 100000) := by
      exact_mod_cast two_pow_le_pow j (by omega)
    have hguess : (10 : ℚ) ^ (-(j : Int) * 30103 / 100000 - 1) ≤
        10 ^ (-(((j * 30103 + 99999) / 100000 : Nat) : Int)) :=
      zpow_le_zpow_right₀ (by norm_num) (by omega)
    refine hguess.trans ?_
    rw [zpow_neg, zpow_neg, zpow_natCast, zpow_natCast]
    exact inv_anti₀ (by positivity) htable
  · obtain ⟨j, rfl⟩ : ∃ j : Nat, l = (j : Int) := ⟨l.toNat, by omega⟩
    have htable : (10 : ℚ) ^ (j * 30103 / 100000 - 1) ≤ 2 ^ j := by
      exact_mod_cast pow_le_two_pow j (by omega)
    have hguess : (10 : ℚ) ^ ((j : Int) * 30103 / 100000 - 1) ≤
        10 ^ ((j * 30103 / 100000 - 1 : Nat) : Int) :=
      zpow_le_zpow_right₀ (by norm_num) (by omega)
    refine hguess.trans ?_
    rw [zpow_natCast, zpow_natCast]
    exact htable

theorem belowPower_iff (m : Nat) (e p : Int) :
    (magnitudeOf m e).belowPower p = true ↔ (m * 2 ^ e : ℚ) < 10 ^ p := by
  have hden : (0 : ℚ) < (scale e (-p)).2 := by exact_mod_cast scale_snd_pos _ _
  have hscale := scale_fst_div_snd e (-p)
  have hbelow : (magnitudeOf m e).belowPower p = true ↔
      m * (scale e (-p)).1 < (scale e (-p)).2 := decide_eq_true_iff
  have hcast : m * (scale e (-p)).1 < (scale e (-p)).2 ↔
      (m : ℚ) * (scale e (-p)).1 < (scale e (-p)).2 := by exact_mod_cast Iff.rfl
  rw [hbelow, hcast, ← div_lt_one hden, mul_div_assoc, hscale, ← mul_assoc, zpow_neg,
    ← div_eq_mul_inv, div_lt_one (by positivity)]

/-- The magnitude has at least as many digits before the point as are counted. -/
theorem pow_leading_le (hc : IsCanonical m e) (he : e ≤ 971) :
    (10 : ℚ) ^ ((magnitudeOf m e).leading - 1) ≤ m * 2 ^ e := by
  have hleast := hc.le
  have hlog : m.log2 < 53 := (Nat.log2_lt hc.pos.ne').mpr hc.lt
  have hdigits : (2 : ℚ) ^ ((m.log2 : Int) + e) ≤ m * 2 ^ e := by
    rw [zpow_add₀ (by norm_num), zpow_natCast]
    refine mul_le_mul_of_nonneg_right ?_ (by positivity)
    exact_mod_cast Nat.log2_self_le hc.pos.ne'
  have hguess := pow_guess_le (l := (m.log2 : Int) + e) (by omega) (by omega)
  have hleading : (magnitudeOf m e).leading =
      if (magnitudeOf m e).belowPower (((m.log2 : Int) + e) * 30103 / 100000) then
        ((m.log2 : Int) + e) * 30103 / 100000
      else if (magnitudeOf m e).belowPower (((m.log2 : Int) + e) * 30103 / 100000 + 1) then
        ((m.log2 : Int) + e) * 30103 / 100000 + 1
      else ((m.log2 : Int) + e) * 30103 / 100000 + 2 := rfl
  rw [hleading]
  generalize ((m.log2 : Int) + e) * 30103 / 100000 = guess at hguess
  split
  · exact hguess.trans hdigits
  · next hfirst =>
      rw [belowPower_iff, not_lt] at hfirst
      split
      · rwa [add_sub_cancel_right]
      · next hsecond =>
          rw [belowPower_iff, not_lt] at hsecond
          rwa [show guess + 2 - 1 = guess + 1 by ring]

/-- Seventeen digits are enough. -/
theorem fine_of_leading (hc : IsCanonical m e) (he : e ≤ 971) :
    (10 : ℚ) ^ ((magnitudeOf m e).leading - 17) < 2 * stepBelow m e * 2 ^ e := by
  have hp : (0 : ℚ) < 2 ^ e := by positivity
  have hlead := pow_leading_le hc he
  have hsplit : (10 : ℚ) ^ ((magnitudeOf m e).leading - 1) =
      10 ^ ((magnitudeOf m e).leading - 17) * 10 ^ 16 := by
    rw [← zpow_natCast, ← zpow_add₀ (by norm_num)]
    congr 1
    omega
  rw [hsplit] at hlead
  generalize (10 : ℚ) ^ ((magnitudeOf m e).leading - 17) = step at hlead ⊢
  unfold stepBelow
  split
  · next hpower =>
      rw [hpower.1] at hlead
      push_cast at hlead
      norm_num at hlead ⊢
      linarith
  · have hm : (m : ℚ) < 2 ^ 53 := by exact_mod_cast hc.lt
    have hwide : (m : ℚ) * 2 ^ e < 2 ^ 53 * 2 ^ e := mul_lt_mul_of_pos_right hm hp
    norm_num at hlead hwide ⊢
    linarith

/-! ## The search -/

/-- Zeros at the end go into the exponent. -/
theorem stripZeros_value (fuel : Nat) (d : Scaled) :
    ((d.stripZeros fuel).coefficient * 10 ^ (d.stripZeros fuel).exponent : ℚ) =
      d.coefficient * 10 ^ d.exponent := by
  induction fuel generalizing d with
  | zero => rfl
  | succ fuel ih =>
      obtain ⟨c, e⟩ := d
      rw [Scaled.stripZeros]
      split
      · next hzero =>
          rw [ih, zpow_add_one₀ (by norm_num)]
          have hdivision : c = c / 10 * 10 := by omega
          have hcast : (c : ℚ) = (c / 10 : Nat) * 10 := by exact_mod_cast hdivision
          dsimp only
          rw [hcast]
          ring
      · rfl

/-- **The shortest decimal rounds back** to the magnitude it was found for. -/
theorem roundsTo_shortest (hc : IsCanonical m e) (he : e ≤ 971) (tie : Tie) :
    RoundsTo (((magnitudeOf m e).shortest tie).coefficient *
      10 ^ ((magnitudeOf m e).shortest tie).exponent) m e := by
  have hshortest : (magnitudeOf m e).shortest tie =
      if m = 0 then ⟨0, 0⟩
      else (((List.range 17).findSome? fun (n : Nat) =>
        ((magnitudeOf m e).onGrid? tie ((magnitudeOf m e).leading - ((n : Int) + 1))).map fun c =>
          (⟨c, (magnitudeOf m e).leading - ((n : Int) + 1)⟩ : Scaled)).getD ⟨0, 0⟩).stripZeros 18 :=
    rfl
  rw [hshortest, if_neg hc.pos.ne', stripZeros_value]
  cases hfound : (List.range 17).findSome? fun (n : Nat) =>
      ((magnitudeOf m e).onGrid? tie ((magnitudeOf m e).leading - ((n : Int) + 1))).map fun c =>
        (⟨c, (magnitudeOf m e).leading - ((n : Int) + 1)⟩ : Scaled) with
  | none =>
      have hlast := List.findSome?_eq_none_iff.mp hfound 16 (by decide)
      rw [Option.map_eq_none_iff] at hlast
      have hfine :=
        takes_of_fine (i := (magnitudeOf m e).leading - 17) hc.pos (fine_of_leading hc he)
      exact absurd hlast ((onGrid?_eq_some _ tie _).2 hfine)
  | some d =>
      obtain ⟨n, -, hn⟩ := List.exists_of_findSome?_eq_some hfound
      obtain ⟨c, hgrid, rfl⟩ := Option.map_eq_some_iff.mp hn
      exact (takes_iff hc.pos).mp ((onGrid?_eq_some _ tie _).1 c hgrid)

end SheetQuery.Decimal
