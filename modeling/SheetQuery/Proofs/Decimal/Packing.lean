import SheetQuery.Decimal.Notation
import SheetQuery.Proofs.Decimal.Rounding

/-!
# The bits of a floating-point number

The bits of a number are its sign, a field for the exponent and a fraction. What they stand for is a
magnitude in its canonical form, so a number is what its sign and magnitude make it, and packing
canonical magnitudes loses nothing.

Main statements: `decodes_unpack`, `unpack_pack` and `magnitude_eq`.
-/

namespace SheetQuery.Decimal

open Float.Model Float.Model.UnpackedFloat

/-! ## Fields -/

/-- What the three parts of a number stand for. -/
inductive Decodes (s : Sign) (field fraction : Nat) : UnpackedFloat → Prop where
  | infinity (hfield : field = 2047) (hfraction : fraction = 0) :
      Decodes s field fraction (.infinity s)
  | notANumber (hfield : field = 2047) (hfraction : fraction ≠ 0) :
      Decodes s field fraction .notANumber
  | zero (hfield : field = 0) (hfraction : fraction = 0) : Decodes s field fraction (.zero s)
  | subnormal (hfield : field = 0) (hpos : 0 < fraction) :
      Decodes s field fraction (.finite s fraction (-1074) hpos)
  | normal (hzero : field ≠ 0) (hlt : field < 2047) (hpos : 0 < 2 ^ 52 + fraction) :
      Decodes s field fraction (.finite s (2 ^ 52 + fraction) (field - 1075) hpos)

theorem Decodes.subnormal_of_eq {s : Sign} {field fraction m : Nat} {e : Int} {hpos : 0 < m}
    (hfield : field = 0) (hm : m = fraction) (he : e = -1074) :
    Decodes s field fraction (.finite s m e hpos) := by
  subst hm he
  exact .subnormal hfield hpos

theorem Decodes.normal_of_eq {s : Sign} {field fraction m : Nat} {e : Int} {hpos : 0 < m}
    (hzero : field ≠ 0) (hlt : field < 2047) (hm : m = 2 ^ 52 + fraction) (he : e = field - 1075) :
    Decodes s field fraction (.finite s m e hpos) := by
  subst hm he
  exact .normal hzero hlt hpos

theorem toNat_implicit (fraction : BitVec 52) :
    (1#1 ++ fraction).toNat = 2 ^ 52 + fraction.toNat := by
  rw [BitVec.toNat_append, ← Nat.shiftLeft_add_eq_or_of_lt fraction.isLt]
  simp [Nat.shiftLeft_eq]

/-- **What the bits of a number stand for.** -/
theorem decodes_unpackBits (b : BitVec 64) :
    Decodes (Sign.ofBitVec (@unpackSign .binary64 b))
      (@unpackExponent .binary64 b).toNat (@unpackMantissa .binary64 b).toNat
      (UnpackedFloat.unpack .binary64 b) := by
  unfold UnpackedFloat.unpack
  dsimp only
  by_cases htop : @unpackExponent .binary64 b = -1#11
  · rw [if_pos htop]
    have htop := congrArg BitVec.toNat htop
    by_cases hfraction : @unpackMantissa .binary64 b = 0#52
    · rw [if_pos hfraction]
      exact .infinity htop (congrArg BitVec.toNat hfraction)
    · rw [if_neg hfraction]
      exact .notANumber htop fun hzero => hfraction (BitVec.eq_of_toNat_eq hzero)
  · rw [if_neg htop]
    by_cases hfield : @unpackExponent .binary64 b = 0#11
    · rw [if_pos hfield]
      have hzero := congrArg BitVec.toNat hfield
      by_cases hfraction : @unpackMantissa .binary64 b = 0#52
      · rw [dif_pos hfraction]
        exact .zero hzero (congrArg BitVec.toNat hfraction)
      · rw [dif_neg hfraction]
        exact .subnormal_of_eq hzero rfl (by rw [hzero]; rfl)
    · rw [if_neg hfield]
      have hzero : (@unpackExponent .binary64 b).toNat ≠ 0 :=
        fun heq => hfield (BitVec.eq_of_toNat_eq heq)
      have hlt : (@unpackExponent .binary64 b).toNat < 2047 := by
        have hne : (@unpackExponent .binary64 b).toNat ≠ 2047 :=
          fun heq => htop (BitVec.eq_of_toNat_eq heq)
        have hbound : (@unpackExponent .binary64 b).toNat < 2048 := BitVec.isLt _
        omega
      exact .normal_of_eq hzero hlt (toNat_implicit _) rfl

theorem Decodes.unique {s : Sign} {field fraction : Nat} {x y : UnpackedFloat}
    (hx : Decodes s field fraction x) (hy : Decodes s field fraction y) : x = y := by
  cases hx <;> cases hy <;> first | rfl | contradiction | omega

/-- A finite number has a canonical magnitude, of bounded size. -/
theorem Decodes.isCanonical {s s' : Sign} {field fraction m : Nat} {e : Int} {hpos : 0 < m}
    (h : Decodes s field fraction (.finite s' m e hpos)) (hfraction : fraction < 2 ^ 52) :
    s' = s ∧ IsCanonical m e ∧ e ≤ 971 := by
  cases h with
  | subnormal hfield => exact ⟨rfl, ⟨hpos, by omega, le_rfl, Or.inl rfl⟩, by omega⟩
  | normal hzero hlt => exact ⟨rfl, ⟨hpos, by omega, by omega, Or.inr (by omega)⟩, by omega⟩

/-! ## Packing -/

theorem ofBitVec_unpackSign_packComponents (s : Sign) (field : BitVec 11) (fraction : BitVec 52) :
    Sign.ofBitVec (@unpackSign .binary64 (packComponents .binary64 s field fraction)) =
      s := by
  show Sign.ofBitVec (((s.toBitVec ++ field ++ fraction).extractLsb' 63 1).cast rfl) = s
  rw [BitVec.extractLsb'_append_eq_of_le (by omega),
    BitVec.extractLsb'_append_eq_of_le (by omega)]
  cases s <;> rfl

/-- A finite number is packed by its exponent and by whether its first digit is implied. -/
theorem pack_finite (s : Sign) (m : Nat) (e : Int) (hpos : 0 < m) :
    UnpackedFloat.pack .binary64 (.finite s m e hpos) =
      if 2048 ≤ (e + 1023 + 52).toNat + 1 then packedInfinity .binary64 s
      else if m.log2 + 1 = 53 then
        packComponents .binary64 s (BitVec.ofNat 11 (e + 1023 + 52).toNat) (BitVec.ofNat 52 m)
      else packComponents .binary64 s 0#11 (BitVec.ofNat 52 m) :=
  rfl

/-- **Packing loses nothing** of a canonical magnitude that is not too large. -/
theorem unpack_pack {m : Nat} {e : Int} (hc : IsCanonical m e) (he : e ≤ 971) (s : Sign)
    (hpos : 0 < m) : (Float.Model.pack (.finite s m e hpos)).unpack = .finite s m e hpos := by
  have hleast := hc.le
  have hlt := hc.lt
  have hdecodes := decodes_unpackBits (UnpackedFloat.pack .binary64 (.finite s m e hpos))
  show UnpackedFloat.unpack .binary64 (UnpackedFloat.pack .binary64 (.finite s m e hpos)) = _
  refine hdecodes.unique ?_
  rw [pack_finite, if_neg (by omega)]
  by_cases hfull : 2 ^ 52 ≤ m
  · have hlog : m.log2 + 1 = 53 := by
      have hle : 52 ≤ m.log2 := (Nat.le_log2 hpos.ne').mpr hfull
      have hge : m.log2 < 53 := (Nat.log2_lt hpos.ne').mpr hlt
      omega
    have hfield : (BitVec.ofNat 11 (e + 1023 + 52).toNat).toNat = (e + 1075).toNat := by
      rw [BitVec.toNat_ofNat]
      omega
    have hfraction : (BitVec.ofNat 52 m).toNat = m - 2 ^ 52 := by
      rw [BitVec.toNat_ofNat]
      omega
    rw [if_pos hlog, ofBitVec_unpackSign_packComponents, unpackExponent_packComponents,
      unpackMantissa_packComponents, hfield, hfraction]
    exact .normal_of_eq (by omega) (by omega) (by omega) (by omega)
  · have hlog : m.log2 + 1 ≠ 53 := by
      have hge : m.log2 < 52 := (Nat.log2_lt hpos.ne').mpr (by omega)
      omega
    have hfraction : (BitVec.ofNat 52 m).toNat = m := by
      rw [BitVec.toNat_ofNat]
      omega
    rw [if_neg hlog, ofBitVec_unpackSign_packComponents, unpackExponent_packComponents,
      unpackMantissa_packComponents, hfraction]
    exact .subnormal_of_eq rfl rfl (hc.full.resolve_right hfull)

theorem unpack_pack_zero (s : Sign) : (Float.Model.pack (.zero s)).unpack = .zero s := by
  cases s <;> rfl

theorem unpack_pack_infinity (s : Sign) :
    (Float.Model.pack (.infinity s)).unpack = .infinity s := by
  cases s <;> rfl

theorem unpack_pack_notANumber : (Float.Model.pack .notANumber).unpack = .notANumber :=
  rfl

/-! ## The parts of a number -/

/-- The sign bit as a sign. -/
def signOf (x : Float) : Sign :=
  if isNegative x then .negative else .positive

theorem toNat_unpackMantissa (b : BitVec 64) :
    (@unpackMantissa .binary64 b).toNat = b.toNat % 2 ^ 52 := by
  simp [unpackMantissa]

theorem toNat_unpackExponent (b : BitVec 64) :
    (@unpackExponent .binary64 b).toNat = b.toNat / 2 ^ 52 % 2 ^ 11 := by
  simp [unpackExponent, Nat.shiftRight_eq_div_pow]

theorem toNat_unpackSign (b : BitVec 64) :
    (@unpackSign .binary64 b).toNat = b.toNat / 2 ^ 63 := by
  have hlt := b.isLt
  show (b.extractLsb 63 63).toNat = _
  rw [BitVec.extractLsb_toNat, Nat.shiftRight_eq_div_pow]
  omega

/-- **The bits of a number are read alike** here and in the model. -/
theorem decodes_unpack (x : Float) :
    Decodes (signOf x) (x.toBits.toNat / 2 ^ 52 % 2 ^ 11) (x.toBits.toNat % 2 ^ 52)
      x.toModel.unpack := by
  have hdecodes := decodes_unpackBits x.toBits.toBitVec
  rw [toNat_unpackExponent, toNat_unpackMantissa] at hdecodes
  have hsign : Sign.ofBitVec (@unpackSign .binary64 x.toBits.toBitVec) = signOf x := by
    have hbit : (@unpackSign .binary64 x.toBits.toBitVec).toNat = x.toBits.toNat / 2 ^ 63 :=
      toNat_unpackSign _
    have hneg : isNegative x = (x.toBits.toNat / 2 ^ 63 == 1) := rfl
    rw [signOf, hneg, ← hbit]
    generalize @unpackSign .binary64 x.toBits.toBitVec = bit
    rcases BitVec.eq_zero_or_eq_one bit with rfl | rfl <;> rfl
  rw [hsign] at hdecodes
  exact hdecodes

/-- The magnitude of a finite number. -/
theorem magnitude_eq {x : Float} {s : Sign} {m : Nat} {e : Int} {hpos : 0 < m}
    (h : x.toModel.unpack = .finite s m e hpos) :
    s = signOf x ∧ IsCanonical m e ∧ e ≤ 971 ∧
      magnitude x = ⟨m, e, decide (m = 2 ^ 52 ∧ e ≠ -1074)⟩ := by
  have hdecodes := decodes_unpack x
  rw [h] at hdecodes
  have hfraction : x.toBits.toNat % 2 ^ 52 < 2 ^ 52 := Nat.mod_lt _ (by decide)
  obtain ⟨hs, hc, he⟩ := hdecodes.isCanonical hfraction
  refine ⟨hs, hc, he, ?_⟩
  show (if x.toBits.toNat / 2 ^ 52 % 2 ^ 11 = 0 then (⟨x.toBits.toNat % 2 ^ 52, -1074, false⟩ :
    Magnitude) else _) = _
  cases hdecodes with
  | subnormal hfield =>
      rw [if_pos hfield, decide_eq_false]
      rintro ⟨hm, -⟩
      omega
  | normal hzero hlt =>
      rw [if_neg hzero]
      refine congrArg (Magnitude.mk _ _) ?_
      rw [Bool.eq_iff_iff]
      simp only [Bool.and_eq_true, beq_iff_eq, bne_iff_ne, decide_eq_true_eq]
      refine and_congr ?_ ?_
      · exact (Nat.add_eq_left (b := x.toBits.toNat % 2 ^ 52)).symm
      · show x.toBits.toNat / 2 ^ 52 % 2 ^ 11 ≠ 1 ↔ _
        omega

theorem magnitude_eq_zero {x : Float} {s : Sign} (h : x.toModel.unpack = .zero s) :
    s = signOf x ∧ (magnitude x).significand = 0 := by
  have hdecodes := decodes_unpack x
  rw [h] at hdecodes
  cases hdecodes with
  | zero hfield hfraction =>
      refine ⟨rfl, ?_⟩
      show (if x.toBits.toNat / 2 ^ 52 % 2 ^ 11 = 0 then
        (⟨x.toBits.toNat % 2 ^ 52, -1074, false⟩ : Magnitude) else _).significand = 0
      rw [if_pos hfield]
      exact hfraction

theorem signOf_of_infinity {x : Float} {s : Sign} (h : x.toModel.unpack = .infinity s) :
    s = signOf x := by
  have hdecodes := decodes_unpack x
  rw [h] at hdecodes
  cases hdecodes
  rfl

/-- The opposite number. -/
theorem unpack_neg (x : Float) : (-x).toModel.unpack = x.toModel.unpack.neg := by
  show (Float.Model.pack x.toModel.unpack.neg).unpack = _
  cases h : x.toModel.unpack with
  | notANumber => exact unpack_pack_notANumber
  | infinity s => exact unpack_pack_infinity (-s)
  | zero s => exact unpack_pack_zero (-s)
  | finite s m e hpos =>
      obtain ⟨-, hc, he, -⟩ := magnitude_eq h
      exact unpack_pack hc he (-s) hpos

end SheetQuery.Decimal
