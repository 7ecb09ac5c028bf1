import Mathlib.Data.List.TakeWhile
import SheetQuery.Proofs.Decimal.Shortest
import SheetQuery.Proofs.Decimal.Whole

/-!
# What is written is read back

A number in plain digits is read as itself, its sign, infinities and zeros included, and a whole
number in digits as the floating-point number that it becomes. The digits before and behind the
point are those of a decimal that rounds to the number, and reading rounds. A word in digits is read
as the word.

Main statements: `readFloat?_plainText`, `readFloat?_wholeText` and `readWord?_wholeText`.
-/

namespace SheetQuery.Decimal

open Float.Model Float.Model.UnpackedFloat

/-! ## Digits and a point -/

variable {ds fs : List Char}

theorem readUnsigned?_digits (hds : ∀ c ∈ ds, c.isDigit = true) (hne : ds ≠ []) :
    readUnsigned? ds = some (nearest (Nat.ofDigitChars 10 ds 0) 0) := by
  have htake : ds.takeWhile Char.isDigit = ds := List.takeWhile_eq_self_iff.mpr hds
  have hdrop : ds.dropWhile Char.isDigit = [] := List.dropWhile_eq_nil_iff.mpr hds
  have hempty : ds.isEmpty = false := by simpa using hne
  simp [readUnsigned?, splitMantissa?, htake, hdrop, hempty, readExponent?]

theorem readUnsigned?_point (hds : ∀ c ∈ ds, c.isDigit = true) (hfs : ∀ c ∈ fs, c.isDigit = true)
    (hne : ds ≠ []) : readUnsigned? (ds ++ '.' :: fs) =
      some (nearest (Nat.ofDigitChars 10 (ds ++ fs) 0) (-(fs.length : Int))) := by
  have htake : (ds ++ '.' :: fs).takeWhile Char.isDigit = ds := by
    rw [List.takeWhile_append_of_pos hds, List.takeWhile_cons_of_neg (by decide), List.append_nil]
  have hdrop : (ds ++ '.' :: fs).dropWhile Char.isDigit = '.' :: fs := by
    rw [List.dropWhile_append_of_pos hds, List.dropWhile_cons_of_neg (by decide)]
  have htake' : fs.takeWhile Char.isDigit = fs := List.takeWhile_eq_self_iff.mpr hfs
  have hdrop' : fs.dropWhile Char.isDigit = [] := List.dropWhile_eq_nil_iff.mpr hfs
  have hempty : ds.isEmpty = false := by simpa using hne
  simp [readUnsigned?, splitMantissa?, htake, hdrop, htake', hdrop', hempty, readExponent?]

theorem isDigit_of_mem_digits {n : Nat} {c : Char} (h : c ∈ digits n) : c.isDigit = true :=
  Nat.isDigit_of_mem_toDigits (by decide) (by decide) h

theorem ofDigitChars_digits (n : Nat) : Nat.ofDigitChars 10 (digits n) 0 = n :=
  Nat.ofDigitChars_ten_toDigits

theorem digits_ne_nil (n : Nat) : digits n ≠ [] :=
  Nat.toDigits_ne_nil

/-- **A decimal in positional digits is read as the decimal.** -/
theorem readUnsigned?_positional (d : Scaled) : ∃ n i,
    readUnsigned? d.positional = some (nearest n i) ∧
      (n * 10 ^ i : ℚ) = d.coefficient * 10 ^ d.exponent := by
  obtain ⟨c, e⟩ := d
  have hds : ∀ ch ∈ digits c, ch.isDigit = true := fun ch => isDigit_of_mem_digits
  have hzeros (k : Nat) : ∀ ch ∈ List.replicate k '0', ch.isDigit = true := by
    intro ch h
    rw [(List.mem_replicate.mp h).2]
    rfl
  simp only [Scaled.positional]
  split
  · next he =>
      refine ⟨_, _, readUnsigned?_digits (fun ch h => (List.mem_append.mp h).elim (hds ch)
        (hzeros _ ch)) (by simp [digits_ne_nil]), ?_⟩
      rw [Nat.ofDigitChars_append, ofDigitChars_digits, Nat.ofDigitChars_replicate_zero]
      push_cast
      rw [← zpow_natCast, Int.toNat_of_nonneg he]
      ring
  · next he =>
      split
      · next hpoint =>
          generalize hk : (((digits c).length : Int) + e).toNat = k
          have hlong : k ≠ 0 := by omega
          have hne : (digits c).take k ≠ [] := by
            simp [List.take_eq_nil_iff, digits_ne_nil, hlong]
          refine ⟨_, _, readUnsigned?_point (fun ch h => hds ch (List.mem_of_mem_take h))
            (fun ch h => hds ch (List.mem_of_mem_drop h)) hne, ?_⟩
          rw [List.take_append_drop, ofDigitChars_digits, List.length_drop]
          congr 2
          omega
      · next hpoint =>
          have hwhole : ∀ ch ∈ ['0'], ch.isDigit = true := by simp
          generalize hk : (-(((digits c).length : Int) + e)).toNat = k
          have hfraction : ∀ ch ∈ List.replicate k '0' ++ digits c, ch.isDigit = true :=
            fun ch h => (List.mem_append.mp h).elim (hzeros _ ch) (hds ch)
          have hread := readUnsigned?_point hwhole hfraction (by simp)
          refine ⟨_, _, hread, ?_⟩
          rw [List.singleton_append, Nat.ofDigitChars_cons, Nat.ofDigitChars_append]
          simp only [Nat.mul_zero, Nat.reduceSub, Nat.zero_add, Char.reduceToNat,
            Nat.ofDigitChars_replicate_zero, ofDigitChars_digits, List.length_append,
            List.length_replicate]
          congr 2
          omega

/-! ## Signs -/

theorem or_eq_of_eq_some {α : Type} {o o' : Option α} {a : α} (h : o = some a) :
    (o <|> o') = some a := by
  subst h
  rfl

/-- What begins with neither sign has no sign to split off. -/
theorem splitSign_eq {s : List Char} (hminus : s.head? ≠ some '-') (hplus : s.head? ≠ some '+') :
    splitSign s = (false, s) := by
  unfold splitSign
  split
  · exact absurd rfl hminus
  · exact absurd rfl hplus
  · rfl

theorem splitSign_signText (x : Float) {s : List Char} (hminus : s.head? ≠ some '-')
    (hplus : s.head? ≠ some '+') : splitSign (signText x ++ s) = (isNegative x, s) := by
  unfold signText
  cases isNegative x with
  | true => rfl
  | false => exact splitSign_eq hminus hplus

theorem isDigit_of_head?_digits {n : Nat} {c : Char} (h : (digits n).head? = some c) :
    c.isDigit = true :=
  isDigit_of_mem_digits (List.mem_of_mem_head? h)

/-- A decimal begins with a digit. -/
theorem isDigit_of_head?_positional {d : Scaled} {c : Char} (h : d.positional.head? = some c) :
    c.isDigit = true := by
  simp only [Scaled.positional] at h
  split at h
  · rw [List.head?_append_of_ne_nil _ (digits_ne_nil _)] at h
    exact isDigit_of_head?_digits h
  · split at h
    · have hne : (digits d.coefficient).take (((digits d.coefficient).length : Int) +
          d.exponent).toNat ≠ [] := by
        have hlong : (((digits d.coefficient).length : Int) + d.exponent).toNat ≠ 0 := by omega
        simp [List.take_eq_nil_iff, digits_ne_nil, hlong]
      rw [List.head?_append_of_ne_nil _ hne] at h
      exact isDigit_of_mem_digits (List.mem_of_mem_take (List.mem_of_mem_head? h))
    · cases h
      rfl

theorem not_sign_of_isDigit {o : Option Char} (h : ∀ c, o = some c → c.isDigit = true) :
    o ≠ some '-' ∧ o ≠ some '+' :=
  ⟨fun hminus => absurd (h _ hminus) (by decide), fun hplus => absurd (h _ hplus) (by decide)⟩

/-! ## Numbers -/

/-- A number is its absolute value with its sign. -/
theorem unpack_eq_abs (x : Float) : x.toModel.unpack =
    if isNegative x then x.toModel.unpack.abs.neg else x.toModel.unpack.abs := by
  cases hunpack : x.toModel.unpack with
  | notANumber => cases isNegative x <;> rfl
  | infinity s =>
      rw [signOf_of_infinity hunpack, signOf]
      cases isNegative x <;> rfl
  | zero s =>
      rw [(magnitude_eq_zero hunpack).1, signOf]
      cases isNegative x <;> rfl
  | finite s m e hpos =>
      rw [(magnitude_eq hunpack).1, signOf]
      cases isNegative x <;> rfl

theorem readFloat?_of_splitSign {s rest : List Char} {negative : Bool} {y : Float}
    (hsign : splitSign s = (negative, rest))
    (hread : (readUnsigned? rest <|> readNamed? rest) = some y) :
    readFloat? s = some (if negative then -y else y) := by
  rw [readFloat?, hsign]
  simp only [hread, Option.map_some]

/-- What is read behind the sign of a number takes the sign on. -/
theorem readFloat?_signText {x y : Float} {s : List Char} (hminus : s.head? ≠ some '-')
    (hplus : s.head? ≠ some '+') (hread : (readUnsigned? s <|> readNamed? s) = some y)
    (hy : y.toModel.unpack = x.toModel.unpack.abs) :
    ∃ z, readFloat? (signText x ++ s) = some z ∧ z.toModel.unpack = x.toModel.unpack := by
  refine ⟨_, readFloat?_of_splitSign (splitSign_signText x hminus hplus) hread, ?_⟩
  rw [unpack_eq_abs x]
  cases isNegative x with
  | true => rw [if_pos rfl, if_pos rfl, unpack_neg, hy]
  | false => rw [if_neg (by decide), if_neg (by decide), hy]

/-- **A number in plain digits is read as itself.** -/
theorem readFloat?_plainText {x : Float} (hx : x.isNaN = false) :
    ∃ y, readFloat? (plainText x) = some y ∧ y.toModel.unpack = x.toModel.unpack := by
  have hinf : x.isInf = x.toModel.unpack.isInf := rfl
  unfold plainText
  rw [hx, if_neg (by decide), hinf]
  obtain ⟨u, hunpack⟩ : ∃ u, x.toModel.unpack = u := ⟨_, rfl⟩
  cases u with
  | notANumber =>
      have hnan : x.toModel.unpack.isNaN = false := hx
      rw [hunpack] at hnan
      cases hnan
  | infinity s =>
      have hisInf : x.toModel.unpack.isInf = true := by
        rw [hunpack]
        rfl
      rw [if_pos hisInf]
      refine readFloat?_signText (s := ['i', 'n', 'f']) (by decide) (by decide) rfl ?_
      rw [hunpack]
      rfl
  | zero s =>
      have hisInf : x.toModel.unpack.isInf = false := by
        rw [hunpack]
        rfl
      have hshortest : (magnitude x).shortest .up = ⟨0, 0⟩ := by
        rw [Magnitude.shortest, if_pos (magnitude_eq_zero hunpack).2]
      rw [hisInf, if_neg (by decide), hshortest]
      refine readFloat?_signText (s := ['0']) (by decide) (by decide) rfl ?_
      rw [hunpack]
      rfl
  | finite s m e hpos =>
      have hisInf : x.toModel.unpack.isInf = false := by
        rw [hunpack]
        rfl
      obtain ⟨-, hc, he, hmagnitude⟩ := magnitude_eq hunpack
      obtain ⟨n, i, hread, hvalue⟩ := readUnsigned?_positional ((magnitudeOf m e).shortest .up)
      have hrounds := roundsTo_shortest hc he .up
      rw [← hvalue] at hrounds
      obtain ⟨hminus, hplus⟩ := not_sign_of_isDigit fun c =>
        isDigit_of_head?_positional (d := (magnitudeOf m e).shortest .up)
      rw [hisInf, if_neg (by decide), hmagnitude]
      refine readFloat?_signText hminus hplus (or_eq_of_eq_some hread) ?_
      rw [hunpack]
      exact unpack_nearest hc he hrounds

/-- A whole number of a machine word is the number nearest to itself. -/
theorem nearest_eq_ofNat {n : Nat} (h : n < 2 ^ 64) : nearest n 0 = Float.ofNat n := by
  have hlength : (digits n).length ≤ 20 :=
    (Nat.length_toDigits_le_iff (by decide) (by decide)).mpr (by omega)
  unfold nearest
  by_cases hzero : n = 0
  · rw [if_pos (Or.inl hzero), hzero]
    rfl
  · rw [if_neg (by simp only [not_or]; exact ⟨hzero, by omega⟩), if_neg (by omega)]
    rfl

/-- The sign of a whole number stands apart from its digits. -/
theorem splitSign_wholeText (i : Int) :
    splitSign (wholeText i) = (decide (i < 0), digits i.natAbs) := by
  unfold wholeText
  by_cases hneg : i < 0
  · rw [if_pos hneg, decide_eq_true hneg]
    rfl
  · obtain ⟨hminus, hplus⟩ := not_sign_of_isDigit fun c => isDigit_of_head?_digits (n := i.natAbs)
    rw [if_neg hneg, decide_eq_false hneg, splitSign_eq hminus hplus]

/-- **A whole number in digits is read as the floating-point number it becomes.** -/
theorem readFloat?_wholeText {i : Int} (h : i.natAbs < 2 ^ 64) :
    readFloat? (wholeText i) = some (Float.ofInt i) := by
  have hread : readUnsigned? (digits i.natAbs) = some (Float.ofNat i.natAbs) := by
    rw [readUnsigned?_digits (fun c => isDigit_of_mem_digits) (digits_ne_nil _),
      ofDigitChars_digits, nearest_eq_ofNat h]
  rw [readFloat?_of_splitSign (splitSign_wholeText i) (or_eq_of_eq_some hread)]
  cases i with
  | ofNat n => rw [if_neg (by simp)]; rfl
  | negSucc n => rw [if_pos (by simp [Int.negSucc_lt_zero])]; rfl

theorem readWhole?_wholeText (i : Int) : readWhole? (wholeText i) = some i := by
  have hself : (if i < 0 then -(i.natAbs : Int) else (i.natAbs : Int)) = i := by
    split <;> omega
  rw [readWhole?, splitSign_wholeText]
  simp only [readDigits?_digits, decide_eq_true_eq]
  exact congrArg some hself

/-- **A word in digits is read as itself**, the one that is farthest below zero included. -/
theorem readWord?_wholeText (i : Int64) : readWord? (wholeText i.toInt) = some i := by
  rw [readWord?, readWhole?_wholeText, Option.bind_some, word?_toInt]

end SheetQuery.Decimal
