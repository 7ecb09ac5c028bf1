import SheetQuery.Projection
import SheetQuery.Proofs.Filter.Meaning

/-!
# Comparing from either side

A comparison may name its operands in either order. Trading them turns the ordering around and
nothing else, for every pair of shapes: a not-a-number value has no place on either side, and a text
is read as a number or a moment wherever it stands. Selectors know equality twice, as an ordering
and as sameness of shape and content; against a plain value the second adds nothing to the first.

Main statements: `compare_swap`, `compares_left` and `compares_right`, and for the test on emptiness
`satisfies_emptyText`.
-/

namespace SheetQuery.Value

/-! ## Floating-point numbers -/

section Floats

open Float.Model

theorem compareMagnitude_swap (e₁ e₂ : Int) (m₁ m₂ : Nat) :
    (Ord.compare e₂ e₁).then (Ord.compare m₂ m₁) =
      ((Ord.compare e₁ e₂).then (Ord.compare m₁ m₂)).swap := by
  have hexponent : Ord.compare e₂ e₁ = (Ord.compare e₁ e₂).swap := Std.OrientedCmp.eq_swap
  have hmantissa : Ord.compare m₂ m₁ = (Ord.compare m₁ m₂).swap := Std.OrientedCmp.eq_swap
  rw [Ordering.swap_then, hexponent, hmantissa]

/-- The order of decoded numbers, from either side. -/
theorem compareUnpacked_swap (a b : UnpackedFloat) :
    b.compare a = (a.compare b).map Ordering.swap := by
  cases a with
  | notANumber => cases b <;> rfl
  | infinity s =>
      cases s <;> cases b with
      | infinity r => cases r <;> rfl
      | _ => rfl
  | zero s =>
      cases b with
      | infinity r => cases r <;> rfl
      | finite r => cases r <;> rfl
      | _ => rfl
  | finite s m₁ e₁ h₁ =>
      cases b with
      | notANumber => rfl
      | infinity r => cases r <;> rfl
      | zero r => cases s <;> rfl
      | finite r m₂ e₂ h₂ =>
          have hswap := compareMagnitude_swap e₁ e₂ m₁ m₂
          cases s <;> cases r
          · exact congrArg (fun o => some (Ordering.swap o)) hswap
          · rfl
          · rfl
          · exact congrArg some hswap

/-- A number is level with itself. -/
theorem compareUnpacked_self {a : UnpackedFloat} (h : a.isNaN = false) :
    a.compare a = some .eq := by
  cases a with
  | notANumber => cases h
  | infinity s => cases s <;> rfl
  | zero s => rfl
  | finite s m e hpos =>
      have hexponent : Ord.compare e e = .eq := Std.ReflCmp.compare_self
      have hmantissa : Ord.compare m m = .eq := Std.ReflCmp.compare_self
      have hself : (Ord.compare e e).then (Ord.compare m m) = .eq := by
        rw [hexponent, hmantissa]
        rfl
      cases s
      · exact congrArg (fun o => some (Ordering.swap o)) hself
      · exact congrArg some hself

theorem lt_iff_compareUnpacked {a b : Float} :
    a < b ↔ a.toModel.unpack.compare b.toModel.unpack = some .lt := by
  show a.lt b = true ↔ _
  unfold Float.lt
  rw [decide_eq_true_eq]
  exact beq_iff_eq

theorem beq_iff_compareUnpacked {a b : Float} :
    (a == b) = true ↔ a.toModel.unpack.compare b.toModel.unpack = some .eq := by
  show (a.toModel.unpack.compare b.toModel.unpack == some .eq) = true ↔ _
  exact beq_iff_eq

/-- The three questions that the order of two numbers is put together from have at most one yes. -/
theorem compareFloat_eq (a b : Float) :
    compareFloat a b = a.toModel.unpack.compare b.toModel.unpack := by
  have hswap := compareUnpacked_swap a.toModel.unpack b.toModel.unpack
  simp only [compareFloat, lt_iff_compareUnpacked, beq_iff_compareUnpacked, hswap]
  rcases a.toModel.unpack.compare b.toModel.unpack with _ | _ | _ | _ <;> rfl

theorem compareFloat_swap (a b : Float) :
    compareFloat b a = (compareFloat a b).map Ordering.swap := by
  rw [compareFloat_eq, compareFloat_eq, compareUnpacked_swap]

theorem compareFloat_eq_of_beq {a b : Float} (h : (a == b) = true) :
    compareFloat a b = some .eq := by
  rw [compareFloat_eq, beq_iff_compareUnpacked.mp h]

end Floats

/-! ## The other shapes -/

section Shapes

open Calendar

instance : Std.OrientedCmp compareWord :=
  inferInstanceAs (Std.OrientedCmp (compareOn Int64.toInt))

instance : Std.OrientedCmp compareText :=
  inferInstanceAs (Std.OrientedCmp (Ord.compare : String → String → Ordering))

instance : Std.OrientedCmp compareBool where
  eq_swap {a b} := by cases a <;> cases b <;> rfl

instance : Std.OrientedCmp Date.compare :=
  inferInstanceAs (Std.OrientedCmp (compareLex (compareOn Date.year)
    (compareLex (compareOn Date.month) (compareOn Date.day))))

instance : Std.OrientedCmp Clock.compare :=
  inferInstanceAs (Std.OrientedCmp (compareLex (compareOn Clock.hour)
    (compareLex (compareOn Clock.minute)
      (compareLex (compareOn Clock.second) (compareOn Clock.nanosecond)))))

instance : Std.OrientedCmp DateTime.compare where
  eq_swap {a b} := by
    have hdate : a.date.compare b.date = (b.date.compare a.date).swap := Std.OrientedCmp.eq_swap
    have hclock : a.clock.compare b.clock = (b.clock.compare a.clock).swap :=
      Std.OrientedCmp.eq_swap
    rw [DateTime.compare, hdate, hclock, ← Ordering.swap_then]
    rfl

end Shapes

/-! ## Values -/

theorem map_swap_map_swap (o : Option Ordering) :
    (o.map Ordering.swap).map Ordering.swap = o := by
  rcases o with _ | _ | _ | _ <;> rfl

/-- **Trading the operands turns the ordering around**, and values that do not compare do not
compare from the other side. -/
theorem compare_swap (a b : Value) : compare b a = (compare a b).map Ordering.swap := by
  cases a with
  | null => simp
  | record fields => cases b <;> rfl
  | bool p =>
      cases b with
      | bool q => exact congrArg some Std.OrientedCmp.eq_swap
      | _ => rfl
  | int i =>
      cases b with
      | int j => exact congrArg some Std.OrientedCmp.eq_swap
      | float y => exact compareFloat_swap (ofWord i) y
      | text s => exact (map_swap_map_swap _).symm
      | _ => rfl
  | float x =>
      cases b with
      | int j => exact compareFloat_swap x (ofWord j)
      | float y => exact compareFloat_swap x y
      | text s => exact (map_swap_map_swap _).symm
      | _ => rfl
  | text s =>
      cases b with
      | text t => exact congrArg some Std.OrientedCmp.eq_swap
      | _ => rfl
  | dateTime t =>
      cases b with
      | dateTime u => exact congrArg some Std.OrientedCmp.eq_swap
      | text s => exact (map_swap_map_swap _).symm
      | _ => rfl

/-- A comparison holds exactly where the flipped one holds from the other side. -/
theorem satisfies_flipped (c : Comparison) (a b : Value) :
    satisfies c.flipped b a = satisfies c a b := by
  unfold satisfies
  rw [compare_swap]
  cases compare a b with
  | none => rfl
  | some o => exact c.holds_flipped o

/-! ## Selectors -/

/-- The value is neither missing nor a record, so it has a place in comparisons. -/
def isScalar : Value → Bool
  | .null | .record _ => false
  | _ => true

theorem isNull_of_isScalar {v : Value} (h : v.isScalar = true) : v.isNull = false := by
  cases v with
  | null => cases h
  | _ => rfl

theorem isScalar_of_same {a b : Value} (h : (a == b) = true) : a.isScalar = b.isScalar := by
  have hsame : same a b = true := h
  cases a <;> cases b <;> first | rfl | cases hsame

theorem compare_of_beq {α : Type} [BEq α] [LawfulBEq α] {cmp : α → α → Ordering}
    [Std.ReflCmp cmp] {a b : α} (h : (a == b) = true) : cmp a b = .eq := by
  obtain rfl := beq_iff_eq.mp h
  exact Std.ReflCmp.compare_self

/-- Scalars that are the same compare as equal. -/
theorem compare_eq_of_same {a b : Value} (hb : b.isScalar = true) (h : (a == b) = true) :
    compare a b = some .eq := by
  have hsame : same a b = true := h
  -- sameness asks for one shape, so each shape is met by itself only
  cases b with
  | null => cases hb
  | record fields => cases hb
  | float y =>
      cases a with
      | float x => exact compareFloat_eq_of_beq hsame
      | _ => cases hsame
  | bool q =>
      cases a with
      | bool p => exact congrArg some (compare_of_beq hsame)
      | _ => cases hsame
  | int j =>
      cases a with
      | int i => exact congrArg some (compare_of_beq hsame)
      | _ => cases hsame
  | text t =>
      cases a with
      | text s => exact congrArg some (compare_of_beq hsame)
      | _ => cases hsame
  | dateTime u =>
      cases a with
      | dateTime t => exact congrArg some (compare_of_beq hsame)
      | _ => cases hsame

/-- Against a scalar, equality is comparing as equal. -/
theorem equals_eq_satisfies {a b : Value} (h : a.isScalar = true ∨ b.isScalar = true) :
    equals a b = satisfies .eq a b := by
  have hboth : (a.isNull && b.isNull) = false := by
    rcases h with h | h <;> simp [isNull_of_isScalar h]
  unfold equals
  rw [hboth, if_neg Bool.false_ne_true]
  by_cases hnone : (a.isNull || b.isNull) = true
  · have hcompare : compare a b = none := by
      rcases Bool.or_eq_true_iff.mp hnone with hnull | hnull
      · cases a with
        | null => exact compare_null_left b
        | _ => cases hnull
      · cases b with
        | null => exact compare_null_right a
        | _ => cases hnull
    rw [if_pos hnone, satisfies, hcompare]
  · have hsame : (a == b) = true → compare a b = some .eq := fun hs =>
      compare_eq_of_same (h.elim (fun ha => (isScalar_of_same hs).symm.trans ha) id) hs
    rw [if_neg hnone, satisfies]
    cases hc : compare a b with
    | none =>
        rw [hc] at hsame
        simpa using hsame
    | some o =>
        cases hs : a == b with
        | false => simp [Comparison.holds]
        | true =>
            rw [hc] at hsame
            cases hsame hs
            rfl

/-- Selectors compare a value with a scalar as conditions do. -/
theorem compares_eq_satisfies {c : Comparison} (hc : c ≠ .ne) {a b : Value}
    (h : a.isScalar = true ∨ b.isScalar = true) : compares c a b = satisfies c a b := by
  cases c with
  | ne => exact absurd rfl hc
  | eq => exact equals_eq_satisfies h
  | _ => rfl

theorem compares_right {c : Comparison} (hc : c ≠ .ne) {v : Value} (hv : v.isScalar = true)
    (a : Value) : compares c a v = satisfies c a v :=
  compares_eq_satisfies hc (Or.inr hv)

/-- With the scalar in front, it is the flipped comparison. -/
theorem compares_left {c : Comparison} (hc : c ≠ .ne) {v : Value} (hv : v.isScalar = true)
    (a : Value) : compares c v a = satisfies c.flipped a v := by
  rw [compares_eq_satisfies hc (Or.inl hv), satisfies_flipped]

theorem equals_null_right (a : Value) : equals a .null = a.isNull := by
  cases a <;> rfl

theorem equals_null_left (a : Value) : equals .null a = a.isNull := by
  cases a <;> rfl

/-- A comparison with the missing value on the right is a test for it. -/
theorem compares_null_right (negated : Bool) (a : Value) :
    compares (Comparison.nullTest negated) a .null = (a.isNull != negated) := by
  cases negated <;> simp [Comparison.nullTest, compares, equals_null_right]

theorem compares_null_left (negated : Bool) (a : Value) :
    compares (Comparison.nullTest negated) .null a = (a.isNull != negated) := by
  cases negated <;> simp [Comparison.nullTest, compares, equals_null_left]

/-- Nothing but the empty text is equal to the empty text, which spells no number and no moment. -/
theorem satisfies_emptyText (v argument : Value) :
    (satisfies .eq v (.text "") || v.isNull) = v.passes .isNullOrEmpty argument := by
  cases v with
  | text s =>
      have hequal : compareText s "" = .eq ↔ s = "" := by
        show Ord.compare s "" = .eq ↔ s = ""
        exact Std.LawfulEqOrd.compare_eq_iff_eq
      rw [Bool.eq_iff_iff]
      simp [satisfies, compare, Comparison.holds, isNull, passes, hequal]
  | _ => rfl

end SheetQuery.Value
