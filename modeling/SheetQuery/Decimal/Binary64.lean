/-!
# The exact value of a binary floating-point number

A finite number is `significand * 2 ^ exponent` with a sign. The whole-number questions of the
library (is it whole, what does it round to) are answered in exact integer arithmetic on these
parts, so they carry no rounding error of their own.
-/

namespace SheetQuery.Decimal

/-- The magnitude `significand * 2 ^ exponent` of a finite number. `narrowBelow` holds when the next
smaller magnitude is only half as far away as the next larger one. -/
structure Magnitude where
  significand : Nat
  exponent : Int
  narrowBelow : Bool

/-- The sign bit, which zero and the not-a-number value have too. -/
def isNegative (x : Float) : Bool :=
  x.toBits.toNat / Nat.pow 2 63 == 1

/-- The magnitude of a finite number, read off its bits. -/
def magnitude (x : Float) : Magnitude :=
  let bits := x.toBits.toNat
  let field : Nat := bits / Nat.pow 2 52 % Nat.pow 2 11
  let fraction : Nat := bits % Nat.pow 2 52
  if field = 0 then ⟨fraction, -1074, false⟩
  else ⟨Nat.pow 2 52 + fraction, (field : Int) - 1075, fraction == 0 && field != 1⟩

/-- The sign of `x` on a natural number. -/
def signed (x : Float) (n : Nat) : Int :=
  if isNegative x then -(n : Int) else (n : Int)

/-- The nearest whole number, a half going away from zero; none for an infinity or no number. -/
def roundAway? (x : Float) : Option Int :=
  if x.isFinite then
    let m := magnitude x
    if 0 ≤ m.exponent then some (signed x (m.significand * Nat.pow 2 m.exponent.toNat))
    else
      let scale := Nat.pow 2 (-m.exponent).toNat
      some (signed x ((2 * m.significand + scale) / (2 * scale)))
  else none

/-- The whole part, which lies toward zero; none for an infinity or no number. -/
def wholePart? (x : Float) : Option Int :=
  if x.isFinite then
    let m := magnitude x
    if 0 ≤ m.exponent then some (signed x (m.significand * Nat.pow 2 m.exponent.toNat))
    else some (signed x (m.significand / Nat.pow 2 (-m.exponent).toNat))
  else none

/-- The value as a whole number, when it is finite and has no fraction. -/
def exactWhole? (x : Float) : Option Int :=
  if x.isFinite then
    let m := magnitude x
    if 0 ≤ m.exponent then some (signed x (m.significand * Nat.pow 2 m.exponent.toNat))
    else
      let scale := Nat.pow 2 (-m.exponent).toNat
      if m.significand % scale = 0 then some (signed x (m.significand / scale)) else none
  else none

end SheetQuery.Decimal
