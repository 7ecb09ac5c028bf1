import SheetQuery.Decimal.Binary64

/-!
# The shortest decimal of a floating-point number

Of all decimals that read back as a given number, the one with the fewest digits, and of those the
nearest. For one digit, two digits and so on, the two neighbours of the number on that decimal grid
are tried in exact arithmetic; the first grid with a hit wins. Seventeen digits always suffice.
-/

namespace SheetQuery.Decimal

/-- The decimal `coefficient * 10 ^ exponent`. -/
structure Scaled where
  coefficient : Nat
  exponent : Int
  deriving DecidableEq, Repr

/-- Which neighbour wins when a number lies exactly between two decimals. -/
inductive Tie where
  | up
  | even
  deriving DecidableEq, Repr

/-- `2 ^ twos * 10 ^ tens` as a quotient of natural numbers. -/
def scale (twos tens : Int) : Nat × Nat :=
  (Nat.pow 2 twos.toNat * Nat.pow 10 tens.toNat, Nat.pow 2 (-twos).toNat * Nat.pow 10 (-tens).toNat)

/-- Whether `m` lies below `10 ^ p`. -/
def Magnitude.belowPower (m : Magnitude) (p : Int) : Bool :=
  let (num, den) := scale m.exponent (-p)
  m.significand * num < den

/-- The number of digits before the point: the least `p` with `m < 10 ^ p`, for `m` not zero. -/
def Magnitude.leading (m : Magnitude) : Int :=
  let guess := ((Nat.log2 m.significand : Int) + m.exponent) * 30103 / 100000
  if m.belowPower guess then guess
  else if m.belowPower (guess + 1) then guess + 1
  else guess + 2

/-- Of the two neighbours of `m` among the multiples of `10 ^ k`, the one that reads back as `m`; of
two such, the nearer. The numbers that read back as `m` lie within half a step of it, the ends
included when the significand is even. -/
def Magnitude.onGrid? (m : Magnitude) (tie : Tie) (k : Int) : Option Nat :=
  let (num, den) := scale (m.exponent - 2) (-k)
  let value := 4 * m.significand * num
  let low := (4 * m.significand - if m.narrowBelow then 1 else 2) * num
  let high := (4 * m.significand + 2) * num
  let closed := m.significand % 2 == 0
  let reads (c : Nat) : Bool :=
    if closed then low ≤ c * den && c * den ≤ high else low < c * den && c * den < high
  let below := value / den
  match reads below, reads (below + 1) with
  | true, true =>
    let middle := (2 * below + 1) * den
    if 2 * value < middle then some below
    else if middle < 2 * value then some (below + 1)
    else match tie with
      | .up => some (below + 1)
      | .even => some (below + below % 2)
  | true, false => some below
  | false, true => some (below + 1)
  | false, false => none

/-- The same decimal with a coefficient that does not end in zero, looking at most `fuel` digits
deep. -/
def Scaled.stripZeros : Nat → Scaled → Scaled
  | 0, d => d
  | fuel + 1, ⟨c, e⟩ =>
    if c ≠ 0 ∧ c % 10 = 0 then stripZeros fuel ⟨c / 10, e + 1⟩ else ⟨c, e⟩

/-- The shortest decimal that reads back as the magnitude; zero for zero. -/
def Magnitude.shortest (m : Magnitude) (tie : Tie) : Scaled :=
  if m.significand = 0 then ⟨0, 0⟩
  else
    let p := m.leading
    let hit := (List.range 17).findSome? fun (n : Nat) =>
      let k := p - ((n : Int) + 1)
      (m.onGrid? tie k).map fun c => (⟨c, k⟩ : Scaled)
    (hit.getD ⟨0, 0⟩).stripZeros 18

end SheetQuery.Decimal
