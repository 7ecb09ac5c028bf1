import SheetQuery.Decimal.Shortest
import SheetQuery.Decimal.Whole

/-!
# Writing a floating-point number

Two ways to write the same shortest digits. `plainText` never uses an exponent and writes a whole
number without a point. `interchangeText` always shows a point or an exponent, turns to an exponent
below `10 ^ -5` and from `10 ^ 16` on, and knows finite numbers only.
-/

namespace SheetQuery.Decimal

/-- The digits of a decimal with its point in place; nothing follows a whole number. -/
def Scaled.positional (d : Scaled) : List Char :=
  let ds := digits d.coefficient
  let point := (ds.length : Int) + d.exponent
  if 0 ≤ d.exponent then ds ++ List.replicate d.exponent.toNat '0'
  else if 0 < point then ds.take point.toNat ++ '.' :: ds.drop point.toNat
  else ['0', '.'] ++ List.replicate (-point).toNat '0' ++ ds

/-- One digit before the point, and the power of ten with its sign. -/
def Scaled.scientific (d : Scaled) : List Char :=
  let ds := digits d.coefficient
  let power := (ds.length : Int) + d.exponent - 1
  let mantissa := match ds with
    | first :: second :: rest => first :: '.' :: second :: rest
    | ds => ds
  mantissa ++ 'e' :: (if power < 0 then '-' else '+') :: digits power.natAbs

/-- A minus sign for a number that has one. -/
def signText (x : Float) : List Char :=
  if isNegative x then ['-'] else []

/-- The number in plain positional digits; a tie between two shortest forms goes up. -/
def plainText (x : Float) : List Char :=
  if x.isNaN then ['N', 'a', 'N']
  else if x.isInf then signText x ++ ['i', 'n', 'f']
  else signText x ++ ((magnitude x).shortest .up).positional

/-- The number as data formats write it, none when it is not finite. -/
def interchangeText? (x : Float) : Option (List Char) :=
  if x.isFinite then
    let d := (magnitude x).shortest .even
    let power := ((digits d.coefficient).length : Int) + d.exponent - 1
    let body :=
      if -5 ≤ power ∧ power ≤ 15 then
        d.positional ++ if 0 ≤ d.exponent then ['.', '0'] else []
      else d.scientific
    some (signText x ++ body)
  else none

end SheetQuery.Decimal
