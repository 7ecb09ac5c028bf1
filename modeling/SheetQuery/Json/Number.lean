import SheetQuery.Decimal.Reading
import SheetQuery.Json

/-!
# Numbers of JSON documents

A number without point and exponent is whole. Any other is read quickly rather than exactly: the
leading digits that fit a 64-bit word are taken as a floating-point number, which is then multiplied
or divided once by the power of ten that the other digits and the exponent call for.
-/

namespace SheetQuery.Json

open Decimal

/-- The leading digits of a number that fit a word, and the power of ten they stand for. -/
structure Leading where
  significand : Nat
  exponent : Int

/-- Takes digits before the point; once one does not fit, the others only raise the exponent. -/
def Leading.takeWhole : Leading → List Char → Leading
  | l, [] => l
  | l, c :: rest =>
    let next := l.significand * 10 + (c.toNat - '0'.toNat)
    if next < Nat.pow 2 64 then takeWhole ⟨next, l.exponent⟩ rest
    else ⟨l.significand, l.exponent + (rest.length + 1)⟩

/-- Takes digits after the point; once one does not fit, the others are dropped. -/
def Leading.takeFraction : Leading → List Char → Leading
  | l, [] => l
  | l, c :: rest =>
    let next := l.significand * 10 + (c.toNat - '0'.toNat)
    if next < Nat.pow 2 64 then takeFraction ⟨next, l.exponent - 1⟩ rest else l

/-- `x * 10 ^ e` in one multiplication or division. Exponents beyond the largest power of ten are
worked off in steps of it, of which two make any word vanish. -/
def scaleBy : Nat → Float → Int → Float
  | 0, x, _ => x
  | fuel + 1, x, e =>
    if 308 < e then (if x == 0.0 then x else Float.ofBits 0x7FF0000000000000)
    else if 0 ≤ e then x * Float.ofScientific 1 false e.toNat
    else if -308 ≤ e then x / Float.ofScientific 1 false (-e).toNat
    else scaleBy fuel (x / Float.ofScientific 1 false 308) (e + 308)

/-- The number that the leading digits stand for, with ten to a further power. -/
def Leading.toFloat (l : Leading) (power : Int) : Float :=
  scaleBy 4 (Float.ofNat l.significand) (l.exponent + power)

/-- The floating-point number of a whole number that does not fit a word. -/
def floatOfWhole (i : Int) : Float :=
  let x := ((⟨0, 0⟩ : Leading).takeWhole (digits i.natAbs)).toFloat 0
  if i < 0 then -x else x

/-- A number at the front of a text, and what follows it. -/
def readNumber? (s : List Char) : Option (Json × List Char) :=
  let (negative, rest) := match s with
    | '-' :: rest => (true, rest)
    | s => (false, s)
  let whole := rest.takeWhile Char.isDigit
  let rest := rest.dropWhile Char.isDigit
  let (fraction, rest) := match rest with
    | '.' :: tail => (tail.takeWhile Char.isDigit, tail.dropWhile Char.isDigit)
    | _ => ([], rest)
  let isExponent (c : Char) : Bool := c.isDigit || c == '+' || c == '-'
  let (power, rest) := match rest with
    | c :: tail =>
      if c = 'e' ∨ c = 'E' then (tail.takeWhile isExponent, tail.dropWhile isExponent)
      else ([], rest)
    | [] => ([], rest)
  if whole.isEmpty then none
  else if fraction.isEmpty && power.isEmpty && !(negative && whole == ['0']) then
    let n : Int := Nat.ofDigitChars 10 whole 0
    some (.whole (if negative then -n else n), rest)
  else
    let x := (((⟨0, 0⟩ : Leading).takeWhole whole).takeFraction fraction).toFloat
      ((readWhole? power).getD 0)
    some (.decimal (if negative then -x else x), rest)

end SheetQuery.Json
