import SheetQuery.Decimal.Whole
import SheetQuery.Text.Casing

/-!
# Reading a floating-point number

An optional sign, then digits with at most one point among them and at least one digit, then an
optional power of ten; or one of the words for infinity and for no number, in any case. The result
is the nearest number to the decimal that was written.
-/

namespace SheetQuery.Decimal

/-- The nearest number to `n * 10 ^ e`. Decimals far outside the range are settled by their size, so
that a long exponent costs nothing. -/
def nearest (n : Nat) (e : Int) : Float :=
  let size := ((digits n).length : Int) + e
  if n = 0 ∨ size < -330 then Float.ofScientific 0 false 0
  else if 310 < size then Float.ofBits 0x7FF0000000000000
  else Float.ofScientific n (e < 0) e.natAbs

/-- Digits, a point and more digits; what is left after them. At least one digit is needed. -/
def splitMantissa? (s : List Char) : Option (Nat × Int × List Char) :=
  let whole := s.takeWhile Char.isDigit
  let rest := s.dropWhile Char.isDigit
  let (fraction, rest) := match rest with
    | '.' :: tail => (tail.takeWhile Char.isDigit, tail.dropWhile Char.isDigit)
    | _ => ([], rest)
  if whole.isEmpty && fraction.isEmpty then none
  else some (Nat.ofDigitChars 10 (whole ++ fraction) 0, -(fraction.length : Int), rest)

/-- The power of ten after the digits; nothing stands for zero. -/
def readExponent? : List Char → Option Int
  | [] => some 0
  | c :: rest => if c = 'e' ∨ c = 'E' then readWhole? rest else none

/-- An unsigned decimal number. -/
def readUnsigned? (s : List Char) : Option Float :=
  (splitMantissa? s).bind fun (n, shift, rest) =>
    (readExponent? rest).map fun e => nearest n (shift + e)

/-- The words for numbers that no decimal denotes. -/
def readNamed? (s : List Char) : Option Float :=
  let word := Text.lowerAscii s
  if word = ['n', 'a', 'n'] then some (Float.ofBits 0x7FF8000000000000)
  else if word = ['i', 'n', 'f'] ∨ word = ['i', 'n', 'f', 'i', 'n', 'i', 't', 'y'] then
    some (Float.ofBits 0x7FF0000000000000)
  else none

/-- Reads a number in any of its forms. -/
def readFloat? (s : List Char) : Option Float :=
  let (negative, rest) := splitSign s
  ((readUnsigned? rest) <|> readNamed? rest).map fun x => if negative then -x else x

end SheetQuery.Decimal
