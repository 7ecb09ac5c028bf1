import SheetQuery.Calendar.DateTime
import SheetQuery.Decimal.Reading
import SheetQuery.Decimal.Whole
import SheetQuery.Text.Search
import SheetQuery.Toml.Basic

/-!
# Numbers, truth values and moments of documents

The scalars without quotes. A number may have single underscores between its digits and has no
leading zeros. Numbers that nothing could take up are refused: whole numbers beyond 128 bits and
decimals beyond the floating-point range. A moment is a date, a time of day, or both with or without
an offset; seconds may be left out.
-/

namespace SheetQuery.Toml

/-- Digits without the single underscores between them. -/
def joinedDigits? (isDigit : Char → Bool) (s : List Char) : Option (List Char) :=
  let pieces := Text.splitOn '_' s
  if pieces.all fun piece => !piece.isEmpty && piece.all isDigit then some pieces.flatten else none

/-- The text is one digit or does not start with a zero. -/
def hasNoLeadingZero : List Char → Bool
  | '0' :: _ :: _ => false
  | _ => true

/-- The digits of a whole number without leading zeros. -/
def wholeDigits? (s : List Char) : Option (List Char) :=
  (joinedDigits? Char.isDigit s).filter hasNoLeadingZero

/-! ## Whole numbers -/

/-- The whole numbers that a document can hold. -/
def inRange (i : Int) : Bool :=
  -Int.pow 2 127 ≤ i && i < Int.pow 2 128

/-- The value of a digit in a base up to sixteen. -/
def digitValue (c : Char) : Nat :=
  if c.isDigit then c.toNat - '0'.toNat else c.toLower.toNat - 'a'.toNat + 10

/-- A digit of the base. -/
def isDigitOf (base : Nat) (c : Char) : Bool :=
  (c.isDigit || (c.isAlpha && base == 16)) && digitValue c < base

/-- A whole number in a base, behind its mark. -/
def basedWhole? (base : Nat) (s : List Char) : Option Int :=
  (joinedDigits? (isDigitOf base) s).map fun digits =>
    ((digits.foldl (fun n c => n * base + digitValue c) 0 : Nat) : Int)

/-- A whole number. -/
def whole? : List Char → Option Int
  | '0' :: 'x' :: rest => basedWhole? 16 rest
  | '0' :: 'o' :: rest => basedWhole? 8 rest
  | '0' :: 'b' :: rest => basedWhole? 2 rest
  | s => do
    let (negative, rest) := Decimal.splitSign s
    let n ← Decimal.readDigits? (← wholeDigits? rest)
    return if negative then -(n : Int) else (n : Int)

/-! ## Decimals -/

/-- A character that starts an exponent. -/
def isExponentMark (c : Char) : Bool :=
  c == 'e' || c == 'E'

/-- The digits of an exponent with their sign, behind the mark. -/
def exponentDigits? (s : List Char) : Option (List Char) :=
  let (negative, rest) := Decimal.splitSign s
  (joinedDigits? Char.isDigit rest).map fun digits => if negative then '-' :: digits else digits

/-- The digits on both sides of the point, with the point where there is one. -/
def mantissaDigits? (s : List Char) : Option (List Char) :=
  match Text.splitAtFirst? '.' s with
  | none => wholeDigits? s
  | some (before, after) => do
    let whole ← wholeDigits? before
    let fraction ← joinedDigits? Char.isDigit after
    return whole ++ '.' :: fraction

/-- An unsigned decimal: digits with a point, an exponent or both. -/
def unsignedDecimal? (s : List Char) : Option (List Char) :=
  match s.dropWhile (!isExponentMark ·) with
  | [] => if s.contains '.' then mantissaDigits? s else none
  | _ :: exponent => do
    let mantissa ← mantissaDigits? (s.takeWhile (!isExponentMark ·))
    let digits ← exponentDigits? exponent
    return mantissa ++ 'e' :: digits

/-- A decimal or one of the special numbers. -/
def float? (s : List Char) : Option Float := do
  let (negative, rest) := Decimal.splitSign s
  if rest = "inf".toList ∨ rest = "nan".toList then Decimal.readFloat? s
  else
    let x ← Decimal.readFloat? (← unsignedDecimal? rest)
    if x.isInf then none else return if negative then -x else x

/-! ## Moments -/

/-- The number of two digits. -/
def twoDigits? (a b : Char) : Option Nat :=
  Decimal.readDigits? [a, b]

/-- A date, as its text. -/
def date? (s : List Char) : Option (List Char) :=
  match s with
  | [y₁, y₂, y₃, y₄, '-', m₁, m₂, '-', d₁, d₂] => do
    let year ← Decimal.readDigits? [y₁, y₂, y₃, y₄]
    let _ ← Calendar.Date.ofParts? year (← twoDigits? m₁ m₂) (← twoDigits? d₁ d₂)
    return s
  | _ => none

/-- The fraction of a second with its point, cut to nine digits and without zeros at its end, and
the rest. -/
def fraction? (s : List Char) : Option (List Char × List Char) :=
  match s with
  | '.' :: rest =>
    let digits := rest.takeWhile Char.isDigit
    let kept := ((digits.take 9).reverse.dropWhile (· == '0')).reverse
    if digits.isEmpty then none
    else some (if kept.isEmpty then [] else '.' :: kept, rest.dropWhile Char.isDigit)
  | rest => some ([], rest)

/-- The seconds with their fraction, and the rest. No seconds are zero seconds. -/
def seconds? : List Char → Option (List Char × List Char)
  | ':' :: a :: b :: rest => do
    if 60 < (← twoDigits? a b) then none
    let (fraction, rest) ← fraction? rest
    return (':' :: a :: b :: fraction, rest)
  | rest => some ([':', '0', '0'], rest)

/-- A time of day, and the rest. -/
def time? : List Char → Option (List Char × List Char)
  | a :: b :: ':' :: c :: d :: rest => do
    if 23 < (← twoDigits? a b) || 59 < (← twoDigits? c d) then none
    let (seconds, rest) ← seconds? rest
    return (a :: b :: ':' :: c :: d :: seconds, rest)
  | _ => none

/-- An offset, or none. -/
def offset? (s : List Char) : Option (List Char) :=
  match s with
  | [] => some []
  | ['Z'] | ['z'] => some ['Z']
  | [sign, a, b, ':', c, d] => do
    if !(sign == '+' || sign == '-') || 23 < (← twoDigits? a b) || 59 < (← twoDigits? c d) then none
    return s
  | _ => none

/-- A time of day with nothing behind it. -/
def localTime? (s : List Char) : Option (List Char) :=
  match time? s with
  | some (time, []) => some time
  | _ => none

/-- A time of day with an offset or none. -/
def offsetTime? (s : List Char) : Option (List Char) := do
  let (time, rest) ← time? s
  return time ++ (← offset? rest)

/-- A moment in one piece. -/
def moment? (s : List Char) : Option (List Char) :=
  match s.drop 10 with
  | 'T' :: rest | 't' :: rest => do
    return (← date? (s.take 10)) ++ 'T' :: (← offsetTime? rest)
  | _ => date? s <|> localTime? s

/-! ## Scalars -/

/-- A character of scalars without quotes. -/
def isScalarChar (c : Char) : Bool :=
  c.isAlphanum || c == '_' || c == '-' || c == '+' || c == '.' || c == ':'

/-- A scalar in one piece. -/
def word? (s : List Char) : Option Value :=
  if s = "true".toList then some (.boolean true)
  else if s = "false".toList then some (.boolean false)
  else ((whole? s).filter inRange).map .integer <|> (float? s).map .float <|>
    (moment? s).map fun m => .moment (String.ofList m)

/-- The scalar that a document starts with, and the rest. One space may stand between a date and a
time of day. -/
def scalar? (s : List Char) : Option (Value × List Char) :=
  let word := s.takeWhile isScalarChar
  let rest := s.dropWhile isScalarChar
  match date? word, rest with
  | some date, ' ' :: after =>
    if (after.head?.map Char.isDigit).getD false then do
      let time ← offsetTime? (after.takeWhile isScalarChar)
      return (.moment (String.ofList (date ++ 'T' :: time)), after.dropWhile isScalarChar)
    else some (.moment (String.ofList date), rest)
  | _, _ => (word? word).map (·, rest)

end SheetQuery.Toml
