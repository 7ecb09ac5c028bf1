/-!
# Whole numbers in decimal

Whole numbers as text and back. Writing uses the fewest digits; reading takes an optional sign and
at least one digit and nothing else. Numbers that must fit a machine word go through `word?`, which
refuses what does not fit.
-/

namespace SheetQuery.Decimal

/-- The decimal digits of a natural number, without leading zeros. -/
def digits (n : Nat) : List Char :=
  Nat.toDigits 10 n

/-- The digits of `n`, filled up with zeros on the left to at least `width` characters. -/
def padded (width n : Nat) : List Char :=
  let ds := digits n
  List.replicate (width - ds.length) '0' ++ ds

/-- A whole number with a minus sign when it is negative. -/
def wholeText (i : Int) : List Char :=
  if i < 0 then '-' :: digits i.natAbs else digits i.natAbs

/-- Reads a text of one or more digits. -/
def readDigits? (s : List Char) : Option Nat :=
  if s.isEmpty || !s.all Char.isDigit then none else some (Nat.ofDigitChars 10 s 0)

/-- A leading sign, and what follows it. No sign counts as a plus. -/
def splitSign : List Char → Bool × List Char
  | '-' :: rest => (true, rest)
  | '+' :: rest => (false, rest)
  | s => (false, s)

/-- Reads digits after an optional sign. -/
def readWhole? (s : List Char) : Option Int :=
  let (negative, rest) := splitSign s
  (readDigits? rest).map fun n => if negative then -(n : Int) else (n : Int)

/-- The 64-bit word with the value `i`, when there is one. -/
def word? (i : Int) : Option Int64 :=
  if Int64.minValue.toInt ≤ i ∧ i ≤ Int64.maxValue.toInt then some (Int64.ofInt i) else none

/-- The 64-bit word nearest to `i`: an end of the range where `i` lies beyond it. -/
def nearestWord (i : Int) : Int64 :=
  Int64.ofInt (max Int64.minValue.toInt (min i Int64.maxValue.toInt))

/-- Reads a whole number that fits a 64-bit word. -/
def readWord? (s : List Char) : Option Int64 :=
  (readWhole? s).bind word?

theorem readDigits?_digits (n : Nat) : readDigits? (digits n) = some n := by
  have hne : (Nat.toDigits 10 n).isEmpty = false := by simp [Nat.toDigits_ne_nil]
  have hall : (Nat.toDigits 10 n).all Char.isDigit = true := by
    rw [List.all_eq_true]
    exact fun c hc => Nat.isDigit_of_mem_toDigits (by decide) (by decide) hc
  simp [readDigits?, digits, hne, hall, Nat.ofDigitChars_toDigits]

theorem word?_toInt (i : Int64) : word? i.toInt = some i := by
  have h₁ : Int64.minValue.toInt ≤ i.toInt := Int64.minValue_le_toInt i
  have h₂ : i.toInt ≤ Int64.maxValue.toInt := Int64.toInt_le i
  rw [word?, if_pos ⟨h₁, h₂⟩, Int64.ofInt_toInt]

theorem toInt_of_word? {i : Int} {w : Int64} (h : word? i = some w) : w.toInt = i := by
  unfold word? at h
  split at h
  · next hrange =>
      cases h
      have hmin : Int64.minValue.toInt = -2 ^ 63 := by decide
      have hmax : Int64.maxValue.toInt = 2 ^ 63 - 1 := by decide
      exact Int64.toInt_ofInt_of_le (by omega) (by omega)
  · cases h

end SheetQuery.Decimal
