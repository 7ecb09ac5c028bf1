import SheetQuery.Calendar.Pattern
import SheetQuery.Proofs.Decimal.RoundTrip
import SheetQuery.Proofs.Text.Trimming

/-!
# Moments are read back to the second

A moment is shown as the first pattern reads it, whatever its year, with the leap second as the
sixtieth. The fraction of a second is not shown, so it is what reading does not give back.

Main statement: `readDateTime?_text`.
-/

namespace SheetQuery

/-! ## Digits of a fixed width -/

namespace Decimal

variable {width n : Nat}

theorem isDigit_of_mem_padded {c : Char} (h : c ∈ padded width n) : c.isDigit = true := by
  rcases List.mem_append.mp h with h | h
  · rw [(List.mem_replicate.mp h).2]
    rfl
  · exact isDigit_of_mem_digits h

theorem ofDigitChars_padded (width n : Nat) : Nat.ofDigitChars 10 (padded width n) 0 = n := by
  rw [padded, Nat.ofDigitChars_append, Nat.ofDigitChars_replicate_zero, Nat.mul_zero,
    ofDigitChars_digits]

theorem padded_ne_nil (width n : Nat) : padded width n ≠ [] := fun h =>
  digits_ne_nil n (List.append_eq_nil_iff.mp h).2

theorem length_padded (hwidth : 0 < width) (hn : n < 10 ^ width) :
    (padded width n).length = width := by
  have hshort : (digits n).length ≤ width :=
    (Nat.length_toDigits_le_iff (by decide) hwidth).mpr hn
  simp only [padded, List.length_append, List.length_replicate]
  omega

end Decimal

namespace Calendar

open Decimal

/-! ## The parts of a text -/

variable {width n : Nat} {rest : List Char}

/-- Digits are not trimmed. -/
theorem trimStart_padded (width n : Nat) (rest : List Char) :
    Text.trimStart (padded width n ++ rest) = padded width n ++ rest := by
  obtain ⟨c, cs, hcons⟩ := List.exists_cons_of_ne_nil (padded_ne_nil width n)
  have hc : Text.isBlank c = false := isBlank_of_mem_padded (hcons ▸ List.mem_cons_self)
  rw [hcons, List.cons_append, Text.trimStart, List.dropWhile_cons_of_neg (by simp [hc])]

theorem takeNumber?_padded (hwidth : 0 < width) (hn : n < 10 ^ width) (rest : List Char) :
    takeNumber? width (padded width n ++ rest) = some (n, rest) := by
  have hlength := length_padded hwidth hn
  have htake : (padded width n ++ rest).take width = padded width n := List.take_left' hlength
  have hdigits : (padded width n).takeWhile Char.isDigit = padded width n :=
    List.takeWhile_eq_self_iff.mpr fun c => isDigit_of_mem_padded
  have hne : (padded width n).isEmpty = false := by simpa using padded_ne_nil width n
  unfold takeNumber?
  rw [trimStart_padded]
  simp only [htake, hdigits, hne, ofDigitChars_padded, Bool.false_eq_true, if_false,
    List.drop_left]

/-- A year is read with its sign, up to the hyphen behind it. -/
theorem takeYear?_yearText (year : Int) (rest : List Char) :
    takeYear? (yearText year ++ '-' :: rest) = some (year, '-' :: rest) := by
  have hdigits (n : Nat) : (padded 4 n ++ '-' :: rest).takeWhile Char.isDigit = padded 4 n ∧
      (padded 4 n ++ '-' :: rest).dropWhile Char.isDigit = '-' :: rest := by
    have hall : ∀ c ∈ padded 4 n, c.isDigit = true := fun c => isDigit_of_mem_padded
    rw [List.takeWhile_append_of_pos hall, List.takeWhile_cons_of_neg (by decide),
      List.dropWhile_append_of_pos hall, List.dropWhile_cons_of_neg (by decide), List.append_nil]
    exact ⟨rfl, rfl⟩
  have hne (n : Nat) : (padded 4 n).isEmpty = false := by simpa using padded_ne_nil 4 n
  unfold yearText
  split
  · next hyear =>
      obtain ⟨c, cs, hcons⟩ := List.exists_cons_of_ne_nil (padded_ne_nil 4 year.toNat)
      have hc : c.isDigit = true := isDigit_of_mem_padded (hcons ▸ List.mem_cons_self)
      have hnumber : takeNumber? 4 (padded 4 year.toNat ++ '-' :: rest) =
          some (year.toNat, '-' :: rest) := takeNumber?_padded (by decide) (by omega) _
      unfold takeYear?
      rw [trimStart_padded]
      dsimp only
      split
      · next h =>
          rw [hcons, List.cons_append, List.cons.injEq] at h
          obtain ⟨rfl, -⟩ := h
          cases hc
      · next h =>
          rw [hcons, List.cons_append, List.cons.injEq] at h
          obtain ⟨rfl, -⟩ := h
          cases hc
      · rw [hnumber]
        simp only [Option.map_some, Int.toNat_of_nonneg hyear.1]
  · next hyear =>
      split
      · next hneg =>
          have htrim : Text.trimStart ('-' :: padded 4 year.natAbs ++ '-' :: rest) =
              '-' :: (padded 4 year.natAbs ++ '-' :: rest) := rfl
          unfold takeYear?
          rw [htrim]
          simp only [hdigits, hne, ofDigitChars_padded, Bool.false_eq_true, if_false,
            Option.some.injEq, Prod.mk.injEq, and_true]
          omega
      · next hpos =>
          have htrim : Text.trimStart ('+' :: padded 4 year.natAbs ++ '-' :: rest) =
              '+' :: (padded 4 year.natAbs ++ '-' :: rest) := rfl
          unfold takeYear?
          rw [htrim]
          simp only [hdigits, hne, ofDigitChars_padded, Bool.false_eq_true, if_false,
            Option.some.injEq, Prod.mk.injEq, and_true]
          omega

/-! ## The whole text -/

theorem Date.bounds (d : Date) : d.month < 100 ∧ d.day < 100 := by
  obtain ⟨year, month, day, -, -, hfirst, hlast⟩ := d
  dsimp only
  unfold monthLength at hlast
  split at hlast
  all_goals first | omega | (split at hlast <;> omega)

theorem Clock.shownSecond_lt (c : Clock) : c.shownSecond < 100 := by
  obtain ⟨hour, minute, second, nanosecond, -, -, hsecond, hnano⟩ := c
  simp only [Clock.shownSecond]
  omega

/-- The clock without the fraction of its second. -/
def Clock.wholeSeconds (c : Clock) : Clock where
  hour := c.hour
  minute := c.minute
  second := c.second
  nanosecond := c.nanosecond / 1000000000 * 1000000000
  isClock := by
    obtain ⟨hhour, hminute, hsecond, hnano⟩ := c.isClock
    exact ⟨hhour, hminute, hsecond, by omega⟩

/-- The moment without the fraction of its second. -/
def DateTime.wholeSeconds (t : DateTime) : DateTime :=
  ⟨t.date, t.clock.wholeSeconds⟩

theorem readPieces?_text (t : DateTime) :
    readPieces? (hyphenDate ++ .blanks :: colonClock) Parts.none t.text =
      some ⟨t.date.year, t.date.month, t.date.day, t.clock.hour, false, t.clock.minute,
        t.clock.shownSecond, 0⟩ := by
  obtain ⟨hmonth, hday⟩ := t.date.bounds
  obtain ⟨hhour, hminute, -, -⟩ := t.clock.isClock
  have hnumber {n : Nat} (hn : n < 100) (rest : List Char) :
      takeNumber? 2 (padded 2 n ++ rest) = some (n, rest) := takeNumber?_padded (by decide) hn rest
  have hlast : takeNumber? 2 (padded 2 t.clock.shownSecond) = some (t.clock.shownSecond, []) := by
    simpa using hnumber t.clock.shownSecond_lt []
  have hblank (rest : List Char) : Text.trimStart (' ' :: (padded 2 t.clock.hour ++ rest)) =
      padded 2 t.clock.hour ++ rest := trimStart_padded 2 t.clock.hour rest
  have htext : t.text = yearText t.date.year ++ '-' :: (padded 2 t.date.month ++
      '-' :: (padded 2 t.date.day ++ ' ' :: (padded 2 t.clock.hour ++
        ':' :: (padded 2 t.clock.minute ++ ':' :: padded 2 t.clock.shownSecond)))) := by
    simp [DateTime.text, Date.text, Clock.text]
  rw [htext]
  simp only [hyphenDate, colonClock, List.cons_append, List.nil_append, readPieces?, Piece.take?,
    takeYear?_yearText, hnumber hmonth, hnumber hday, hnumber (show t.clock.hour < 100 by omega),
    hnumber (show t.clock.minute < 100 by omega), hlast, hblank, Option.map_some, Option.bind_some,
    if_true, List.isEmpty_nil, Parts.none]

theorem toDateTime?_parts (t : DateTime) :
    Parts.toDateTime? ⟨t.date.year, t.date.month, t.date.day, t.clock.hour, false, t.clock.minute,
      t.clock.shownSecond, 0⟩ = some t.wholeSeconds := by
  have hparts := Clock.ofParts?_parts t.clock.wholeSeconds
  have hshown : t.clock.shownSecond = t.clock.second + t.clock.nanosecond / 1000000000 := rfl
  have hwhole : t.clock.wholeSeconds.nanosecond =
      t.clock.nanosecond / 1000000000 * 1000000000 := rfl
  obtain ⟨-, -, hsecond, hnano⟩ := t.clock.isClock
  rw [Parts.toDateTime?, Date.ofParts?_parts, Option.bind_some]
  dsimp only
  rcases Nat.lt_or_ge t.clock.nanosecond 1000000000 with hplain | hleap
  · have hzero : t.clock.nanosecond / 1000000000 = 0 := by omega
    rw [hzero] at hshown hwhole
    rw [hwhole] at hparts
    rw [hshown, if_neg (by omega)]
    exact (congrArg (Option.map (DateTime.mk t.date)) hparts)
  · -- the leap second is shown as the sixtieth
    have hone : t.clock.nanosecond / 1000000000 = 1 := by omega
    have hlast : t.clock.wholeSeconds.second = 59 := hnano.resolve_left (by omega) |>.1
    rw [hone] at hshown hwhole
    rw [hwhole, hlast] at hparts
    rw [hshown, if_pos (by omega)]
    exact (congrArg (Option.map (DateTime.mk t.date)) hparts)

/-- **A moment is read back without the fraction of its second.** -/
theorem readDateTime?_text (t : DateTime) : readDateTime? t.text = some t.wholeSeconds := by
  have hfirst : readWith? (hyphenDate ++ .blanks :: colonClock) t.text = some t.wholeSeconds := by
    rw [readWith?, readPieces?_text, Option.bind_some, toDateTime?_parts]
  rw [readDateTime?, patterns, List.findSome?_cons, hfirst]

end Calendar

end SheetQuery
