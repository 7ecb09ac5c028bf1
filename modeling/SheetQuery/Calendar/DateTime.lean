import SheetQuery.Calendar.Date
import SheetQuery.Decimal.Whole

/-!
# Times of day and moments

A clock time counts hours, minutes, seconds and nanoseconds. The sixtieth second of a minute may be
a leap second: it is written 60, and its nanoseconds run on from one billion. A moment is a date
with a clock time and no time zone.
-/

namespace SheetQuery.Calendar

open SheetQuery.Decimal

/-- The parts name a time of day; nanoseconds from one billion on belong to a leap second. -/
def IsClock (hour minute second nanosecond : Nat) : Prop :=
  hour < 24 ∧ minute < 60 ∧ second < 60 ∧
    (nanosecond < 1000000000 ∨ (second = 59 ∧ nanosecond < 2000000000))

instance (hour minute second nanosecond : Nat) :
    Decidable (IsClock hour minute second nanosecond) :=
  inferInstanceAs (Decidable (_ ∧ _))

/-- A time of day. -/
structure Clock where
  hour : Nat
  minute : Nat
  second : Nat
  nanosecond : Nat
  isClock : IsClock hour minute second nanosecond
  deriving DecidableEq

/-- The clock time with these parts, when there is one. -/
def Clock.ofParts? (hour minute second nanosecond : Nat) : Option Clock :=
  if h : IsClock hour minute second nanosecond then
    some ⟨hour, minute, second, nanosecond, h⟩
  else none

/-- The start of a day. -/
def Clock.midnight : Clock :=
  ⟨0, 0, 0, 0, by decide⟩

instance : Inhabited Clock := ⟨Clock.midnight⟩

/-- Clock times in order; a leap second comes after the second that it prolongs. -/
def Clock.compare (a b : Clock) : Ordering :=
  (Ord.compare a.hour b.hour).then ((Ord.compare a.minute b.minute).then
    ((Ord.compare a.second b.second).then (Ord.compare a.nanosecond b.nanosecond)))

@[simp] theorem Clock.ofParts?_parts (c : Clock) :
    Clock.ofParts? c.hour c.minute c.second c.nanosecond = some c := by
  simp [Clock.ofParts?, c.isClock]

/-- A date with a time of day. -/
structure DateTime where
  date : Date
  clock : Clock
  deriving DecidableEq, Inhabited

/-- The start of a date. -/
def Date.midnight (d : Date) : DateTime :=
  ⟨d, Clock.midnight⟩

/-- The first moment of 1970. -/
def DateTime.epoch : DateTime :=
  Date.epoch.midnight

/-- Moments in order of time. -/
def DateTime.compare (a b : DateTime) : Ordering :=
  (a.date.compare b.date).then (a.clock.compare b.clock)

/-! ## Text -/

/-- Four digits for the years 0 to 9999, otherwise a sign and at least four digits. -/
def yearText (year : Int) : List Char :=
  if 0 ≤ year ∧ year ≤ 9999 then padded 4 year.toNat
  else (if year < 0 then '-' else '+') :: padded 4 year.natAbs

/-- Year, month and day with hyphens between them. -/
def Date.text (d : Date) : List Char :=
  yearText d.year ++ '-' :: padded 2 d.month ++ '-' :: padded 2 d.day

/-- The second as a clock shows it: 60 in a leap second. -/
def Clock.shownSecond (c : Clock) : Nat :=
  c.second + c.nanosecond / 1000000000

/-- Hour, minute and second with colons between them. -/
def Clock.text (c : Clock) : List Char :=
  padded 2 c.hour ++ ':' :: padded 2 c.minute ++ ':' :: padded 2 c.shownSecond

/-- The fraction of the second in three, six or nine digits, whichever first shows all of it. -/
def Clock.fractionText (c : Clock) : List Char :=
  let nanos := c.nanosecond % 1000000000
  if nanos = 0 then []
  else if nanos % 1000000 = 0 then '.' :: padded 3 (nanos / 1000000)
  else if nanos % 1000 = 0 then '.' :: padded 6 (nanos / 1000)
  else '.' :: padded 9 nanos

/-- Date and clock with a space between them; a fraction of a second is not shown. -/
def DateTime.text (t : DateTime) : List Char :=
  t.date.text ++ ' ' :: t.clock.text

/-- Date and clock with the letter T between them, the fraction included. -/
def DateTime.interchangeText (t : DateTime) : List Char :=
  t.date.text ++ 'T' :: t.clock.text ++ t.clock.fractionText

end SheetQuery.Calendar
