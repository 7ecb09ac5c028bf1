import SheetQuery.Calendar.DateTime
import SheetQuery.Decimal.Binary64

/-!
# Serial dates

Spreadsheets count days from the 30th of December 1899; the fraction is the time of day, to the
nearest millisecond.
-/

namespace SheetQuery.Calendar

/-- The day with the serial number zero. -/
def serialOrigin : Date :=
  ⟨1899, 12, 30, by decide⟩

/-- The clock time that many milliseconds into a day. -/
def Clock.ofMilliseconds? (ms : Nat) : Option Clock :=
  Clock.ofParts? (ms / 3600000) (ms / 60000 % 60) (ms / 1000 % 60) (ms % 1000 * 1000000)

/-- The moment that many milliseconds after the origin. -/
def ofSerialMilliseconds? (ms : Int) : Option DateTime :=
  (Date.ofDayNumber? (serialOrigin.dayNumber + ms / 86400000)).bind fun date =>
    (Clock.ofMilliseconds? (ms % 86400000).toNat).map fun clock => ⟨date, clock⟩

/-- The moment with a serial number, when the number is finite and the moment in range. -/
def ofSerial? (serial : Float) : Option DateTime :=
  if serial.isFinite then
    (Decimal.roundAway? (serial * 86400000.0)).bind ofSerialMilliseconds?
  else none

end SheetQuery.Calendar
