import SheetQuery.Calendar.DateTime
import SheetQuery.Text.Blank
import SheetQuery.Text.Casing

/-!
# Reading moments from text

A pattern is a list of pieces, each of which reads something off the front of a text. The patterns
are tried in a fixed order, moments before dates, and the first that reads the whole text decides. A
date alone means its midnight.
-/

namespace SheetQuery.Calendar

open SheetQuery.Decimal

/-- What a pattern reads at one place. -/
inductive Piece where
  | year
  | month
  | monthName
  | day
  | hour
  | hourOfHalf
  | halfOfDay
  | minute
  | second
  | fraction
  | blanks
  | mark (c : Char)
  deriving DecidableEq, Repr

/-- What has been read so far; a clock part that no piece reads stays zero. -/
structure Parts where
  year : Int
  month : Nat
  day : Nat
  hour : Nat
  afternoon : Bool
  minute : Nat
  second : Nat
  nanosecond : Nat

/-- Nothing read. -/
def Parts.none : Parts :=
  ⟨0, 0, 0, 0, false, 0, 0, 0⟩

/-- The moment that the parts name; second 60 is the leap second. -/
def Parts.toDateTime? (p : Parts) : Option DateTime :=
  let hour := p.hour + if p.afternoon then 12 else 0
  (Date.ofParts? p.year p.month p.day).bind fun date =>
    (if p.second = 60 then Clock.ofParts? hour p.minute 59 (p.nanosecond + 1000000000)
      else Clock.ofParts? hour p.minute p.second p.nanosecond).map fun clock => ⟨date, clock⟩

/-- One to `width` digits off the front, after any blanks. -/
def takeNumber? (width : Nat) (s : List Char) : Option (Nat × List Char) :=
  let s := Text.trimStart s
  let ds := (s.take width).takeWhile Char.isDigit
  if ds.isEmpty then none else some (Nat.ofDigitChars 10 ds 0, s.drop ds.length)

/-- A year: up to four digits, or a sign and any number of digits. -/
def takeYear? (s : List Char) : Option (Int × List Char) :=
  let signedYear (sign : Int) (rest : List Char) :=
    let ds := rest.takeWhile Char.isDigit
    if ds.isEmpty then Option.none
    else some (sign * (Nat.ofDigitChars 10 ds 0 : Int), rest.dropWhile Char.isDigit)
  match Text.trimStart s with
  | '-' :: rest => signedYear (-1) rest
  | '+' :: rest => signedYear 1 rest
  | s => (takeNumber? 4 s).map fun (n, rest) => ((n : Int), rest)

/-- The three-letter names of the months, in order. -/
def monthNames : List (List Char) :=
  [['j', 'a', 'n'], ['f', 'e', 'b'], ['m', 'a', 'r'], ['a', 'p', 'r'], ['m', 'a', 'y'],
   ['j', 'u', 'n'], ['j', 'u', 'l'], ['a', 'u', 'g'], ['s', 'e', 'p'], ['o', 'c', 't'],
   ['n', 'o', 'v'], ['d', 'e', 'c']]

/-- The month whose name stands at the front, in letters of any case. -/
def takeMonthName? (s : List Char) : Option (Nat × List Char) :=
  (monthNames.findIdx? (· == Text.lowerAscii (s.take 3))).map fun i => (i + 1, s.drop 3)

/-- The mark of the morning or the afternoon at the front, in letters of any case. -/
def takeHalf? (s : List Char) : Option (Bool × List Char) :=
  let mark := Text.lowerAscii (s.take 2)
  if mark = ['a', 'm'] then some (false, s.drop 2)
  else if mark = ['p', 'm'] then some (true, s.drop 2)
  else none

/-- The fraction of a second in nanoseconds: its first nine digits count, the others are passed
over. A text that does not start with a point has no fraction. -/
def takeFraction? (s : List Char) : Option (Nat × List Char) :=
  match s with
  | '.' :: rest =>
    let ds := rest.takeWhile Char.isDigit
    if ds.isEmpty then Option.none
    else
      let kept := ds.take 9
      some (Nat.ofDigitChars 10 kept 0 * Nat.pow 10 (9 - kept.length), rest.dropWhile Char.isDigit)
  | s => some (0, s)

/-- Reads one piece off the front of the text. -/
def Piece.take? (piece : Piece) (p : Parts) (s : List Char) : Option (Parts × List Char) :=
  match piece with
  | .year => (takeYear? s).map fun (n, rest) => ({ p with year := n }, rest)
  | .month => (takeNumber? 2 s).map fun (n, rest) => ({ p with month := n }, rest)
  | .monthName => (takeMonthName? s).map fun (n, rest) => ({ p with month := n }, rest)
  | .day => (takeNumber? 2 s).map fun (n, rest) => ({ p with day := n }, rest)
  | .hour => (takeNumber? 2 s).map fun (n, rest) => ({ p with hour := n }, rest)
  | .hourOfHalf => (takeNumber? 2 s).bind fun (n, rest) =>
      if 1 ≤ n ∧ n ≤ 12 then some ({ p with hour := n % 12 }, rest) else none
  | .halfOfDay => (takeHalf? s).map fun (pm, rest) => ({ p with afternoon := pm }, rest)
  | .minute => (takeNumber? 2 s).map fun (n, rest) => ({ p with minute := n }, rest)
  | .second => (takeNumber? 2 s).map fun (n, rest) => ({ p with second := n }, rest)
  | .fraction => (takeFraction? s).map fun (n, rest) => ({ p with nanosecond := n }, rest)
  | .blanks => some (p, Text.trimStart s)
  | .mark c => match s with
    | first :: rest => if first = c then some (p, rest) else none
    | [] => none

/-- Reads the pieces one after the other; the text must end with the last. -/
def readPieces? : List Piece → Parts → List Char → Option Parts
  | [], p, s => if s.isEmpty then some p else none
  | piece :: pieces, p, s => (piece.take? p s).bind fun (p, rest) => readPieces? pieces p rest

/-- Year, month and day with hyphens. -/
def hyphenDate : List Piece :=
  [.year, .mark '-', .month, .mark '-', .day]

/-- Month, day and year with slashes. -/
def slashDate : List Piece :=
  [.month, .mark '/', .day, .mark '/', .year]

/-- Hour, minute and second with colons. -/
def colonClock : List Piece :=
  [.hour, .mark ':', .minute, .mark ':', .second]

/-- The same on a clock of twelve hours, with the half of the day after it. -/
def halfClock : List Piece :=
  [.hourOfHalf, .mark ':', .minute, .mark ':', .second, .blanks, .halfOfDay]

/-- The patterns that a text is read with, in the order of the attempts. -/
def patterns : List (List Piece) :=
  [hyphenDate ++ .blanks :: colonClock,
   hyphenDate ++ .mark 'T' :: colonClock,
   hyphenDate ++ .blanks :: colonClock ++ [.fraction],
   hyphenDate ++ .mark 'T' :: colonClock ++ [.fraction],
   slashDate ++ .blanks :: colonClock,
   slashDate ++ .blanks :: halfClock,
   hyphenDate,
   slashDate,
   [.day, .mark '-', .monthName, .mark '-', .year]]

/-- The moment that a text names under one pattern. -/
def readWith? (pattern : List Piece) (s : List Char) : Option DateTime :=
  (readPieces? pattern Parts.none s).bind Parts.toDateTime?

/-- The moment that a text names. -/
def readDateTime? (s : List Char) : Option DateTime :=
  patterns.findSome? (readWith? · s)

end SheetQuery.Calendar
