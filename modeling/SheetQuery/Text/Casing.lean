import SheetQuery.Text.LetterCase

/-!
# Changing the case of a text

Full case mapping: a letter may grow (`ß` becomes `SS`), the dotted capital I becomes two
characters, and a capital sigma becomes the final small sigma where a word ends.
-/

namespace SheetQuery.Text

/-- The counterpart of `c` that the first matching run gives. -/
def caseCounterpart (runs : List CaseRun) (c : Char) : Char :=
  match runs.findSome? (CaseRun.offset? · c) with
  | some offset => Char.ofNat (c.toNat + offset).toNat
  | none => c

/-- The small form of one character, out of context. -/
def lowerChar (c : Char) : List Char :=
  if c.toNat < 0x80 then [c.toLower]
  else if c.toNat = 0x130 then ['i', Char.ofNat 0x307]
  else [caseCounterpart capitals c]

/-- The capital form of one character. -/
def upperChar (c : Char) : List Char :=
  if c.toNat < 0x80 then [c.toUpper]
  else match longCapitals.find? (·.1 == c.toNat) with
    | some (_, expansion) => expansion.map Char.ofNat
    | none => [caseCounterpart smalls c]

/-- Whether the first character that casing does not ignore is a cased letter. -/
def reachesCased (s : List Char) : Bool :=
  match s.dropWhile caseIgnorable.has with
  | [] => false
  | c :: _ => cased.has c

/-- Small forms from left to right; `before` holds the characters already passed, nearest first.
A capital sigma that follows a letter and precedes none takes its final form. -/
def lowerAfter (before : List Char) : List Char → List Char
  | [] => []
  | c :: rest =>
    let small :=
      if c.toNat = 0x3A3 then
        [Char.ofNat (if reachesCased before && !reachesCased rest then 0x3C2 else 0x3C3)]
      else lowerChar c
    small ++ lowerAfter (c :: before) rest

/-- The text in small letters. -/
def lower (s : List Char) : List Char :=
  lowerAfter [] s

/-- The text in capital letters. -/
def upper (s : List Char) : List Char :=
  s.flatMap upperChar

/-- ASCII letters in small form, every other character as it is. -/
def lowerAscii (s : List Char) : List Char :=
  s.map Char.toLower

/-- ASCII letters in capital form, every other character as it is. -/
def upperAscii (s : List Char) : List Char :=
  s.map Char.toUpper

/-- Equality of texts up to the case of ASCII letters. -/
def sameIgnoringCase (s t : List Char) : Bool :=
  lowerAscii s == lowerAscii t

end SheetQuery.Text
