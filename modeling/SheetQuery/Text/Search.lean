/-!
# Finding and splitting

Occurrences of one text inside another, counted from the left, and the pieces between separators.
-/

namespace SheetQuery.Text

/-- What follows the leftmost occurrence of `part`. -/
def afterFirst? (part : List Char) : List Char → Option (List Char)
  | [] => if part.isEmpty then some [] else none
  | c :: rest =>
    if part.isPrefixOf (c :: rest) then some ((c :: rest).drop part.length)
    else afterFirst? part rest

/-- The text holds `part` somewhere. -/
def holds (s part : List Char) : Bool :=
  (afterFirst? part s).isSome

/-- The rest of a text that starts with `part`. -/
def afterPrefix? (part s : List Char) : Option (List Char) :=
  if part.isPrefixOf s then some (s.drop part.length) else none

/-- The pieces between the separators, at least one. -/
def splitOn (separator : Char) : List Char → List (List Char)
  | [] => [[]]
  | c :: rest =>
    match splitOn separator rest with
    | [] => [[c]]
    | piece :: pieces => if c = separator then [] :: piece :: pieces else (c :: piece) :: pieces

/-- The texts before and after the first separator. -/
def splitAtFirst? (separator : Char) (s : List Char) : Option (List Char × List Char) :=
  match s.dropWhile (· != separator) with
  | [] => none
  | _ :: after => some (s.takeWhile (· != separator), after)

/-- The texts before and after the last separator. -/
def splitAtLast? (separator : Char) (s : List Char) : Option (List Char × List Char) :=
  (splitAtFirst? separator s.reverse).map fun (after, before) => (before.reverse, after.reverse)

end SheetQuery.Text
