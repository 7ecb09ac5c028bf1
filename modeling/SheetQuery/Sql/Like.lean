import SheetQuery.Text.Casing
import SheetQuery.Text.Search

/-!
# Text patterns

A pattern is a text in which each percent sign stands for any text, the empty one included. Letters
match in any case. There is no way to ask for a percent sign itself.
-/

namespace SheetQuery.Sql

/-- The sign that stands for any text. -/
def wildcard : Char :=
  '%'

/-- The text has the pieces in order without overlap, each as far left as it goes, and ends with the
last one. -/
def endsThrough : List (List Char) → List Char → Bool
  | [], _ => true
  | [last], s => last.isSuffixOf s
  | piece :: pieces, s =>
    match Text.afterFirst? piece s with
    | some rest => endsThrough pieces rest
    | none => false

/-- The text fits the pieces of a pattern; a pattern without a wildcard is one piece. -/
def fitsPieces (s : List Char) : List (List Char) → Bool
  | [] => false
  | [piece] => s == piece
  | first :: pieces =>
    match Text.afterPrefix? first s with
    | some rest => endsThrough pieces rest
    | none => false

/-- The text fits the pattern. -/
def fits (s pattern : List Char) : Bool :=
  fitsPieces (Text.lower s) (Text.splitOn wildcard (Text.lower pattern))

end SheetQuery.Sql
