import SheetQuery.Value.Basic

/-!
# Result sets

What a statement yields: the names of its columns, and rows of cells under them.
-/

namespace SheetQuery

/-- The name of a column that has none of its own, from its position: `F1` for the first. -/
def positionName (index : Nat) : String :=
  "F" ++ toString (index + 1)

/-- Named columns and rows of cells. -/
structure ResultSet where
  columns : List String
  rows : List (List Value)

namespace ResultSet

/-- One value under a name. -/
def single (name : String) (value : Value) : ResultSet :=
  ⟨[name], [[value]]⟩

/-- The position of the first column of that name. -/
def position? (r : ResultSet) (name : String) : Option Nat :=
  r.columns.findIdx? (· == name)

/-- Every row has a cell for each column and no more. -/
def IsRectangular (r : ResultSet) : Prop :=
  ∀ row ∈ r.rows, row.length = r.columns.length

end ResultSet

end SheetQuery
