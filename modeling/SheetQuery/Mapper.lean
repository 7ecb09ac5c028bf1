import SheetQuery.Dictionary
import SheetQuery.Error

/-!
# Mappings from properties to columns

A mapper says which column a property is read from, and through which transformation. A property
without a mapping is read from the column of its own name. A column is the explicit target of one
property at most; a mapping may be replaced, a transformation may not.
-/

namespace SheetQuery

/-- Turns the text of a cell into the value of a field. -/
abbrev Transform := String → Value

/-- The explicit mappings and the transformations, each by property. -/
structure Mapper where
  columns : Dictionary String
  transforms : Dictionary Transform

namespace Mapper

/-- No mappings and no transformations. -/
def empty : Mapper :=
  ⟨[], []⟩

instance : Inhabited Mapper := ⟨empty⟩

/-- The column that a property is read from. -/
def map (m : Mapper) (property : String) : String :=
  (m.columns.get? property).getD property

/-- The property that is explicitly mapped to a column. -/
def owner? (m : Mapper) (column : String) : Option String :=
  (List.find? (fun entry => entry.2 == column) m.columns).map Prod.fst

/-- The property has an explicit mapping. -/
def isMapped (m : Mapper) (property : String) : Bool :=
  m.columns.has property

/-- Some property is explicitly mapped to the column. -/
def isColumnMapped (m : Mapper) (column : String) : Bool :=
  (m.owner? column).isSome

/-- The transformation of a property. -/
def transform? (m : Mapper) (property : String) : Option Transform :=
  m.transforms.get? property

/-- Maps a property to a column, in place of its earlier mapping; a column of another property is
refused. -/
def register (m : Mapper) (property column : String) : Except QueryError Mapper :=
  match m.owner? column with
  | some owner =>
    if owner = property then .ok { m with columns := m.columns.insert property column }
    else .error (.configuration (.columnTaken column owner))
  | none => .ok { m with columns := m.columns.insert property column }

/-- Attaches a transformation to a property that has none. -/
def registerTransform (m : Mapper) (property : String) (transform : Transform) :
    Except QueryError Mapper :=
  if m.transforms.has property then .error (.configuration (.transformTaken property))
  else .ok { m with transforms := m.transforms.insert property transform }

/-- Maps properties to columns, one after the other, up to the first refusal. -/
def registerAll (m : Mapper) (mappings : List (String × String)) : Except QueryError Mapper :=
  mappings.foldlM (fun m mapping => register m mapping.1 mapping.2) m

/-- Attaches transformations, one after the other, up to the first refusal. -/
def registerTransforms (m : Mapper) (transforms : List (String × Transform)) :
    Except QueryError Mapper :=
  transforms.foldlM (fun m entry => registerTransform m entry.1 entry.2) m

/-- Maps a property to a column where neither has a mapping yet. -/
def mergeHint (m : Mapper) (hint : String × String) : Mapper :=
  if m.isMapped hint.1 || m.isColumnMapped hint.2 then m
  else { m with columns := m.columns.insert hint.1 hint.2 }

/-- Merges the hints of a record type, one after the other. Existing mappings win. -/
def mergeHints (m : Mapper) (hints : List (String × String)) : Mapper :=
  hints.foldl mergeHint m

/-- The properties that have a transformation, in order. -/
def transformedProperties (m : Mapper) : List String :=
  m.transforms.keys

/-- The mappings, each in brackets with a space after it. -/
def display (m : Mapper) : String :=
  String.join (m.columns.map fun (property, column) =>
    "[" ++ property ++ " = '" ++ column ++ "'] ")

end Mapper

end SheetQuery
