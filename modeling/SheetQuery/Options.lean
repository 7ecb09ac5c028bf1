import SheetQuery.Text.Blank

/-!
# Options of a query

What a session passes on to every query it creates: how strictly fields and columns must match,
which blanks are cut off texts, whether a connection is kept, and whether the source is opened for
reading only.
-/

namespace SheetQuery

/-- Which side of a typed query needs a counterpart on the other. -/
inductive StrictMapping where
  | none
  | fields
  | columns
  | both
  deriving DecidableEq, Repr

namespace StrictMapping

/-- Every declared field needs a column. -/
def checksFields : StrictMapping → Bool
  | .fields | .both => true
  | _ => false

/-- Every returned column needs a field. -/
def checksColumns : StrictMapping → Bool
  | .columns | .both => true
  | _ => false

/-- The word for the mode in listings of options. -/
def name : StrictMapping → String
  | .none => "None"
  | .fields => "ClassStrict"
  | .columns => "WorksheetStrict"
  | .both => "Both"

/-- The word for the mode in configuration files. -/
def key : StrictMapping → String
  | .none => "none"
  | .fields => "class_strict"
  | .columns => "worksheet_strict"
  | .both => "both"

/-- All modes. -/
def values : List StrictMapping :=
  [.none, .fields, .columns, .both]

end StrictMapping

/-- The blanks that are cut off texts. -/
inductive TrimPolicy where
  | none
  | leading
  | trailing
  | both
  deriving DecidableEq, Repr

namespace TrimPolicy

/-- The text under the policy. -/
def apply : TrimPolicy → List Char → List Char
  | .none => id
  | .leading => Text.trimStart
  | .trailing => Text.trimEnd
  | .both => Text.trim

/-- The word for the policy in listings of options. -/
def name : TrimPolicy → String
  | .none => "None"
  | .leading => "Start"
  | .trailing => "End"
  | .both => "Both"

/-- The word for the policy in configuration files. -/
def key : TrimPolicy → String
  | .none => "none"
  | .leading => "start"
  | .trailing => "end"
  | .both => "both"

/-- All policies. -/
def values : List TrimPolicy :=
  [.none, .leading, .trailing, .both]

end TrimPolicy

/-- The options of a query. -/
structure Options where
  strictMapping : StrictMapping
  trim : TrimPolicy
  persistent : Bool
  readOnly : Bool
  deriving DecidableEq, Repr

namespace Options

/-- No checks, no trimming, a connection for each use, open for writing. -/
def standard : Options :=
  ⟨.none, .none, false, false⟩

instance : Inhabited Options := ⟨standard⟩

/-- One line that lists all options. -/
def display (o : Options) : String :=
  "StrictMapping: " ++ o.strictMapping.name ++
    ", UsePersistentConnection: " ++ toString o.persistent ++
    ", TrimSpaces: " ++ o.trim.name ++ ", ReadOnly: " ++ toString o.readOnly

end Options

end SheetQuery
