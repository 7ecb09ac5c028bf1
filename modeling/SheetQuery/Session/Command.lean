import SheetQuery.Session.Basic

/-!
# Commands to a session

Everything that can be done with a session, as one type, so that a run of a session is a list of
commands. A command changes the settings, looks at the tables, or makes a query and finishes it in
one of the ways there are. Leaving the settings aside, it acts on the line to the backend.
-/

namespace SheetQuery

/-- A way to finish a query. Only the last three run no statement: one looks up the name behind a
worksheet's position, the other two leave the backend alone. -/
inductive Ending where
  | items
  | firstItem
  | firstItem?
  | lastItem?
  | values
  | valuesOf (type : FieldType)
  | firstValue
  | firstValue?
  | lastValue?
  | count
  | longCount
  | aggregate (function : Sql.Aggregate)
  | statement
  | clauses
  | unrun

/-- A command to a session. -/
inductive Command where
  | addMapping (property column : String)
  | addMappingWithTransform (property column : String) (transform : Transform)
  | addTransformation (property : String) (transform : Transform)
  | setFile (file : String)
  | setStrictMapping (mode : StrictMapping)
  | setTrim (policy : TrimPolicy)
  | setPersistent (enabled : Bool)
  | setReadOnly (enabled : Bool)
  | close
  | worksheets
  | columnNames (table : Table)
  | namedRanges (worksheet : Option String)
  | query (root : TableIdentity) (type : ItemType) (model : Model) (ending : Ending)

/-- What a command answers. -/
inductive Answer where
  | done
  | names (names : List String)
  | items (items : List Item)
  | item (item : Option Item)
  | values (values : List Value)
  | value (value : Option Value)
  | count (n : Int)
  | computed (value : Value)
  | statement (statement : Rendered)
  | clauses (clauses : Clauses)
  | query (query : Query)

variable {σ : Type} [Backend σ]

/-- The query finished in one of the ways there are. -/
def Query.finish (q : Query) : Ending → Action σ Answer
  | .items => Answer.items <$> q.items
  | .firstItem => (Answer.item ∘ some) <$> q.firstItem
  | .firstItem? => Answer.item <$> q.firstItem?
  | .lastItem? => Answer.item <$> q.lastItem?
  | .values => Answer.values <$> q.values
  | .valuesOf type => Answer.values <$> q.valuesOf type
  | .firstValue => (Answer.value ∘ some) <$> q.firstValue
  | .firstValue? => Answer.value <$> q.firstValue?
  | .lastValue? => Answer.value <$> q.lastValue?
  | .count => (fun n : Nat => Answer.count n) <$> q.count
  | .longCount => (fun n : Int64 => Answer.count n.toInt) <$> q.longCount
  | .aggregate function => Answer.computed <$> q.aggregate function
  | .statement => Answer.statement <$> q.statement
  | .clauses => Action.ofExcept (q.clauses.map Answer.clauses)
  | .unrun => pure (.query q)

namespace Session

/-- A change of settings that has no use for the line. -/
def settled (change : Except QueryError Unit × Session) (line : Line σ) :
    Except QueryError Answer × Session × Line σ :=
  (change.1.map fun _ => .done, change.2, line)

/-- An action that leaves the settings alone. -/
def acting (s : Session) (action : Action σ Answer) (line : Line σ) :
    Except QueryError Answer × Session × Line σ :=
  let (result, line) := action line
  (result, s, line)

/-- The query for a root, composed like the model and finished. Its shape is that of its items. -/
def runQuery (s : Session) (root : TableIdentity) (type : ItemType) (model : Model)
    (ending : Ending) : Action σ Answer := do
  let q ← Action.ofExcept (s.query root type)
  ({ q with model := { model with shape := q.model.shape } } : Query).finish ending

/-- Carries out a command. A change of file and the end of keeping connections both close the
connection that is kept. -/
def perform (s : Session) (command : Command) (line : Line σ) :
    Except QueryError Answer × Session × Line σ :=
  match command with
  | .addMapping property column => settled (s.addMapping property column) line
  | .addMappingWithTransform property column transform =>
    settled (s.addMappingWithTransform property column transform) line
  | .addTransformation property transform => settled (s.addTransformation property transform) line
  | .setFile file => (.ok .done, s.setFile file, line.closeKept)
  | .setStrictMapping mode => (.ok .done, s.setStrictMapping mode, line)
  | .setTrim policy => (.ok .done, s.setTrim policy, line)
  | .setPersistent true => (.ok .done, s.setPersistent true, line)
  | .setPersistent false => (.ok .done, s.setPersistent false, line.closeKept)
  | .setReadOnly enabled => (.ok .done, s.setReadOnly enabled, line)
  | .close => (.ok .done, s, line.closeKept)
  | .worksheets => s.acting (Answer.names <$> s.worksheets) line
  | .columnNames table => s.acting (Answer.names <$> s.columnNames table) line
  | .namedRanges worksheet => s.acting (Answer.names <$> s.namedRanges worksheet) line
  | .query root type model ending => s.acting (s.runQuery root type model ending) line

end Session

end SheetQuery
