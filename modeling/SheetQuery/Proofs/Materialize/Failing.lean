import SheetQuery.Materialize
import SheetQuery.Proofs.Outcome

/-!
# How making items fails

What is made of rows that have come back, and what a selector makes of the items, fails only over a
value, an expression, a declaration or a column; or the rows are no rows but a computed value, or the
other way round. Nothing else is behind the rows: no message of the backend comes up there any more.
Items by themselves are refused for less: for a value, a declaration or a mapping. A row with a
header is the one kind of item that asks for names that are apart.

Main statements: `Materializer.failsBy_items` and `Expr.failsOverItems_evaluate`.
-/

namespace SheetQuery

open FailsBy

/-- The failure of making items, or of what is made of them. -/
inductive QueryError.IsOfItems : QueryError → Prop where
  | expression (fault : ExpressionFault) : IsOfItems (.unsupportedExpression fault)
  | strictMapping (fault : StrictFault) : IsOfItems (.strictMappingViolation fault)
  | conversion (value : String) (target : Target) (field : Option String) :
      IsOfItems (.conversion value target field)
  | schema (record : String) (fault : SchemaFault) : IsOfItems (.schema record fault)
  | column (column : String) (known : List String) : IsOfItems (.invalidColumnReference column known)
  | emptySequence : IsOfItems .emptySequence
  | rows (v : Value) : IsOfItems (.driver
      ("expected rows, the source returned the single value '" ++ v.display ++ "'"))
  | single (n : Nat) : IsOfItems (.driver
      ("expected a single value, the source returned " ++ toString n ++ " rows"))

/-- The step fails only like the making of items. -/
def FailsOverItems {α : Type} (step : Except QueryError α) : Prop :=
  FailsBy QueryError.IsOfItems step

/-- The failure of taking a row as an item: a mapping, a value or a declaration is at fault. -/
inductive QueryError.IsOfRows : QueryError → Prop where
  | strictMapping (fault : StrictFault) : IsOfRows (.strictMappingViolation fault)
  | conversion (value : String) (target : Target) (field : Option String) :
      IsOfRows (.conversion value target field)
  | schema (record : String) (fault : SchemaFault) : IsOfRows (.schema record fault)

/-- The step fails only like the taking of rows. -/
def FailsOverRows {α : Type} (step : Except QueryError α) : Prop :=
  FailsBy QueryError.IsOfRows step

variable {α : Type}

theorem QueryError.IsOfRows.isOfItems {e : QueryError} (h : e.IsOfRows) : e.IsOfItems := by
  cases h with
  | strictMapping fault => exact .strictMapping fault
  | conversion value target field => exact .conversion value target field
  | schema record fault => exact .schema record fault

theorem FailsOverRows.overItems {step : Except QueryError α} (h : FailsOverRows step) :
    FailsOverItems step :=
  h.mono fun _ => QueryError.IsOfRows.isOfItems

theorem failsOverItems_unsupported (fault : ExpressionFault) :
    FailsOverItems (unsupported fault : Except QueryError α) :=
  error (.expression fault)

theorem QueryError.IsOfRows.forField {e : QueryError} (h : e.IsOfRows) (field : String) :
    (e.forField field).IsOfRows := by
  cases h with
  | strictMapping fault => exact .strictMapping fault
  | conversion value target other => exact .conversion value target (some field)
  | schema record fault => exact .schema record fault

theorem FailsOverRows.forField {step : Except QueryError α} (h : FailsOverRows step)
    (field : String) : FailsOverRows (step.mapError (QueryError.forField field)) := by
  cases step with
  | ok a => exact ok a
  | error e => exact error ((h e rfl).forField field)

/-! ## Values -/

namespace Value

theorem failsOverRows_refuse (v : Value) (target : Target) :
    FailsOverRows (refuse v target : Except QueryError α) :=
  error (.conversion _ _ _)

theorem failsOverRows_toInteger (v : Value) : FailsOverRows v.toInteger := by
  unfold toInteger
  split
  · exact ok _
  · split
    · exact ok _
    · exact failsOverRows_refuse _ _
  · exact ok _
  · split
    · exact ok _
    · exact failsOverRows_refuse _ _
  · exact failsOverRows_refuse _ _

theorem failsOverRows_toFloat (v : Value) : FailsOverRows v.toFloat := by
  unfold toFloat
  split
  · exact ok _
  · exact ok _
  · exact ok _
  · split
    · exact ok _
    · exact failsOverRows_refuse _ _
  · exact failsOverRows_refuse _ _

theorem failsOverRows_toBool (v : Value) : FailsOverRows v.toBool := by
  unfold toBool
  split
  · exact ok _
  · exact ok _
  · exact ok _
  · split
    · exact ok _
    · exact failsOverRows_refuse _ _
  · exact failsOverRows_refuse _ _

theorem failsOverRows_toDateTime (v : Value) : FailsOverRows v.toDateTime := by
  unfold toDateTime
  split
  · exact ok _
  all_goals first
    | exact failsOverRows_refuse _ _
    | (split
       · exact ok _
       · exact failsOverRows_refuse _ _)

theorem failsOverRows_convert (kind : Kind) (v : Value) : FailsOverRows (v.convert kind) := by
  unfold convert
  split
  · exact ok _
  · split
    · exact ok _
    · cases kind with
      | text => exact ok _
      | integer => exact v.failsOverRows_toInteger.map _
      | float => exact v.failsOverRows_toFloat.map _
      | boolean => exact v.failsOverRows_toBool.map _
      | dateTime => exact v.failsOverRows_toDateTime.map _
      | any => exact ok _

theorem failsOverItems_operandFloat (v : Value) : FailsOverItems v.operandFloat := by
  unfold operandFloat
  split
  · exact ok _
  · exact (failsOverRows_refuse _ _).overItems
  · next e he => exact error (failsOverRows_convert _ _ _ he).isOfItems

theorem failsOverItems_arithmetic (op : Arithmetic) (a b : Value) :
    FailsOverItems (arithmetic op a b) := by
  unfold arithmetic
  split
  · exact ok _
  · exact ok _
  · unfold wordArithmetic
    split
    · exact ok _
    · exact failsOverItems_unsupported _
  · exact (failsOverItems_operandFloat _).bind fun _ =>
      (failsOverItems_operandFloat _).bind fun _ => ok _

theorem failsOverItems_binary (op : BinaryOp) (a b : Value) : FailsOverItems (binary op a b) := by
  unfold binary
  split
  · exact ok _
  · exact ok _
  · exact ok _
  · split
    · exact ok _
    · exact failsOverItems_arithmetic _ _ _
  · exact failsOverItems_arithmetic _ _ _

end Value

theorem BaseType.failsOverRows_read (t : BaseType) (v : Value) : FailsOverRows (t.read v) := by
  refine (Value.failsOverRows_convert t.kind v).bind fun w => ?_
  unfold narrow
  split
  · exact ok _
  · exact ok _
  · split
    · exact ok _
    · exact error (.conversion _ _ _)
  · exact ok _
  · exact ok _

theorem FieldType.failsOverRows_read (t : FieldType) (v : Value) : FailsOverRows (t.read v) := by
  unfold read
  split
  · refine (Value.failsOverRows_convert t.kind v).bind fun w => ?_
    cases w with
    | null => exact ok _
    | _ => exact t.base.failsOverRows_read _
  · exact t.base.failsOverRows_read v

/-! ## Selectors -/

theorem RecordType.failsOverRows_check (t : RecordType) : FailsOverRows t.check := by
  unfold check
  split
  · exact error (.schema _ _)
  · exact ok _

theorem Row.failsOverItems_get (r : Row) (column : String) : FailsOverItems (r.get column) := by
  unfold get
  split
  · exact ok _
  · exact error (.column _ _)

namespace Item

theorem failsOverItems_cellAt (cells : List Value) (index : Nat) :
    FailsOverItems (cellAt cells index) := by
  unfold cellAt
  split
  · exact ok _
  · exact failsOverItems_unsupported _

theorem failsOverItems_member (item : Item) (name : String) : FailsOverItems (item.member name) := by
  cases item with
  | row r => exact r.failsOverItems_get name
  | headerless cells => exact failsOverItems_unsupported _
  | record r =>
      refine r.type.failsOverRows_check.overItems.bind fun _ => ?_
      split
      · exact ok _
      · exact failsOverItems_unsupported _

theorem failsOverItems_column (item : Item) (c : ColumnRef) : FailsOverItems (item.column c) := by
  unfold column
  split
  · exact Row.failsOverItems_get _ _
  · exact failsOverItems_cellAt _ _
  · exact failsOverItems_cellAt _ _
  · exact failsOverItems_unsupported _
  · exact failsOverItems_unsupported _

end Item

theorem Bindings.failsOverItems_item (b : Bindings) (source : Nat) :
    FailsOverItems (b.item source) := by
  unfold item
  split
  · exact ok _
  · exact failsOverItems_unsupported _

namespace Expr

theorem failsOverItems_checkSource (id : Nat) : FailsOverItems (checkSource id) := by
  unfold checkSource
  split
  · exact ok _
  · exact failsOverItems_unsupported _

mutual

/-- What is no selector is refused like an expression. -/
theorem failsOverItems_checkSelector : ∀ e : Expr, FailsOverItems e.checkSelector
  | .source id => failsOverItems_checkSource id
  | .member id _ => failsOverItems_checkSource id
  | .column id _ => failsOverItems_checkSource id
  | .literal _ => ok _
  | .binary _ left right =>
      (failsOverItems_checkSelector left).bind fun _ => failsOverItems_checkSelector right
  | .not e => failsOverItems_checkSelector e
  | .test _ target none => failsOverItems_checkSelector target
  | .test _ target (some argument) =>
      (failsOverItems_checkSelector target).bind fun _ => failsOverItems_checkSelector argument
  | .apply _ e => failsOverItems_checkSelector e
  | .convert _ e => failsOverItems_checkSelector e
  | .record fields => failsOverItems_checkFields fields
  | .subquery => failsOverItems_unsupported _

theorem failsOverItems_checkFields : ∀ fields : List (String × Expr),
    FailsOverItems (checkFields fields)
  | [] => ok _
  | (_, e) :: rest =>
      (failsOverItems_checkSelector e).bind fun _ => failsOverItems_checkFields rest

end

mutual

/-- **Evaluating a selector fails like the making of items**, whatever it is bound to. -/
theorem failsOverItems_evaluate (b : Bindings) : ∀ e : Expr, FailsOverItems (e.evaluate b)
  | .source id => (b.failsOverItems_item id).map _
  | .member id name => (b.failsOverItems_item id).bind fun item => item.failsOverItems_member name
  | .column id c => (b.failsOverItems_item id).bind fun item => item.failsOverItems_column c
  | .literal _ => ok _
  | .binary op left right =>
      (failsOverItems_evaluate b left).bind fun l =>
        (failsOverItems_evaluate b right).bind fun r => Value.failsOverItems_binary op l r
  | .not e => (failsOverItems_evaluate b e).map _
  | .test _ target none => (failsOverItems_evaluate b target).map _
  | .test _ target (some argument) =>
      (failsOverItems_evaluate b target).bind fun _ =>
        (failsOverItems_evaluate b argument).bind fun _ => ok _
  | .apply _ e => (failsOverItems_evaluate b e).map _
  | .convert kind e =>
      (failsOverItems_evaluate b e).bind fun v => (Value.failsOverRows_convert kind v).overItems
  | .record fields => (failsOverItems_evaluateFields b fields).map _
  | .subquery => failsOverItems_unsupported _

theorem failsOverItems_evaluateFields (b : Bindings) : ∀ fields : List (String × Expr),
    FailsOverItems (evaluateFields b fields)
  | [] => ok _
  | (_, e) :: rest =>
      (failsOverItems_evaluate b e).bind fun _ =>
        (failsOverItems_evaluateFields b rest).bind fun _ => ok _

end

end Expr

theorem Projector.failsOverItems_ofExpr (e : Expr) : FailsOverItems (ofExpr e) := by
  unfold ofExpr
  split
  · exact ok _
  · next fault hfault => exact error (e.failsOverItems_checkSelector fault hfault)

/-! ## Items -/

namespace Materializer

variable (m : Materializer) (type : ItemType) (columns : List String) (rows : List (List Value))

theorem failsOverRows_stored (f : Field) (v : Value) : FailsOverRows (Record.stored f v) :=
  (f.type.failsOverRows_read v).forField f.name

theorem failsOverRows_fieldValue (f : Field) (raw : Value) :
    FailsOverRows (m.fieldValue f raw) := by
  unfold fieldValue
  dsimp only
  split
  · exact ((Value.failsOverRows_convert _ _).forField f.name).bind fun _ =>
      failsOverRows_stored f _
  · exact failsOverRows_stored f _

theorem failsOverRows_record (t : RecordType) (row : List Value) :
    FailsOverRows (m.record t columns row) := by
  refine (FailsBy.mapM (fun f => ?_) t.fields).map _
  unfold fieldInRow
  split
  · exact m.failsOverRows_fieldValue f _
  · exact ok _

theorem failsOverRows_records (t : RecordType) : FailsOverRows (m.records t columns rows) := by
  have hcheck : FailsOverRows (m.checkRecords t columns) := by
    refine t.failsOverRows_check.bind fun _ => ?_
    split
    · exact error (.strictMapping _)
    · exact ok _
  exact hcheck.bind fun _ => FailsBy.mapM (fun row => m.failsOverRows_record columns t row) rows

/-- **Items are made of the rows, or the making fails over one of them**; a row with a header is
refused besides for a name that two columns have. -/
theorem failsBy_items :
    FailsBy (fun e => e.IsOfRows ∨ type = .row ∧ ∃ name, firstRepeated? [] columns = some name ∧
        e = .configuration (.duplicateColumn name))
      (m.items type columns rows) := by
  cases type with
  | row =>
      refine (FailsBy.map ?_ _).map _
      unfold checkColumns
      split
      · next name hname => exact error (Or.inr ⟨rfl, name, hname, rfl⟩)
      · exact ok _
  | headerless => exact ok _
  | record t => exact ((m.failsOverRows_records columns rows t).mono fun _ => Or.inl).map _

/-- A result is refused for what its items are, as a computed value it is not refused at all. -/
theorem failsBy_materialize :
    FailsBy (fun e => e.IsOfItems ∨ type = .row ∧ ∃ name, firstRepeated? [] columns = some name ∧
        e = .configuration (.duplicateColumn name))
      (m.materialize type columns rows) := by
  unfold materialize
  split
  · exact ok _
  · refine ((m.failsBy_items type columns rows).mono fun e he => ?_).map _
    exact he.imp_left QueryError.IsOfRows.isOfItems

theorem failsOverItems_distinctValues (selector : Expr) :
    FailsOverItems (m.distinctValues type selector rows) := by
  unfold distinctValues
  split
  · refine (Projector.failsOverItems_ofExpr selector).bind fun projector => ?_
    refine FailsBy.bind ?_ fun records =>
      FailsBy.mapM (fun r => Expr.failsOverItems_evaluate _ _) records
    refine (RecordType.failsOverRows_check _).overItems.bind fun _ => ?_
    split
    · exact failsOverItems_unsupported _
    · exact FailsBy.mapM (fun raw => (m.failsOverRows_fieldValue _ raw).overItems.map _) _
  · exact ok _

end Materializer

theorem Materialized.failsOverItems_intoItems (made : Materialized) :
    FailsOverItems made.intoItems := by
  cases made with
  | items found => exact ok _
  | scalar v => exact error (.rows v)

theorem Materialized.failsOverItems_intoScalar (made : Materialized) :
    FailsOverItems made.intoScalar := by
  cases made with
  | items found => exact error (.single _)
  | scalar v => exact ok _

end SheetQuery
