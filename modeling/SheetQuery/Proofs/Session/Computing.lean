import SheetQuery.Proofs.Materialize.Cells
import SheetQuery.Proofs.Materialize.Failing
import SheetQuery.Proofs.Session.Arranging
import SheetQuery.Proofs.Session.Covering
import SheetQuery.Proofs.Session.Filtering

/-!
# Computed values and rows

What has come back is told to be one computed value by its columns, not by the statement: by a lone
column under the name of computed values. Every statement that computes a value comes back like
that. So do, though they compute nothing, whole rows of a table that has this one column, and the
different values of a column of this name; they are then a value and no items. Any other statement
makes an item of each row that has come back, or fails over what is in the rows, but not because
they were no rows.

Main statement: `Query.scalar_iff_of_fetch`. A table of this one column is `Query.scalar_of_lone`.
-/

namespace SheetQuery

open Sql

/-! ## Statements -/

/-- What is selected comes back as a lone column under the name of computed values. -/
def Sql.Selection.ComesAlone (selection : Selection) (columns : List String) : Prop :=
  selection.isScalar = true ∨ selection.isWholeRow = true ∧ columns = [computedColumn] ∨
    selection = .distinct computedColumn

theorem Sql.Statement.columns_eq_iff {t r : ResultSet} {rows : List (List Value)}
    {selection : Selection} (h : select t rows selection = .ok r) :
    r.columns = [computedColumn] ↔ selection.ComesAlone t.columns := by
  unfold Selection.ComesAlone
  cases selection with
  | all =>
      cases h
      simp [Selection.isScalar, Selection.isWholeRow]
  | top n =>
      cases h
      simp [Selection.isScalar, Selection.isWholeRow]
  | count =>
      cases h
      simp [Selection.isScalar, ResultSet.single]
  | distinct column =>
      obtain ⟨i, -, h⟩ := bind_eq_ok_iff.mp h
      cases h
      simp [Selection.isScalar, Selection.isWholeRow]
  | aggregate function column =>
      obtain ⟨i, -, h⟩ := bind_eq_ok_iff.mp h
      obtain ⟨value, -, h⟩ := bind_eq_ok_iff.mp h
      cases h
      simp [Selection.isScalar, ResultSet.single]

/-! ## Results -/

variable {m : Materializer} {type : ItemType} {columns : List String} {rows : List (List Value)}

/-- A result is a value exactly where its columns say so. -/
theorem Materializer.exists_scalar_iff :
    (∃ v, m.materialize type columns rows = .ok (.scalar v)) ↔ columns = [m.scalarColumn] := by
  constructor
  · rintro ⟨v, hv⟩
    by_contra hother
    rw [materialize_not_alone hother] at hv
    obtain ⟨found, -, hfound⟩ := map_eq_ok_iff.mp hv
    cases hfound
  · exact fun h => ⟨_, materialize_alone h⟩

namespace Query

variable {q : Query} {line : Line Engine} {f : Fetched}

/-- The query runs this statement, as it is read, over this table. -/
structure Runs (q : Query) (w : Workbook) (f : Fetched) (s : Statement) (t : ResultSet) : Prop where
  read : ∃ c, q.clauses = .ok c ∧
    Statement.read? (c.render f.table).sql.toList (c.render f.table).params = .ok s
  table : w.table s.table q.source.hasHeader = .ok t
  evaluate : s.evaluate t = .ok f.result

/-- What is fetched is the answer to one statement, over one table. -/
theorem exists_runs (h : (q.fetch line).1 = .ok f) : ∃ s t, q.Runs line.backend.workbook f s t := by
  obtain ⟨-, c, hc, hbrings⟩ := fetch_ok_iff.mp h
  obtain ⟨s, hs, hanswer⟩ := bind_eq_ok_iff.mp hbrings.answer
  obtain ⟨t, ht, hevaluate⟩ := bind_eq_ok_iff.mp hanswer
  exact ⟨s, t, ⟨c, hc, hs⟩, ht, hevaluate⟩

/-- A selection whose name can be written is read back as it is. -/
theorem Runs.selection_eq {w : Workbook} {s : Statement} {t : ResultSet} {c : Clauses}
    (h : q.Runs w f s t) (hfits : q.SelectedFits) (hc : q.clauses = .ok c) :
    s.selection = c.selection := by
  obtain ⟨c', hc', hs⟩ := h.read
  obtain rfl := Except.ok.inj (hc'.symm.trans hc)
  rw [Clauses.render, String.toList_ofList, Clauses.chars_eq] at hs
  have hwritable := Selection.isWritable_of_read? (fun column => hfits c' column hc') hs
  obtain ⟨tokens, tail, -, -, rfl⟩ := (Statement.read?_ok_iff hwritable).mp hs
  rfl

theorem Runs.columns_eq_iff {w : Workbook} {s : Statement} {t : ResultSet} (h : q.Runs w f s t) :
    f.result.columns = [Sql.computedColumn] ↔ s.selection.ComesAlone t.columns := by
  obtain ⟨rows, -, hselect⟩ := bind_eq_ok_iff.mp h.evaluate
  exact Statement.columns_eq_iff hselect

theorem materialized_of_fetch (h : (q.fetch line).1 = .ok f) :
    (q.materialized line).1 = (q.materializer f.table Sql.computedColumn).materialize q.type
      f.result.columns f.result.rows := by
  obtain ⟨next, hnext⟩ : ∃ next, q.fetch line = (.ok f, next) := ⟨_, Prod.ext h rfl⟩
  rw [materialized, Action.bind_run hnext]
  rfl

/-- The items are those of the result, under the operators left to them. -/
theorem items_of_materialized (q : Query) (line : Line Engine) :
    (q.items line).1 = ((q.materialized line).1 >>= Materialized.intoItems).map q.model.onItems := by
  rw [items, Action.run_bind]
  rcases q.materialized line with ⟨e | made, next⟩
  · rfl
  · cases made with
    | items found => rfl
    | scalar v => rfl

/-- The items are made of what was fetched, one of each row. -/
def MadeOf (q : Query) (f : Fetched) (found : List Item) : Prop :=
  List.Forall₂ (fun row item => (q.materializer f.table Sql.computedColumn).items q.type
    f.result.columns [row] = .ok [item]) f.result.rows found

/-- The query has come back as a value, the first that there is, and there are no items. -/
def GivesValue (q : Query) (line : Line Engine) (f : Fetched) : Prop :=
  (q.materialized line).1 = .ok (.scalar (Materializer.firstCell f.result.rows)) ∧
    (q.items line).1 = .error (.driver ("expected rows, the source returned the single value '" ++
      (Materializer.firstCell f.result.rows).display ++ "'"))

/-- The query has come back as rows, with an item for each, or with a failure of making them that is
no message of the source. -/
def GivesRows (q : Query) (line : Line Engine) (f : Fetched) : Prop :=
  (∃ found, q.MadeOf f found ∧ (q.materialized line).1 = .ok (.items found) ∧
      (q.items line).1 = .ok (q.model.onItems found)) ∨
    ∃ e, (q.materialized line).1 = .error e ∧ (q.items line).1 = .error e ∧
      ∀ message, e ≠ .driver message

theorem givesValue_of_fetch (h : (q.fetch line).1 = .ok f)
    (halone : f.result.columns = [Sql.computedColumn]) : q.GivesValue line f := by
  have hmade := (materialized_of_fetch h).trans (Materializer.materialize_alone halone)
  refine ⟨hmade, ?_⟩
  rw [items_of_materialized, hmade]
  rfl

theorem givesRows_of_fetch (h : (q.fetch line).1 = .ok f)
    (hother : f.result.columns ≠ [Sql.computedColumn]) : q.GivesRows line f := by
  have hmade := (materialized_of_fetch h).trans (Materializer.materialize_not_alone hother)
  cases hitems : (q.materializer f.table Sql.computedColumn).items q.type f.result.columns
      f.result.rows with
  | ok found =>
      rw [hitems] at hmade
      refine Or.inl ⟨found, Materializer.forall₂_of_items hitems, hmade, ?_⟩
      rw [items_of_materialized, hmade]
      rfl
  | error e =>
      rw [hitems] at hmade
      refine Or.inr ⟨e, hmade, ?_, ?_⟩
      · rw [items_of_materialized, hmade]
        rfl
      · rintro message rfl
        rcases Materializer.failsBy_items _ _ _ _ _ hitems with hrows | ⟨-, name, -, hname⟩
        · cases hrows
        · cases hname

/-- **What comes back as a computed value, and what as rows.** A query that has fetched ran one
statement over one table; it has come back as a value exactly where the statement computes one, or
brings a lone column under the name of computed values: as the only column of the table, or as the
column whose different values are asked for. It has no items then. Every other statement has an item
for each row, or fails as the making of items does; it is never said to have brought no rows. -/
theorem scalar_iff_of_fetch (h : (q.fetch line).1 = .ok f) :
    ∃ s t, q.Runs line.backend.workbook f s t ∧
      (q.SelectedFits → ∀ c, q.clauses = .ok c → s.selection = c.selection) ∧
      ((∃ v, (q.materialized line).1 = .ok (.scalar v)) ↔ s.selection.ComesAlone t.columns) ∧
      (s.selection.ComesAlone t.columns → q.GivesValue line f) ∧
      (¬s.selection.ComesAlone t.columns → q.GivesRows line f) := by
  obtain ⟨s, t, hruns⟩ := exists_runs h
  have hiff := hruns.columns_eq_iff
  refine ⟨s, t, hruns, fun hfits c => hruns.selection_eq hfits, ?_, ?_, ?_⟩
  · rw [materialized_of_fetch h, ← hiff]
    exact Materializer.exists_scalar_iff
  · exact fun halone => givesValue_of_fetch h (hiff.mpr halone)
  · exact fun hother => givesRows_of_fetch h fun halone => hother (hiff.mp halone)

theorem scalar_iff_of_fetch_guests :
    ∃ f, (allGuests.fetch guests).1 = .ok f ∧ f.result.rows.length = 4 ∧
      (∀ v, (allGuests.materialized guests).1 ≠ .ok (.scalar v)) ∧ allGuests.GivesRows guests f := by
  have hfetch : (allGuests.fetch guests).1 = .ok ⟨⟨some "Guests", none, none⟩, ["Name", "Age"],
      [[.text "Ann", .int 31], [.text "", .int 40], [.text "Bob", .null], [.text "Cid", .int 9]]⟩ :=
    rfl
  obtain ⟨s, t, hruns, -, hscalar, -, hrows⟩ := scalar_iff_of_fetch hfetch
  have hother : ¬s.selection.ComesAlone t.columns := by
    rw [← hruns.columns_eq_iff]
    decide
  exact ⟨_, hfetch, rfl, fun v hv => hother (hscalar.mp ⟨v, hv⟩), hrows hother⟩

/-- A worksheet with one column, of the name of computed values. -/
def lone : Line Engine :=
  .ofBackend (.ofWorkbook (Workbook.empty.addSheet "Guests" ["Expr1000"] [[.int 1]]))

/-- **Rows of a lone column are taken for a value that was computed**: nothing is computed by the
statement, and still there are no items. -/
theorem scalar_of_lone :
    (allGuests.fetch lone).1 = .ok ⟨⟨some "Guests", none, none⟩, ["Expr1000"], [[.int 1]]⟩ ∧
      allGuests.Runs lone.backend.workbook ⟨⟨some "Guests", none, none⟩, ["Expr1000"], [[.int 1]]⟩
        ⟨.all, "Guests$", none, none⟩ ⟨["Expr1000"], [[.int 1]]⟩ ∧
      Selection.all.isScalar = false ∧
      (allGuests.materialized lone).1 = .ok (.scalar (.int 1)) ∧
      (allGuests.items lone).1 =
        .error (.driver "expected rows, the source returned the single value '1'") := by
  have hrefused : (allGuests.items lone).1.map (fun _ => ()) =
      .error (.driver "expected rows, the source returned the single value '1'") := by
    decide +kernel
  exact ⟨rfl, ⟨⟨.all, rfl, rfl⟩, rfl, rfl⟩, rfl, rfl, map_eq_error_iff.mp hrefused⟩

end Query

end SheetQuery
