import SheetQuery.Proofs.Materialize.Generic
import SheetQuery.Proofs.Session.Finding
import SheetQuery.Proofs.Workbook.Headers

/-!
# Rows under a header

A row with a header answers for its columns by their names, and is refused where two columns have
one. A statement does not bring that about: what it yields has the columns of its table, or one. So
it comes from the header alone, and with texts that are apart only from one that spells the name of a
position that is left blank: under the header `F2` and a blank cell both columns are named `F2`.

Main statement: `Query.finish_headed`. Such a header is `Query.items_spelled`.
-/

namespace SheetQuery

open Sql

/-- A selection of whole rows has the columns of the table, any other a single one. -/
theorem Sql.Statement.columns_of_select {t r : ResultSet} {rows : List (List Value)}
    {selection : Selection} (h : select t rows selection = .ok r) :
    r.columns = t.columns ∨ selection.isWholeRow = false ∧ ∃ name, r.columns = [name] := by
  cases selection with
  | all =>
      cases h
      exact Or.inl rfl
  | top n =>
      cases h
      exact Or.inl rfl
  | count =>
      cases h
      exact Or.inr ⟨rfl, _, rfl⟩
  | distinct column =>
      obtain ⟨i, -, h⟩ := bind_eq_ok_iff.mp h
      cases h
      exact Or.inr ⟨rfl, _, rfl⟩
  | aggregate function column =>
      obtain ⟨i, -, h⟩ := bind_eq_ok_iff.mp h
      obtain ⟨value, -, h⟩ := bind_eq_ok_iff.mp h
      cases h
      exact Or.inr ⟨rfl, _, rfl⟩

/-- Items under names of which one is found twice are refused. -/
theorem Materializer.exists_materialize_error {m : Materializer} {columns : List String}
    (h : ¬columns.Nodup) (rows : List (List Value)) :
    ∃ column, m.materialize .row columns rows =
      .error (.configuration (.duplicateColumn column)) := by
  cases hrepeated : firstRepeated? [] columns with
  | none => exact absurd (nodup_of_firstRepeated? hrepeated).1 h
  | some column =>
      have hother : columns ≠ [m.scalarColumn] := by
        rintro rfl
        exact h (List.nodup_singleton _)
      refine ⟨column, ?_⟩
      rw [materialize_not_alone hother]
      simp only [items, Materializer.rows, checkColumns, hrepeated]
      rfl

namespace Query

variable {q : Query} {line : Line Engine} {table : Table} {name : String} {t : ResultSet}
  {f : Fetched} {c : Clauses}

theorem columns_of_fetch (hreads : q.source.Reads line.backend.workbook table name t)
    (hc : q.clauses = .ok c)
    (hcolumn : ∀ column, c.selection.column? = some column → IsBracketable column)
    (h : (q.fetch line).1 = .ok f) :
    f.result.columns = t.columns ∨
      c.selection.isWholeRow = false ∧ ∃ column, f.result.columns = [column] := by
  obtain ⟨-, c', hc', hbrings⟩ := fetch_ok_iff.mp h
  obtain rfl := Except.ok.inj (hc.symm.trans hc')
  have htable : f.table = table := Except.ok.inj (hbrings.table.symm.trans hreads.resolved)
  have hanswer := hbrings.answer
  rw [htable, Engine.answer_over hreads hcolumn] at hanswer
  obtain ⟨statement, -, hevaluate⟩ := bind_eq_ok_iff.mp hanswer
  obtain ⟨rows, -, hselect⟩ := bind_eq_ok_iff.mp hevaluate
  exact Statement.columns_of_select hselect

/-- Over a table of names that are apart no name is found twice. -/
theorem ne_duplicateColumn_of_finish {ending : Ending} (hruns : ending.runs = true)
    (hreads : q.source.Reads line.backend.workbook table name t) (happart : t.columns.Nodup)
    (hfits : (q.ended ending).SelectedFits) (column : String) :
    (q.finish ending line).1 ≠ .error (.configuration (.duplicateColumn column)) := by
  intro h
  cases q.failsBy_finish hruns line _ h with
  | fetch hfetch =>
      rcases (q.ended ending).failsBy_fetch line _ hfetch with hrefusal | ⟨c, -, hfails⟩
      · cases hrefusal
      · cases hfails
  | items hitems => cases hitems
  | @repeated f column htype hfetch hrepeated =>
      obtain ⟨-, c, hc, -⟩ := fetch_ok_iff.mp hfetch
      have hnodup : f.result.columns.Nodup := by
        rcases columns_of_fetch (q := q.ended ending) hreads hc (fun column => hfits c column hc)
          hfetch with hsame | ⟨-, _, hone⟩
        · rw [hsame]
          exact happart
        · rw [hone]
          exact List.nodup_singleton _
      rw [firstRepeated?_eq_none hnodup fun _ _ => List.not_mem_nil] at hrepeated
      cases hrepeated

/-- Whole rows under names of which one is found twice are refused. -/
theorem exists_items_error (htype : q.type = .row)
    (hreads : q.source.Reads line.backend.workbook table name t) (hrepeated : ¬t.columns.Nodup)
    (hc : q.clauses = .ok c) (hwhole : c.selection.isWholeRow = true)
    (h : (q.fetch line).1 = .ok f) :
    ∃ column, (q.items line).1 = .error (.configuration (.duplicateColumn column)) := by
  have hcolumn : ∀ column, c.selection.column? = some column → IsBracketable column := by
    rw [Selection.column?_of_isWholeRow hwhole]
    nofun
  have hcolumns : f.result.columns = t.columns := by
    rcases columns_of_fetch hreads hc hcolumn h with hsame | ⟨hpart, -⟩
    · exact hsame
    · cases hwhole.symm.trans hpart
  rw [← hcolumns] at hrepeated
  obtain ⟨column, hrefused⟩ := Materializer.exists_materialize_error
    (m := q.materializer f.table Sql.computedColumn) hrepeated f.result.rows
  rw [← htype] at hrefused
  obtain ⟨next, hfetch⟩ : ∃ next, q.fetch line = (.ok f, next) := ⟨_, Prod.ext h rfl⟩
  have hmaterialized : (q.materialized line).1 =
      .error (.configuration (.duplicateColumn column)) := by
    rw [materialized, Action.bind_run hfetch]
    exact hrefused
  exact ⟨column, congrArg Prod.fst (Action.bind_run_error hmaterialized)⟩

/-- **Rows under a header.** Let the texts of a header that are not blank be apart. Then the columns
have names that are apart exactly where no text is the name of a position that is left blank. If so,
a query for rows with a header never fails over a name that appears twice, however it is finished;
and if not, it does whenever whole rows have been fetched. -/
theorem finish_headed (htype : q.type = .row) {grid : Grid}
    (hreads : q.source.Reads line.backend.workbook table name (grid.toTable true))
    (hown : (Grid.ownNames (grid.headD [])).Nodup) :
    ((grid.toTable true).columns.Nodup ↔ grid.SparesPositions) ∧
      (grid.SparesPositions → ∀ (ending : Ending) (column : String), ending.runs = true →
        (q.ended ending).SelectedFits →
          (q.finish ending line).1 ≠ .error (.configuration (.duplicateColumn column))) ∧
      (¬grid.SparesPositions → ∀ (c : Clauses) (f : Fetched), q.clauses = .ok c →
        c.selection.isWholeRow = true → (q.fetch line).1 = .ok f →
          ∃ column, (q.items line).1 = .error (.configuration (.duplicateColumn column))) := by
  have hiff := Grid.nodup_columns_iff hown
  refine ⟨hiff, ?_, ?_⟩
  · intro hspares ending column hruns hfits
    exact ne_duplicateColumn_of_finish hruns hreads (hiff.mpr hspares) hfits column
  · intro hclash c f hc hwhole hfetch
    exact exists_items_error htype hreads (fun hnodup => hclash (hiff.mp hnodup)) hc hwhole hfetch

/-- A worksheet `Guests` with these cells, and no other. -/
def guestsUnder (grid : Grid) : Line Engine :=
  .ofBackend (.ofWorkbook (Workbook.empty.addGrid "Guests" grid))

/-- All rows of the worksheet `Guests`, with a header. -/
abbrev guestRows : Query :=
  guestBook (.worksheet (some (.named "Guests")))

/-- A header with a cell of spaces in the second place, over a row that goes on behind it. -/
def gapped : Grid :=
  [[.text "Name", .text " "], [.text "Ann", .int 31, .int 7]]

theorem finish_headed_gapped :
    guestRows.source.Reads (guestsUnder gapped).backend.workbook ⟨some "Guests", none, none⟩
        "Guests$" (gapped.toTable true) ∧
      (gapped.toTable true).columns = ["Name", "F2", "F3"] ∧
      (gapped.toTable true).columns.Nodup ∧
      ∀ column, (guestRows.finish .items (guestsUnder gapped)).1 ≠
        .error (.configuration (.duplicateColumn column)) := by
  have hreads : guestRows.source.Reads (guestsUnder gapped).backend.workbook
      ⟨some "Guests", none, none⟩ "Guests$" (gapped.toTable true) := ⟨rfl, rfl, by decide, rfl⟩
  have hown : (Grid.ownNames (gapped.headD [])).Nodup := by decide
  have hspares : gapped.SparesPositions := by decide
  have hfits : (guestRows.ended .items).SelectedFits := selectedFits_of_no_column rfl rfl
  obtain ⟨hiff, hnever, -⟩ := finish_headed (q := guestRows) rfl hreads hown
  exact ⟨hreads, rfl, hiff.mpr hspares, fun column => hnever hspares .items column rfl hfits⟩

/-- A header that spells the name of the second position and leaves it blank. -/
def spelled : Grid :=
  [[.text "F2", .text ""], [.text "Ann", .int 31]]

/-- **A text of the header meets the name of a position**, though the header has no text twice. -/
theorem items_spelled :
    (Grid.ownNames (spelled.headD [])).Nodup ∧
      (spelled.toTable true).columns = ["F2", "F2"] ∧
      (guestRows.items (guestsUnder spelled)).1 =
        .error (.configuration (.duplicateColumn "F2")) := by
  have hrefused : (guestRows.items (guestsUnder spelled)).1.map (fun _ => ()) =
      .error (.configuration (.duplicateColumn "F2")) := by decide +kernel
  exact ⟨by decide, rfl, map_eq_error_iff.mp hrefused⟩

end Query

end SheetQuery
