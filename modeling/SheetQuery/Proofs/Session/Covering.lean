import SheetQuery.Proofs.Backend.Answers
import SheetQuery.Proofs.Backend.Bounds
import SheetQuery.Proofs.Compile.Operators
import SheetQuery.Proofs.Session.Finishing
import SheetQuery.Proofs.Session.Running
import SheetQuery.Proofs.Sql.Selecting

/-!
# The rows that a query is about

A query is about some rows of a table: those that its predicates leave, in its order. Its operators
have no part in that. However it is finished, what comes back is a selection of the same rows, so
the ways of finishing a query can be held against each other without a look at the text of any
statement.

Main statements: `Query.Covers.unique` and `Query.covers_of_fetch`.
-/

namespace SheetQuery

open Sql

/-- What is read as a statement with a selection has a selection that can be written. -/
theorem Sql.Selection.isWritable_of_read? {selection : Selection} {rest : List Char}
    {params : List Value} {s : Statement}
    (hname : ∀ column, selection.column? = some column → IsBracketable column)
    (h : Statement.read? ("SELECT ".toList ++ (selection.chars ++ rest)) params = .ok s) :
    selection.IsWritable := by
  cases selection with
  | all => trivial
  | top n => exact Statement.lt_of_read?_top h
  | count => trivial
  | distinct column => exact hname column rfl
  | aggregate function column => exact hname column rfl

namespace Engine

variable {w : Workbook} {hasHeader : Bool} {c : Clauses} {table : Table} {r whole : ResultSet}

theorem Leaves.isRectangular (h : Leaves w hasHeader c table whole) : whole.IsRectangular := by
  obtain ⟨selection, s, data, -, -, hdata, hrows, hcolumns⟩ := h
  intro row hrow
  rw [← hcolumns]
  exact Workbook.table_isRectangular hdata row (Statement.mem_of_mem_sourceRows hrows hrow)

/-- Without a header the columns are named by their positions. -/
theorem Leaves.columns_eq (h : Leaves w false c table whole) :
    ∃ n, whole.columns = Grid.positionNames n := by
  obtain ⟨selection, s, data, -, -, hdata, -, hcolumns⟩ := h
  obtain ⟨n, hn⟩ := Workbook.table_columns hdata
  exact ⟨n, hcolumns.symm.trans hn⟩

/-- In a statement that is answered the number of rows fits a word. -/
theorem isWritable_of_answer
    (hname : ∀ column, c.selection.column? = some column → IsBracketable column)
    (h : answer w hasHeader (c.render table) = .ok r) : c.selection.IsWritable := by
  rw [answer_read] at h
  obtain ⟨s, hs, -⟩ := bind_eq_ok_iff.mp h
  exact Selection.isWritable_of_read? hname hs

end Engine

theorem Sql.Selection.column?_of_isWholeRow {selection : Selection}
    (h : selection.isWholeRow = true) : selection.column? = none := by
  cases selection with
  | all => rfl
  | top n => rfl
  | _ => cases h

/-- Whole rows come back only with every column that was noted. -/
theorem Source.mem_of_checkUsed {c : Clauses} {columns : List String}
    (hwhole : c.selection.isWholeRow = true) (h : checkUsed c columns = .ok ()) {name : String}
    (hname : name ∈ c.columnsUsed) : name ∈ columns := by
  rw [checkUsed, if_pos hwhole] at h
  split at h
  · cases h
  · next hnone =>
      have hknown := List.find?_eq_none.mp hnone name hname
      simpa using hknown

/-- The columns that were noted are asked for behind whole rows only. -/
theorem Source.checkUsed_ok_iff {c : Clauses} {columns : List String} :
    checkUsed c columns = .ok () ↔
      (c.selection.isWholeRow = true → ∀ name ∈ c.columnsUsed, name ∈ columns) := by
  constructor
  · exact fun h hwhole name hname => mem_of_checkUsed hwhole h hname
  · intro h
    cases hwhole : c.selection.isWholeRow with
    | true => exact checkUsed_eq_ok (h hwhole)
    | false =>
        rw [checkUsed, hwhole]
        rfl

/-- Whole rows are brought back from a table that is read, with all columns that were noted, where the
names fit between brackets. -/
theorem Source.Brings.exists_reads {s : Source} {w : Workbook} {c : Clauses} {f : Fetched}
    (h : s.Brings w c f) (hcovered : c.IsCovered) (hall : c.selection = .all)
    (hcolumns : ∀ column ∈ c.columnsUsed, IsBracketable column) (htable : ']' ∉ f.table.reference) :
    ∃ name t rows, s.Reads w f.table name t ∧
      Statement.sourceRows ⟨.all, name, c.condition?, c.orderBy⟩ t = .ok rows ∧
      f.result = ⟨t.columns, rows⟩ ∧ ∀ column ∈ c.columnsUsed, column ∈ t.columns := by
  have hwritable : c.IsWritable := hcovered.isWritable hcolumns (by rw [hall]; trivial)
  obtain ⟨name, hclause, hname⟩ := f.table.clause_eq_bracketed htable
  have hanswer := h.answer
  rw [Engine.answer_of_isWritable hwritable hclause hname, hall] at hanswer
  obtain ⟨t, ht, hevaluate⟩ := bind_eq_ok_iff.mp hanswer
  obtain ⟨rows, hrows, hselect⟩ := bind_eq_ok_iff.mp hevaluate
  have hresult : f.result = ⟨t.columns, rows⟩ := (Except.ok.inj hselect).symm
  refine ⟨name, t, rows, ⟨h.table, hclause, hname, ht⟩, hrows, hresult, fun column hcolumn => ?_⟩
  have hmem := mem_of_checkUsed (by rw [hall]; rfl) h.used hcolumn
  rwa [hresult] at hmem

/-- In a table with a column every row has a first cell. -/
theorem ResultSet.IsRectangular.filterMap_head? {r : ResultSet} (h : r.IsRectangular)
    {name : String} (hname : name ∈ r.columns) :
    r.rows.filterMap List.head? = columnCells 0 r.rows := by
  have hcell : ∀ row ∈ r.rows, row.head? = some (cellAt row 0) := by
    intro row hrow
    cases row with
    | nil =>
        rw [List.length_eq_zero_iff.mp (h [] hrow).symm] at hname
        cases hname
    | cons cell rest => rfl
  rw [columnCells, ← List.filterMap_eq_map]
  exact List.filterMap_congr hcell

namespace Query

/-- The query with other operators in place of its own. -/
def under (q : Query) (operators : List Operator) : Query :=
  { q with model := { q.model with operators := operators } }

/-- The query is about these rows, whatever operators it has. -/
structure Covers (q : Query) (w : Workbook) (t : Table) (whole : ResultSet) : Prop where
  table : q.source.resolve (q.source.listed w) = .ok t
  leaves : ∃ operators c, (q.under operators).clauses = .ok c ∧
    Engine.Leaves w q.source.hasHeader c t whole

variable {q : Query} {w : Workbook} {t t' : Table} {whole whole' : ResultSet}

theorem Covers.isRectangular (h : q.Covers w t whole) : whole.IsRectangular := by
  obtain ⟨operators, c, -, hleaves⟩ := h.leaves
  exact hleaves.isRectangular

/-- **There is one answer to what a query is about.** -/
theorem Covers.unique (h : q.Covers w t whole) (h' : q.Covers w t' whole') :
    t' = t ∧ whole' = whole := by
  obtain rfl : t' = t := Except.ok.inj (h'.table.symm.trans h.table)
  obtain ⟨first, c, hc, hleaves⟩ := h.leaves
  obtain ⟨second, c', hc', hleaves'⟩ := h'.leaves
  obtain ⟨hfilter, horder⟩ := alike_of_compile hc hc'
  exact ⟨rfl, hleaves'.unique (hleaves.of_alike hfilter horder)⟩

/-- **What is fetched is a selection of the rows that the query is about.** -/
theorem covers_of_fetch {operators : List Operator} {line : Line Engine} {c : Clauses} {f : Fetched}
    (hc : (q.under operators).clauses = .ok c)
    (hname : ∀ column, c.selection.column? = some column → IsBracketable column)
    (h : ((q.under operators).fetch line).1 = .ok f) :
    ∃ whole, q.Covers line.backend.workbook f.table whole ∧
      Statement.select whole whole.rows c.selection = .ok f.result ∧
      Source.checkUsed c f.result.columns = .ok () := by
  obtain ⟨-, c', hc', hbrings⟩ := fetch_ok_iff.mp h
  obtain rfl := Except.ok.inj (hc'.symm.trans hc)
  have hwritable := Engine.isWritable_of_answer hname hbrings.answer
  obtain ⟨whole, hleaves, hselect⟩ := Engine.leaves_of_answer hwritable hbrings.answer
  exact ⟨whole, ⟨hbrings.table, operators, c', hc', hleaves⟩, hselect, hbrings.used⟩

section Fetching

variable {operators : List Operator} {line : Line Engine} {c : Clauses} {f : Fetched}
  (hc : (q.under operators).clauses = .ok c) (h : ((q.under operators).fetch line).1 = .ok f)

include hc h

theorem covers_of_fetch_whole (hwhole : c.selection.isWholeRow = true) :
    ∃ whole, q.Covers line.backend.workbook f.table whole ∧
      Statement.select whole whole.rows c.selection = .ok f.result ∧
      Source.checkUsed c f.result.columns = .ok () := by
  refine covers_of_fetch hc ?_ h
  rw [Selection.column?_of_isWholeRow hwhole]
  nofun

/-- Different values are fetched one to a row. -/
theorem covers_of_fetch_distinct {column : String} (hselection : c.selection = .distinct column)
    (hname : IsBracketable column) :
    ∃ whole i, q.Covers line.backend.workbook f.table whole ∧ position whole column = .ok i ∧
      f.result.rows = (firstOccurrences [] (columnCells i whole.rows)).map ([·]) := by
  have hwritable : ∀ name, c.selection.column? = some name → IsBracketable name := by
    rw [hselection]
    rintro name ⟨⟩
    exact hname
  obtain ⟨whole, hcovers, hselect, -⟩ := covers_of_fetch hc hwritable h
  rw [hselection] at hselect
  obtain ⟨i, hi, hresult⟩ := bind_eq_ok_iff.mp hselect
  exact ⟨whole, i, hcovers, hi, by rw [← Except.ok.inj hresult]⟩

end Fetching

/-! ## Shapes -/

/-- The model and the source are those of the items of the query. -/
structure IsTyped (q : Query) : Prop where
  shape : q.model.shape = q.type.shape
  hasHeader : q.source.hasHeader = q.type.hasHeader

/-- The columns of a query for rows without a header are named by their positions. -/
theorem Covers.columns_eq (hq : q.IsTyped) (htype : q.type = .headerless) (h : q.Covers w t whole) :
    ∃ n, whole.columns = Grid.positionNames n := by
  obtain ⟨operators, c, -, hleaves⟩ := h.leaves
  rw [hq.hasHeader, htype] at hleaves
  exact hleaves.columns_eq

end Query

/-- The queries of a session are typed. -/
theorem Session.isTyped_of_query {s : Session} {root : TableIdentity} {type : ItemType} {q : Query}
    (h : s.query root type = .ok q) : q.IsTyped := by
  obtain ⟨htype, hmodel, hheader, -⟩ := s.query_eq h
  refine ⟨?_, hheader.trans (congrArg _ htype.symm)⟩
  rw [hmodel, htype]
  rfl

end SheetQuery
