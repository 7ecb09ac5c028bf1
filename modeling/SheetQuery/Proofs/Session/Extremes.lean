import SheetQuery.Proofs.Backend.Sorting
import SheetQuery.Proofs.Session.Counting
import SheetQuery.Proofs.Session.Distinct
import SheetQuery.Proofs.Sql.Extremes

/-!
# Extremes and orders

Asked for the least value of a column, the source makes one pass over the rows; asked for the rows
in the order of the column, it sorts them. The two ways agree where the values of the column rank
among each other: the least value is the first one in the ordered rows, the greatest one the last,
and both are missing where no row has a value. A closing bracket in the name of the column or of one
that is filtered by ends a name early, and then one of the statements may be read and the other not.

Main statement: `Query.extremes_of_ordered`. That an extremum may be out of reach where the order is
not, is `extremum_misread`.
-/

namespace SheetQuery

open Sql

/-- The query asks for rows that fit predicates, and for nothing else. -/
structure Model.OnlyFilters (m : Model) : Prop where
  operators : m.operators = []
  leadingKey : m.leadingKey? = none

/-- The cells of a column that are there. -/
def ResultSet.there (r : ResultSet) (name : String) : List Value :=
  (r.cells name).filter (!·.isNull)

namespace Query

/-- The query in the ascending order of a key, after the orders it has. -/
def orderedBy (q : Query) (key : Expr) : Query :=
  { q with model := q.model.withClause (.orderBy [⟨key, .ascending⟩]) }

/-- The query with a selector in place of its own. -/
def selecting (q : Query) (selector : Expr) : Query :=
  { q with model := q.model.select selector }

end Query

/-! ## Clauses -/

section Compiling

variable {mapper : Mapper} {m : Model} {c : Clauses} {key : Expr} {column : String}

/-- A query with filters only selects whole rows as they come. -/
theorem Model.OnlyFilters.filtered_of_compile (hm : m.OnlyFilters) (h : compile mapper m = .ok c) :
    rejectJoins m.body = .ok () ∧ Clauses.all.withPredicates mapper m = .ok c := by
  obtain ⟨hjoins, filtered, hfilter, ordered, horder, hrun⟩ := compile_eq_ok_iff.mp h
  rw [hm.operators] at hrun
  cases hrun
  rcases Clauses.withOrdering_cases horder with ⟨-, rfl⟩ | ⟨key, column, hkey, -⟩
  · exact ⟨hjoins, hfilter⟩
  · cases hm.leadingKey.symm.trans hkey

theorem Model.OnlyFilters.clauses_eq (hm : m.OnlyFilters) (h : compile mapper m = .ok c) :
    c.selection = .all ∧ c.orderBy = none := by
  obtain ⟨-, hfilter⟩ := hm.filtered_of_compile h
  rcases Clauses.withPredicates_cases hfilter with ⟨-, rfl⟩ | ⟨first, rest, f, -, -, rfl⟩ <;>
    exact ⟨rfl, rfl⟩

/-- An order is added to the clauses, and the column of its key is used. -/
theorem Model.OnlyFilters.compile_orderedBy (hm : m.OnlyFilters) (h : compile mapper m = .ok c)
    (hnames : key.Names mapper m.shape column) :
    compile mapper (m.withClause (.orderBy [⟨key, .ascending⟩])) =
      .ok { c with orderBy := some (column, .ascending),
                   columnsUsed := useColumn c.columnsUsed column } := by
  obtain ⟨hjoins, hfilter⟩ := hm.filtered_of_compile h
  have hpredicates : (m.withClause (.orderBy [⟨key, .ascending⟩])).predicates = m.predicates := by
    simp [Model.predicates, Model.withClause]
  have hleads : (m.withClause (.orderBy [⟨key, .ascending⟩])).leadingKey? =
      some ⟨key, .ascending⟩ := by
    have hnone := hm.leadingKey
    unfold Model.leadingKey? at hnone ⊢
    rw [Model.withClause, List.findSome?_append, hnone]
    rfl
  have hjoined : rejectJoins (m.withClause (.orderBy [⟨key, .ascending⟩])).body = .ok () := by
    rw [rejectJoins_ok_iff] at hjoins ⊢
    intro clause hclause
    rcases List.mem_append.mp hclause with hclause | hclause
    · exact hjoins clause hclause
    · rw [List.mem_singleton.mp hclause]
      rintro ⟨⟩
  have hfiltered : Clauses.all.withPredicates mapper (m.withClause (.orderBy [⟨key, .ascending⟩])) =
      .ok c := by
    unfold Clauses.withPredicates
    rw [hpredicates]
    exact hfilter
  have hordered : c.withOrdering mapper (m.withClause (.orderBy [⟨key, .ascending⟩])) =
      .ok { c with orderBy := some (column, .ascending),
                   columnsUsed := useColumn c.columnsUsed column } := by
    unfold Clauses.withOrdering
    rw [hleads]
    exact bind_eq_ok_iff.mpr ⟨column, Expr.resolveColumn_of_names hnames, rfl⟩
  refine compile_eq_ok_iff.mpr ⟨hjoined, c, hfiltered, _, hordered, ?_⟩
  show m.operators.foldlM _ _ = _
  rw [hm.operators]
  rfl

/-- An extremum of the selected column takes the place of the rows. -/
theorem Model.OnlyFilters.compile_extremum (hm : m.OnlyFilters) (h : compile mapper m = .ok c)
    (hnames : key.Names mapper m.shape column) (direction : Direction) :
    compile mapper ((m.select key).withOperator (Query.aggregateOperator direction.extremum)) =
      .ok (c.selecting (.aggregate direction.extremum column)) := by
  obtain ⟨hjoins, hfilter⟩ := hm.filtered_of_compile h
  have hselected : compile mapper (m.select key) = .ok c := by
    refine compile_eq_ok_iff.mpr ⟨hjoins, c, hfilter, c, ?_, ?_⟩
    · unfold Clauses.withOrdering
      rw [show (m.select key).leadingKey? = none from hm.leadingKey]
    · show m.operators.foldlM _ _ = _
      rw [hm.operators]
      rfl
  have hover : ∀ (method : String) (select : String → Selection),
      (select column).column? = some column →
        c.overColumn mapper (m.select key) method select = .ok (c.selecting (select column)) := by
    intro method select hselect
    rw [Clauses.overColumn, show (m.select key).selector = some key from rfl]
    simp only [hnames.isColumnAccess, if_true]
    refine bind_eq_ok_iff.mpr ⟨column, Expr.resolveColumn_of_names hnames, ?_⟩
    rw [Clauses.selecting, hselect]
    rfl
  rw [compile_withOperator, hselected, ok_bind]
  cases direction with
  | ascending => exact hover "Min" (.aggregate .min) rfl
  | descending => exact hover "Max" (.aggregate .max) rfl

end Compiling

/-! ## Statements -/

/-- Over a table with its columns, the extremum of a column whose cells rank among each other stands
at an end of the column in any list of the rows that is in order. -/
theorem Sql.Statement.evaluate_extremum {t : ResultSet} {name column : String}
    {condition : Option Condition}
    (hcondition : ∀ name ∈ (condition.map Condition.columns).getD [], name ∈ t.columns)
    (hcolumn : column ∈ t.columns)
    (hranked : Value.AreRanked ((filterRows t condition).map (cell t.columns · column)))
    {rows : List (List Value)} (hsorted : IsSortedBy .ascending (cell t.columns · column)
      (filterRows t condition) rows) (direction : Direction) :
    evaluate ⟨.aggregate direction.extremum column, name, condition, none⟩ t =
      .ok (.single computedColumn
        ((direction.end? (ResultSet.there ⟨t.columns, rows⟩ column)).getD .null)) := by
  obtain ⟨i, hi⟩ := exists_position hcolumn
  obtain ⟨kind, hkind, hcells⟩ := hranked
  have hcell : columnCells i (filterRows t condition) =
      (filterRows t condition).map (cell t.columns · column) :=
    List.map_congr_left fun _ _ => (cell_of_position hi).symm
  have hordered : (ResultSet.there ⟨t.columns, rows⟩ column).Pairwise Value.AtMost :=
    (List.pairwise_map.mpr hsorted.inOrder).filter _
  have hof : direction.extremum.of (((filterRows t condition).map
      (cell t.columns · column)).filter (!·.isNull)) =
        .ok ((direction.end? (ResultSet.there ⟨t.columns, rows⟩ column)).getD .null) := by
    refine Aggregate.of_extremum hkind (fun v hv => ?_) ((hsorted.perm.map _).filter _) hordered
      direction
    obtain ⟨hmem, hthere⟩ := List.mem_filter.mp hv
    exact ⟨hcells v hmem, by simpa using hthere⟩
  rw [evaluate, sourceRows, checkNames_eq_ok hcondition, ok_bind]
  refine bind_eq_ok_iff.mpr ⟨_, rfl, bind_eq_ok_iff.mpr ⟨i, hi, ?_⟩⟩
  rw [hcell, hof, ok_bind]
  rfl

/-! ## Queries -/

namespace Query

variable {q : Query} {c : Clauses} {line : Line Engine} {f : Fetched} {table : Table}
  {name : String} {t : ResultSet} {selector : Expr} {column : String}

/-- A query with filters only that is run has fetched the rows of a table that its condition keeps,
and the table has all columns that are used. -/
theorem exists_reads_of_fetch (hfilters : q.model.OnlyFilters) (hc : q.clauses = .ok c)
    (hnamed : ∀ name ∈ c.columnsUsed, IsBracketable name) (hfetch : (q.fetch line).1 = .ok f)
    (htable : ']' ∉ f.table.reference) :
    ∃ name t, q.source.Reads line.backend.workbook f.table name t ∧
      f.result = ⟨t.columns, filterRows t c.condition?⟩ ∧
      ∀ name ∈ c.columnsUsed, name ∈ t.columns := by
  obtain ⟨-, c', hc', hbrings⟩ := fetch_ok_iff.mp hfetch
  obtain rfl := Except.ok.inj (hc.symm.trans hc')
  obtain ⟨hall, hunordered⟩ := hfilters.clauses_eq hc
  obtain ⟨name, t, rows, hreads, hrows, hresult, hknown⟩ :=
    hbrings.exists_reads (isCovered_of_compile hc) hall hnamed htable
  rw [hunordered] at hrows
  obtain ⟨u, -, hrows⟩ := bind_eq_ok_iff.mp hrows
  cases hrows
  exact ⟨name, t, hreads, hresult, hknown⟩

/-- The columns of the condition are among the used ones. -/
theorem mem_of_condition? (hc : q.clauses = .ok c) {columns : List String}
    (hused : ∀ name ∈ c.columnsUsed, name ∈ columns) :
    ∀ name ∈ (c.condition?.map Condition.columns).getD [], name ∈ columns :=
  Clauses.forall_condition? fun filter hfilter name hname =>
    hused name ((isCovered_of_compile hc).filter filter hfilter name hname)

section Reading

variable (hfilters : q.model.OnlyFilters) (hc : q.clauses = .ok c)
  (hnamed : ∀ name ∈ c.columnsUsed, IsBracketable name ∧ name ∈ t.columns)
  (hselector : selector.Names q.source.mapper q.model.shape column)
  (hcolumn : IsBracketable column ∧ column ∈ t.columns)
  (hranked : Value.AreRanked ((filterRows t c.condition?).map (cell t.columns · column)))

include hfilters hc hnamed hselector hcolumn hranked

/-- The query is run in the order of the column. -/
theorem exists_fetch_orderedBy (hpending : line.backend.pendingFailure = none)
    (hreads : q.source.Reads line.backend.workbook table name t) :
    ∃ rows, ((q.orderedBy selector).fetch line).1 = .ok ⟨table, t.columns, rows⟩ ∧
      IsSortedBy .ascending (cell t.columns · column) (filterRows t c.condition?) rows := by
  have hclauses : (q.orderedBy selector).clauses = .ok { c with
      orderBy := some (column, .ascending), columnsUsed := useColumn c.columnsUsed column } :=
    hfilters.compile_orderedBy hc hselector
  have hused : ∀ name ∈ useColumn c.columnsUsed column, IsBracketable name ∧ name ∈ t.columns := by
    intro name hname
    rcases mem_useColumn.mp hname with hname | rfl
    · exact hnamed name hname
    · exact hcolumn
  have hwritable := (isCovered_of_compile hclauses).isWritable
    (fun name hname => (hused name hname).1) (by rw [(hfilters.clauses_eq hc).1]; trivial)
  obtain ⟨rows, hrows, hsorted⟩ := Statement.exists_sourceRows_ordered
    (s := ⟨c.selection, name, c.condition?, some (column, .ascending)⟩) rfl
    (mem_of_condition? hc fun name hname => (hnamed name hname).2) hcolumn.2 hranked
  refine ⟨rows, fetch_ok_iff.mpr ⟨hpending, _, hclauses, hreads.resolved, ?_, ?_⟩, hsorted⟩
  · refine (Engine.answer_eq hwritable hreads.clause hreads.isBracketable hreads.shown).trans ?_
    refine bind_eq_ok_iff.mpr ⟨rows, hrows, ?_⟩
    rw [(hfilters.clauses_eq hc).1]
    rfl
  · exact Source.checkUsed_eq_ok fun name hname => (hused name hname).2

/-- An extremum of the column is at an end of the rows in its order. -/
theorem aggregate_extremum {w : Workbook} (hreads : q.source.Reads w table name t)
    {rows : List (List Value)} (hsorted : IsSortedBy .ascending (cell t.columns · column)
      (filterRows t c.condition?) rows) (direction : Direction) {line : Line Engine}
    (hview : line.view = (w, none)) :
    ((q.selecting selector).aggregate direction.extremum line).1 =
      .ok ((direction.end? (ResultSet.there ⟨t.columns, rows⟩ column)).getD .null) := by
  obtain ⟨hworkbook, hpending⟩ := Prod.mk.inj hview
  have hclauses : ((q.selecting selector).withOperator
      (aggregateOperator direction.extremum)).clauses =
        .ok (c.selecting (.aggregate direction.extremum column)) :=
    hfilters.compile_extremum hc hselector direction
  have hwritable := (isCovered_of_compile hclauses).isWritable (fun name hname => by
    rcases mem_foldl_useColumn.mp hname with hname | hname
    · exact (hnamed name hname).1
    · rw [List.mem_singleton.mp hname]
      exact hcolumn.1) hcolumn.1
  have hvalue : Statement.evaluate
      ⟨.aggregate direction.extremum column, name, c.condition?, none⟩ t =
      .ok (.single Sql.computedColumn
        ((direction.end? (ResultSet.there ⟨t.columns, rows⟩ column)).getD .null)) :=
    Statement.evaluate_extremum (mem_of_condition? hc fun name hname => (hnamed name hname).2)
      hcolumn.2 hranked hsorted direction
  have hfetch : (((q.selecting selector).withOperator
      (aggregateOperator direction.extremum)).fetch line).1 = .ok ⟨table, .single
        Sql.computedColumn
        ((direction.end? (ResultSet.there ⟨t.columns, rows⟩ column)).getD .null)⟩ := by
    refine fetch_ok_iff.mpr ⟨hpending, _, hclauses, ?_⟩
    rw [hworkbook]
    refine ⟨hreads.resolved, ?_, rfl⟩
    refine (Engine.answer_eq hwritable hreads.clause hreads.isBracketable hreads.shown).trans ?_
    rw [Clauses.selecting, (hfilters.clauses_eq hc).2]
    exact hvalue
  exact Action.bind_ok_iff.mpr ⟨_, materialized_ok_iff.mpr ⟨_, hfetch,
    Materializer.materialize_single rfl _ _⟩, rfl⟩

end Reading

/-- At either end of the cells that are there nothing is found exactly where there are none. -/
theorem end?_there_eq_null_iff {r : ResultSet} (direction : Direction) :
    (direction.end? (r.there column)).getD .null = .null ↔ ∀ v ∈ r.cells column, v = .null := by
  constructor
  · intro hend v hv
    cases hthere : r.there column with
    | nil =>
        have hnull := List.filter_eq_nil_iff.mp hthere v hv
        cases v <;> first | rfl | exact absurd rfl hnull
    | cons first rest =>
        -- what stands at an end is there
        obtain ⟨w, hw, hmem⟩ : ∃ w, direction.end? (r.there column) = some w ∧
            w ∈ r.there column := by
          rw [hthere]
          cases direction with
          | ascending => exact ⟨first, rfl, List.mem_cons_self⟩
          | descending =>
              exact ⟨_, List.getLast?_eq_some_getLast (List.cons_ne_nil _ _), List.getLast_mem _⟩
        rw [hw] at hend
        obtain ⟨-, hnull⟩ := List.mem_filter.mp hmem
        cases show w = .null from hend
        cases hnull
  · intro hall
    have hnone : r.there column = [] := List.filter_eq_nil_iff.mpr fun v hv => by
      rw [hall v hv]
      decide
    rw [hnone]
    cases direction <;> rfl

/-- **Extremes agree with the order.** A query with filters only that is run, over names that are
free of closing brackets, is run in the order of any of its columns as well. Where the cells of the
column rank among each other, its least value is the first one in the rows that come back then, and
its greatest value the last one; and each is missing exactly where all cells are. -/
theorem extremes_of_ordered (hfilters : q.model.OnlyFilters) (hc : q.clauses = .ok c)
    (hnamed : ∀ name ∈ c.columnsUsed, IsBracketable name) (hfetch : (q.fetch line).1 = .ok f)
    (htable : ']' ∉ f.table.reference)
    (hselector : selector.Names q.source.mapper q.model.shape column)
    (hcolumn : column ∈ f.result.columns) (hbracketable : IsBracketable column)
    (hranked : Value.AreRanked (f.result.cells column)) :
    ∃ ordered : ResultSet, ((q.orderedBy selector).fetch line).1 = .ok ⟨f.table, ordered⟩ ∧
      ordered.columns = f.result.columns ∧
      IsSortedBy .ascending (cell f.result.columns · column) f.result.rows ordered.rows ∧
      ∀ line' : Line Engine, line'.view = line.view →
        ((q.selecting selector).aggregate .min line').1 =
            .ok ((ordered.there column).head?.getD .null) ∧
          ((q.selecting selector).aggregate .max line').1 =
            .ok ((ordered.there column).getLast?.getD .null) ∧
          (((q.selecting selector).aggregate .min line').1 = .ok .null ↔
            ∀ v ∈ f.result.cells column, v = .null) ∧
          (((q.selecting selector).aggregate .max line').1 = .ok .null ↔
            ∀ v ∈ f.result.cells column, v = .null) := by
  obtain ⟨hpending, -⟩ := fetch_ok_iff.mp hfetch
  obtain ⟨name, t, hreads, hresult, hused⟩ := exists_reads_of_fetch hfilters hc hnamed hfetch htable
  rw [hresult] at hcolumn hranked ⊢
  have hboth : ∀ name ∈ c.columnsUsed, IsBracketable name ∧ name ∈ t.columns :=
    fun name hname => ⟨hnamed name hname, hused name hname⟩
  obtain ⟨rows, hordered, hsorted⟩ := exists_fetch_orderedBy hfilters hc hboth hselector
    ⟨hbracketable, hcolumn⟩ hranked hpending hreads
  refine ⟨⟨t.columns, rows⟩, hordered, rfl, hsorted, fun line' hview => ?_⟩
  have hends := fun direction => aggregate_extremum hfilters hc hboth hselector
    ⟨hbracketable, hcolumn⟩ hranked hreads hsorted direction
    (hview.trans (Prod.ext rfl hpending : line.view = (line.backend.workbook, none)))
  -- the same cells are there in either order of the rows
  have hmissing : ∀ direction : Direction,
      ((q.selecting selector).aggregate direction.extremum line').1 = .ok .null ↔
        ∀ v ∈ ResultSet.cells ⟨t.columns, filterRows t c.condition?⟩ column, v = .null := by
    intro direction
    rw [hends direction, Except.ok.injEq, end?_there_eq_null_iff]
    have hcells := hsorted.perm.map (cell t.columns · column)
    exact forall_congr' fun v => imp_congr_left hcells.mem_iff
  exact ⟨hends .ascending, hends .descending, hmissing .ascending, hmissing .descending⟩

end Query

/-- The ages of the guests. -/
def age : Expr :=
  .ofColumn (.named "Age")

theorem extremes_of_ordered_guests :
    ((allGuests.orderedBy age).fetch guests).1 =
        .ok ⟨⟨some "Guests", none, none⟩, ["Name", "Age"], [[.text "Bob", .null],
          [.text "Cid", .int 9], [.text "Ann", .int 31], [.text "", .int 40]]⟩ ∧
      ((allGuests.selecting age).aggregate .min guests).1 = .ok (.int 9) ∧
      ((allGuests.selecting age).aggregate .max guests).1 = .ok (.int 40) := by
  have hfetch : (allGuests.fetch guests).1 = .ok ⟨⟨some "Guests", none, none⟩, ["Name", "Age"],
      [[.text "Ann", .int 31], [.text "", .int 40], [.text "Bob", .null],
        [.text "Cid", .int 9]]⟩ := rfl
  have hordered : ((allGuests.orderedBy age).fetch guests).1 =
      .ok ⟨⟨some "Guests", none, none⟩, ["Name", "Age"], [[.text "Bob", .null],
        [.text "Cid", .int 9], [.text "Ann", .int 31], [.text "", .int 40]]⟩ := rfl
  have hage : Expr.Names allGuests.source.mapper allGuests.model.shape age "Age" :=
    .named "Age" (by decide)
  obtain ⟨ordered, hfetched, -, -, hends⟩ := Query.extremes_of_ordered ⟨rfl, rfl⟩
    (show allGuests.clauses = .ok .all from rfl) (by decide) hfetch (by decide) hage (by decide)
    (by decide) (by exact areRanked_ages)
  cases hfetched.symm.trans hordered
  exact ⟨hordered, (hends guests rfl).1, (hends guests rfl).2.1⟩

/-- A row in which a column has no value, under a name that ends in the middle of a quotation, and
the column that is asked about under a name that closes it. -/
def quoted : Line Engine :=
  .ofBackend (.ofWorkbook (Workbook.empty.addSheet "Sheet1" ["x] <> '", "') ORDER BY [y", "x", "y"]
    [[.null, .int 5, .text "t", .int 1]]))

/-- The rows without a value in the first column. -/
def withoutFirst : Query :=
  ⟨⟨"book.xls", .worksheet none, true, .empty, .standard⟩, .row,
    .filtered .row [.binary (.compare .eq) (.ofColumn (.named "x] <> '")) (.literal .null)]⟩

/-- The column that is asked about. -/
def closing : Expr :=
  .ofColumn (.named "') ORDER BY [y")

/-- **An order may be read where an extremum is not**: the text that orders by the column closes the
quotation that the filter opens, and the text that asks for the least value does not. -/
theorem extremum_misread :
    ¬ ∀ (q : Query) (c : Clauses) (line : Line Engine) (selector : Expr) (column : String)
      (ordered : Fetched), q.model.OnlyFilters → q.clauses = .ok c →
        selector.Names q.source.mapper q.model.shape column →
          ((q.orderedBy selector).fetch line).1 = .ok ordered → column ∈ ordered.result.columns →
            Value.AreRanked (ordered.result.cells column) →
              ((q.selecting selector).aggregate .min line).1 =
                .ok ((ordered.result.there column).head?.getD .null) := by
  intro h
  have hordered : ((withoutFirst.orderedBy closing).fetch quoted).1 =
      .ok ⟨⟨some "Sheet1", none, none⟩, ["x] <> '", "') ORDER BY [y", "x", "y"],
        [[.null, .int 5, .text "t", .int 1]]⟩ := rfl
  have hfails : ((withoutFirst.selecting closing).aggregate .min quoted).1.isOk = false := by
    decide +kernel
  have hclaimed := h withoutFirst _ quoted closing _ _ ⟨rfl, rfl⟩ rfl
    (.named "') ORDER BY [y" nofun) hordered (by decide)
    ⟨.integer, rfl, fun v hv => .inr (List.mem_singleton.mp hv ▸ .integer 5)⟩
  rw [hclaimed] at hfails
  cases hfails

end SheetQuery
