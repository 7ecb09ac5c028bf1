import SheetQuery.Proofs.Filter.Complement
import SheetQuery.Proofs.Session.Counting
import SheetQuery.Proofs.Session.Filtering

/-!
# Counting a predicate and its negation

A filter more on a query takes rows away and changes nothing else about it. So the rows of a query
split into those under a predicate and those under its negation, and the two counts add up to the
count without either. The rows in which a test for emptiness meets an empty text are in both parts
and are counted twice.

Main statement: `Query.count_complement`. That the counts may add up to more is
`count_complement_exceeds`.
-/

namespace SheetQuery

open Sql

/-! ## A filter more -/

section Narrowing

variable {mapper : Mapper} {m m' : Model} {c c' filtered filtered' ordered : Clauses} {e : Expr}
  {f : Filter}

theorem Model.predicates_withFilter (m : Model) (e : Expr) :
    (m.withClause (.filter e)).predicates = m.predicates ++ [e] := by
  simp [predicates, withClause]

theorem Model.leadingKey?_withFilter (m : Model) (e : Expr) :
    (m.withClause (.filter e)).leadingKey? = m.leadingKey? := by
  simp [leadingKey?, withClause]

namespace Clauses

/-- The clauses ask for the same order, and for those of the rows that the filter keeps. -/
structure Narrows (f : Filter) (c c' : Clauses) : Prop where
  filter : c'.filter = some (match c.filter with
    | some filter => .and filter f
    | none => f)
  orderBy : c'.orderBy = c.orderBy

theorem withPredicates_withFilter (h : all.withPredicates mapper m = .ok filtered)
    (hf : Filter.ofExpr mapper m.shape e = .ok f) :
    ∃ filtered', all.withPredicates mapper (m.withClause (.filter e)) = .ok filtered' ∧
      Narrows f filtered filtered' := by
  have hpredicates := m.predicates_withFilter e
  rcases withPredicates_cases h with ⟨hnone, rfl⟩ | ⟨first, rest, filter, hsome, hfilter, rfl⟩
  · rw [hnone] at hpredicates
    exact ⟨_, withPredicates_cons hpredicates hf, rfl, rfl⟩
  · rw [hsome] at hpredicates
    have hboth : Filter.ofExpr mapper m.shape ((rest ++ [e]).foldl Expr.and first) =
        .ok (.and filter f) := by
      rw [List.foldl_append, List.foldl_cons, List.foldl_nil, Expr.and, Filter.ofExpr, hfilter, hf]
      rfl
    exact ⟨_, withPredicates_cons hpredicates hboth, rfl, rfl⟩

theorem Narrows.withOrdering (h : Narrows f filtered filtered')
    (horder : filtered.withOrdering mapper m = .ok ordered)
    (hkey : m'.leadingKey? = m.leadingKey?) (hshape : m'.shape = m.shape) :
    ∃ ordered', filtered'.withOrdering mapper m' = .ok ordered' ∧ Narrows f ordered ordered' := by
  rcases withOrdering_cases horder with ⟨hnone, rfl⟩ | ⟨key, column, hsome, hnames, rfl⟩
  · refine ⟨filtered', ?_, h⟩
    rw [Clauses.withOrdering, hkey, hnone]
  · refine ⟨{ filtered' with orderBy := some (column, key.direction),
                             columnsUsed := useColumn filtered'.columnsUsed column }, ?_,
      h.filter, rfl⟩
    unfold Clauses.withOrdering
    rw [hkey, hsome]
    simp only [hshape, Expr.resolveColumn_of_names hnames]
    rfl

theorem Narrows.keeps (h : Narrows f c c') (columns : List String) (row : List Value) :
    c'.keeps columns row = (c.keeps columns row && f.condition.holds columns row) := by
  simp only [Clauses.keeps, condition?, h.filter]
  cases c.filter with
  | none => exact (Bool.true_and _).symm
  | some filter => rfl

end Clauses

/-- **A filter more narrows the rows**, and no part of the query is turned down for it. -/
theorem exists_compile_withFilter (h : compile mapper m = .ok c)
    (hf : Filter.ofExpr mapper m.shape e = .ok f) :
    ∃ c', compile mapper (m.withClause (.filter e)) = .ok c' ∧ c.Narrows f c' := by
  obtain ⟨hjoins, filtered, hfilter, ordered, horder, hrun⟩ := compile_eq_ok_iff.mp h
  have hjoins' : rejectJoins (m.withClause (.filter e)).body = .ok () := by
    rw [rejectJoins_ok_iff] at hjoins ⊢
    intro clause hclause
    rcases List.mem_append.mp hclause with hclause | hclause
    · exact hjoins clause hclause
    · rw [List.mem_singleton.mp hclause]
      nofun
  obtain ⟨filtered', hfilter', hnarrows⟩ := Clauses.withPredicates_withFilter hfilter hf
  obtain ⟨ordered', horder', hnarrows⟩ :=
    hnarrows.withOrdering horder (m.leadingKey?_withFilter e) rfl
  -- operators look at the selector and the shape only, which are the same
  obtain ⟨c', hrun'⟩ : ∃ c', m.operators.foldlM
      (Clauses.withOperator mapper (m.withClause (.filter e))) ordered' = .ok c' :=
    Clauses.foldlM_withOperator_ok_iff.mpr (Clauses.foldlM_withOperator_ok_iff.mp ⟨c, hrun⟩)
  obtain ⟨-, hkept, hsort, -⟩ := Clauses.foldlM_withOperator_cases hrun
  obtain ⟨-, hkept', hsort', -⟩ := Clauses.foldlM_withOperator_cases hrun'
  refine ⟨c', compile_eq_ok_iff.mpr ⟨hjoins', filtered', hfilter', ordered', horder', hrun'⟩, ?_⟩
  exact ⟨by rw [hkept', hkept, hnarrows.filter], by rw [hsort', hsort, hnarrows.orderBy]⟩

end Narrowing

/-! ## Counting rows -/

/-- The clauses name columns of a table only, and their names can be written. -/
structure Clauses.FitsIn (c : Clauses) (columns : List String) : Prop where
  filter : ∀ filter, c.filter = some filter →
    ∀ name ∈ filter.columns, name ∈ columns ∧ IsBracketable name
  orderBy : ∀ column direction, c.orderBy = some (column, direction) →
    column ∈ columns ∧ IsBracketable column

/-- The rows that a statement is about are there where its columns are. -/
theorem Clauses.FitsIn.exists_sourceRows {c : Clauses} {t : ResultSet} (h : c.FitsIn t.columns)
    (selection : Selection) (name : String) :
    ∃ rows, Statement.sourceRows ⟨selection, name, c.condition?, c.orderBy⟩ t = .ok rows := by
  have hnames : checkNames t ((c.condition?.map Condition.columns).getD []) = .ok () :=
    checkNames_eq_ok (forall_condition? fun filter hfilter column hcolumn =>
      (h.filter filter hfilter column hcolumn).1)
  unfold Statement.sourceRows
  rw [hnames, ok_bind]
  cases horder : c.orderBy with
  | none => exact ⟨_, rfl⟩
  | some ordering =>
      obtain ⟨column, direction⟩ := ordering
      obtain ⟨i, hi⟩ := exists_position (h.orderBy column direction horder).1
      exact ⟨_, bind_eq_ok_iff.mpr ⟨i, hi, rfl⟩⟩

/-- Over a table with its columns, what is counted is how many rows are kept. -/
theorem Clauses.FitsIn.evaluate_count {c : Clauses} {t : ResultSet} (h : c.FitsIn t.columns)
    (name : String) : Statement.evaluate ⟨.count, name, c.condition?, c.orderBy⟩ t =
      .ok (.single computedColumn (.int (Int64.ofNat (t.rows.countP (c.keeps t.columns))))) := by
  obtain ⟨rows, hrows⟩ := h.exists_sourceRows .count name
  have hlength : rows.length = t.rows.countP (c.keeps t.columns) := by
    rw [(Statement.sourceRows_perm hrows).length_eq, c.filterRows_eq, List.countP_eq_length_filter]
  rw [Statement.evaluate, hrows, ok_bind, ← hlength]
  rfl

/-- A filter over columns of the table can be added. -/
theorem Clauses.FitsIn.narrowed {c c' : Clauses} {f : Filter} {columns : List String}
    (h : c.FitsIn columns) (hnarrows : c.Narrows f c')
    (hf : ∀ column ∈ f.columns, column ∈ columns ∧ IsBracketable column) : c'.FitsIn columns := by
  refine ⟨fun filter hfilter name hname => ?_, fun column direction horder =>
    h.orderBy column direction (hnarrows.orderBy ▸ horder)⟩
  rw [hnarrows.filter, Option.some.injEq] at hfilter
  subst hfilter
  cases hkept : c.filter with
  | none =>
      rw [hkept] at hname
      exact hf name hname
  | some kept =>
      rw [hkept] at hname
      exact (List.mem_append.mp hname).elim (h.filter kept hkept name) (hf name)

theorem Clauses.FitsIn.isWritable {c : Clauses} {columns : List String} (h : c.FitsIn columns)
    (hselection : c.selection.IsWritable) : c.IsWritable :=
  ⟨hselection, fun filter hf name hname => (h.filter filter hf name hname).2,
    fun column direction ho => (h.orderBy column direction ho).2⟩

namespace Query

/-- The query counts that many over the workbook, at any time no failure is set up. -/
def Counts (q : Query) (w : Workbook) (n : Nat) : Prop :=
  ∀ line : Line Engine, line.view = (w, none) → (q.count line).1 = .ok n

variable {q : Query} {w : Workbook} {table : Table} {name : String} {t : ResultSet} {c : Clauses}

/-- **A query counts the rows that its condition keeps**, under whatever operators and in whatever
order it asks for them. -/
theorem counts_of_fitsIn (hreads : q.source.Reads w table name t) (hsmall : t.rows.length < 2 ^ 63)
    (hc : q.clauses = .ok c) (hfits : c.FitsIn t.columns) :
    q.Counts w (t.rows.countP (c.keeps t.columns)) := by
  intro line hview
  obtain ⟨hworkbook, hpending⟩ := Prod.mk.inj hview
  have hclauses : (q.withOperator .count).clauses = .ok { c with selection := .count } :=
    (compile_withOperator _ _ _).trans (bind_eq_ok_iff.mpr ⟨c, hc, rfl⟩)
  have hcounting : Clauses.FitsIn { c with selection := .count } t.columns :=
    ⟨hfits.filter, hfits.orderBy⟩
  have hanswer : Engine.answer w q.source.hasHeader
      (({ c with selection := .count } : Clauses).render table) = .ok (.single
        Sql.computedColumn (.int (Int64.ofNat (t.rows.countP (c.keeps t.columns))))) := by
    rw [Engine.answer_eq (hcounting.isWritable trivial) hreads.clause hreads.isBracketable
      hreads.shown]
    exact hfits.evaluate_count name
  have hfetch : ((q.withOperator .count).fetch line).1 = .ok ⟨table, .single Sql.computedColumn
      (.int (Int64.ofNat (t.rows.countP (c.keeps t.columns))))⟩ := by
    refine fetch_ok_iff.mpr ⟨hpending, _, hclauses, ?_⟩
    rw [hworkbook]
    exact ⟨hreads.resolved, hanswer, rfl⟩
  have hscalar : ((q.withOperator .count).scalar line).1 =
      .ok (.int (Int64.ofNat (t.rows.countP (c.keeps t.columns)))) :=
    Action.bind_ok_iff.mpr ⟨_, materialized_ok_iff.mpr ⟨_, hfetch,
      Materializer.materialize_single rfl _ _⟩, rfl⟩
  have hlt : t.rows.countP (c.keeps t.columns) < 2 ^ 63 := List.countP_le_length.trans_lt hsmall
  refine Action.bind_ok_iff.mpr ⟨_, hscalar, Action.bind_ok_iff.mpr ⟨_, rfl, ?_⟩⟩
  show checkCount _ = _
  rw [checkCount, Int64.toInt_ofNat_of_lt hlt, if_pos (Int.natCast_nonneg _)]
  rfl

/-- The clauses of a query fit a table with all columns that they use. -/
theorem fitsIn_of_columnsUsed (hc : q.clauses = .ok c) {columns : List String}
    (h : ∀ column ∈ c.columnsUsed, column ∈ columns ∧ IsBracketable column) : c.FitsIn columns :=
  ⟨fun filter hf name hname => h name ((isCovered_of_compile hc).filter filter hf name hname),
    fun column direction ho => h column ((isCovered_of_compile hc).orderBy column direction ho)⟩

/-- Under a filter more a query counts those of its rows that the filter keeps. -/
theorem counts_filtered (hreads : q.source.Reads w table name t) (hsmall : t.rows.length < 2 ^ 63)
    (hc : q.clauses = .ok c) (hfits : c.FitsIn t.columns) {e : Expr} {f : Filter}
    (hf : Filter.ofExpr q.source.mapper q.model.shape e = .ok f)
    (hcolumns : ∀ column ∈ f.columns, column ∈ t.columns ∧ IsBracketable column) :
    (q.filtered [e]).Counts w
      (t.rows.countP fun row => c.keeps t.columns row && f.condition.holds t.columns row) := by
  obtain ⟨c', hc', hnarrows⟩ := exists_compile_withFilter hc hf
  have hcounts := counts_of_fitsIn (q := q.filtered [e]) hreads hsmall hc'
    (hfits.narrowed hnarrows hcolumns)
  simpa only [funext (hnarrows.keeps t.columns)] using hcounts

/-- Elements with one of two properties and with the other one, where each has one at least: those
with both are counted twice. -/
theorem countP_add_countP {α : Type} (kept first second : α → Bool)
    (h : ∀ x, (first x || second x) = true) (xs : List α) :
    (xs.countP fun x => kept x && first x) + (xs.countP fun x => kept x && second x) =
      xs.countP kept + xs.countP fun x => kept x && (first x && second x) := by
  induction xs with
  | nil => rfl
  | cons x xs ih =>
      have hhead : (if kept x && first x then 1 else 0) + (if kept x && second x then 1 else 0) =
          (if kept x then 1 else 0) + if kept x && (first x && second x) then 1 else 0 := by
        have hx := h x
        revert hx
        cases kept x <;> cases first x <;> cases second x <;> decide
      simp only [List.countP_cons]
      omega

/-- **A predicate and its negation.** With a predicate its negation can be carried by statements as
well. Each row is kept by one of the two filters, and by both exactly where the predicate is a test
for emptiness and meets an empty text. So over a table with all columns that are used, the count of
a query under the predicate and that under its negation add up to the count of the query, with the
rows that both keep counted twice. -/
theorem count_complement {e : Expr} {f : Filter}
    (hf : Filter.ofExpr q.source.mapper q.model.shape e = .ok f) :
    ∃ g, Filter.ofExpr q.source.mapper q.model.shape (.not e) = .ok g ∧
      (∀ columns row,
        (f.condition.holds columns row || g.condition.holds columns row) = true ∧
        ((f.condition.holds columns row && g.condition.holds columns row) = true ↔
          ∃ column, e.TestsEmptiness q.source.mapper q.model.shape column ∧
            cell columns row column = .text "")) ∧
      ∀ w table name t c, q.source.Reads w table name t → t.rows.length < 2 ^ 63 →
        q.clauses = .ok c →
          (∀ column ∈ c.columnsUsed ++ f.columns, column ∈ t.columns ∧ IsBracketable column) →
            ∃ n a b, q.Counts w n ∧ (q.filtered [e]).Counts w a ∧
              (q.filtered [.not e]).Counts w b ∧
              a + b = n + t.rows.countP fun row => c.keeps t.columns row &&
                (f.condition.holds t.columns row && g.condition.holds t.columns row) := by
  obtain ⟨g, hg, hgcolumns, hrows⟩ := Filter.exists_complement hf
  refine ⟨g, hg, hrows, fun w table name t c hreads hsmall hc hcolumns => ?_⟩
  obtain ⟨hused, hf_columns⟩ := List.forall_mem_append.mp hcolumns
  have hfits := fitsIn_of_columnsUsed hc hused
  exact ⟨_, _, _, counts_of_fitsIn hreads hsmall hc hfits,
    counts_filtered hreads hsmall hc hfits hf hf_columns,
    counts_filtered hreads hsmall hc hfits hg (hgcolumns ▸ hf_columns),
    countP_add_countP _ _ _ (fun row => (hrows t.columns row).1) t.rows⟩

end Query

/-- A guest without a name, or with an empty one. -/
def unnamed : Expr :=
  .test .isNullOrEmpty (.ofColumn (.named "Name")) none

theorem count_complement_guests :
    ∃ a b, (allGuests.filtered [unnamed]).Counts guests.backend.workbook a ∧
      (allGuests.filtered [.not unnamed]).Counts guests.backend.workbook b ∧ a + b = 4 + 1 := by
  have hf : Filter.ofExpr allGuests.source.mapper allGuests.model.shape unnamed =
      .ok (.isEmpty "Name") := rfl
  obtain ⟨g, hg, -, hcounts⟩ := Query.count_complement hf
  obtain ⟨n, a, b, hn, ha, hb, hsum⟩ :=
    hcounts _ _ _ _ .all reads_guests (by decide) rfl (by decide)
  have hfour : (allGuests.count guests).1 = .ok 4 := rfl
  obtain rfl : n = 4 := Except.ok.inj ((hn guests rfl).symm.trans hfour)
  cases hg
  exact ⟨a, b, ha, hb, hsum⟩

/-- **A predicate and its negation may keep the same row**: the guest whose name is empty is counted
as unnamed and as not unnamed. -/
theorem count_complement_exceeds :
    ¬ ∀ (q : Query) (line : Line Engine) (table : Table) (name : String) (t : ResultSet) (e : Expr)
      (f : Filter) (n a b : Nat), q.source.Reads line.backend.workbook table name t →
        Filter.ofExpr q.source.mapper q.model.shape e = .ok f →
          (∀ column ∈ f.columns, column ∈ t.columns ∧ IsBracketable column) →
            (q.count line).1 = .ok n → ((q.filtered [e]).count line).1 = .ok a →
              ((q.filtered [.not e]).count line).1 = .ok b → a + b = n := by
  intro h
  have hclaimed := h allGuests guests _ _ _ unnamed (.isEmpty "Name") 4 1 4 reads_guests rfl
    (by decide) rfl rfl rfl
  exact absurd hclaimed (by decide)

end SheetQuery
