import SheetQuery.Proofs.Materialize.Cells
import SheetQuery.Proofs.Session.Covering
import SheetQuery.Proofs.Session.Paging
import SheetQuery.Proofs.Sql.Occurrences

/-!
# Counting

A query is counted by the source, and nothing of its other operators is left in the statement that
does so: the count is that of the rows the query is about. A list of its items is shorter, by what
taking, skipping and asking for different values leave away.

Main statement: `Query.eq_remaining_of_count`. That a count is not the length of the list is
`count_ne_length`.
-/

namespace SheetQuery

open Sql

/-! ## How many are left -/

namespace Operator

/-- The operator picks some of what is there. -/
inductive Picks : Operator → Prop where
  | take (n : Nat) : Picks (.take n)
  | skip (n : Nat) : Picks (.skip n)
  | reverse : Picks .reverse
  | distinct : Picks .distinct

/-- How many rows are asked for behind the operator, of `n` rows with `d` different values. -/
def asking (n d asked : Nat) : Operator → Nat
  | .take k => Nat.min k n
  | .distinct => d
  | _ => asked

/-- How many items the operator drops. -/
def dropped : Operator → Nat
  | .skip k => k
  | _ => 0

end Operator

/-- How many items the operators drop together. -/
def skipped : List Operator → Nat
  | [] => 0
  | operator :: rest => operator.dropped + skipped rest

/-- What operators leave of `n` rows with `d` different values: the last one that asks for a number
of rows or for different values decides how many come back, and all that is skipped goes off that.
-/
def remaining (operators : List Operator) (n d : Nat) : Nat :=
  operators.foldl (fun asked operator => operator.asking n d asked) n -
    skipped operators

/-- Only skipping makes a list of items shorter. By induction on the operators. -/
theorem Model.length_onItems {α : Type} (m : Model) (items : List α) :
    (m.onItems items).length = items.length - skipped m.operators := by
  unfold onItems
  induction m.operators generalizing items with
  | nil => rfl
  | cons operator rest ih =>
      have hstep : (operator.onItems items).length = items.length - operator.dropped := by
        cases operator with
        | skip k => exact List.length_drop
        | reverse => exact List.length_reverse
        | _ => rfl
      rw [List.foldl_cons, ih, hstep, skipped, Nat.sub_sub]

/-- The number of rows that a selection makes of `n` rows with `d` different values. -/
def Sql.Selection.rowCount (n d : Nat) : Selection → Nat
  | .all => n
  | .top k => Nat.min k n
  | .distinct _ => d
  | .count | .aggregate .. => 1

/-- By induction on the operators, each of which that picks rows sets the selection anew. -/
theorem rowCount_of_foldlM {mapper : Mapper} {m : Model} {n d : Nat} {operators : List Operator}
    {c c' : Clauses} (hpicks : ∀ operator ∈ operators, operator.Picks)
    (h : operators.foldlM (Clauses.withOperator mapper m) c = .ok c') :
    c'.selection.rowCount n d =
      operators.foldl (fun asked operator => operator.asking n d asked)
        (c.selection.rowCount n d) := by
  induction operators generalizing c with
  | nil =>
      cases h
      rfl
  | cons operator rest ih =>
      rw [List.foldlM_cons] at h
      obtain ⟨c₁, hstep, hrest⟩ := bind_eq_ok_iff.mp h
      obtain ⟨hpick, hpicks⟩ := List.forall_mem_cons.mp hpicks
      rw [List.foldl_cons, ih hpicks hrest]
      congr 1
      rcases Clauses.withOperator_cases hstep with ⟨hlocal, rfl⟩ | ⟨selection, hselects, rfl⟩
      · cases hlocal <;> rfl
      · cases hselects with
        | take k => rfl
        | distinct hcolumn => rfl
        | _ => cases hpick

theorem rowCount_of_compile {mapper : Mapper} {m : Model} {n d : Nat} {c : Clauses}
    (hpicks : ∀ operator ∈ m.operators, operator.Picks) (h : compile mapper m = .ok c) :
    c.selection.rowCount n d =
      m.operators.foldl (fun asked operator => operator.asking n d asked) n := by
  obtain ⟨body, hall, hbody⟩ := exists_body_of_compile h
  rw [rowCount_of_foldlM hpicks ((hbody m.operators).symm.trans h), hall]
  rfl

/-- Operators that pick ask for whole rows or for different values. -/
theorem selection_of_picks {mapper : Mapper} {m : Model} {c : Clauses}
    (hpicks : ∀ operator ∈ m.operators, operator.Picks) (h : compile mapper m = .ok c) :
    c.selection.isWholeRow = true ∨ ∃ column, c.selection = .distinct column := by
  have hlast := (asks_of_compile h).selection
  generalize c.selection = selection at hlast ⊢
  cases hlast with
  | kept hlocal => exact Or.inl rfl
  | @set before after operator selection heq hselects hafter =>
      have hpick := hpicks operator (heq ▸ List.mem_append_right _ List.mem_cons_self)
      cases hpick with
      | take n =>
          cases hselects
          exact Or.inl rfl
      | distinct =>
          cases hselects
          exact Or.inr ⟨_, rfl⟩
      | skip n => cases hselects
      | reverse => cases hselects

/-- Whole rows come back as often as they are selected. -/
theorem length_of_select {t r : ResultSet} {rows : List (List Value)} {selection : Selection}
    {d : Nat} (hwhole : selection.isWholeRow = true)
    (h : Statement.select t rows selection = .ok r) :
    r.rows.length = selection.rowCount rows.length d := by
  cases selection with
  | all =>
      cases h
      rfl
  | top k =>
      cases h
      exact List.length_take
  | _ => cases hwhole

/-! ## The count -/

/-- One value in a column of the source's own is taken for what it is. -/
theorem Materializer.materialize_single {m : Materializer} {name : String}
    (h : m.scalarColumn = name) (type : ItemType) (v : Value) :
    m.materialize type (ResultSet.single name v).columns (ResultSet.single name v).rows =
      .ok (.scalar v) :=
  materialize_alone (congrArg ([·]) h.symm)

namespace Query

variable {q : Query} {w : Workbook} {t : Table} {whole : ResultSet}

theorem Covers.length_lt (hw : w.IsCountable) (h : q.Covers w t whole) :
    whole.rows.length < 2 ^ 63 := by
  obtain ⟨operators, c, -, selection, s, data, -, -, hdata, hrows, -⟩ := h.leaves
  exact (Statement.length_sourceRows_le hrows).trans_lt (Workbook.length_lt_of_table hw hdata)

/-- A count is read off what the query fetches with the number of its rows selected. -/
theorem exists_fetch_of_count {line : Line Engine} {n : Nat} (h : (q.count line).1 = .ok n) :
    ∃ c f v i, q.clauses = .ok c ∧
      (q.withOperator .count).clauses = .ok { c with selection := .count } ∧
      ((q.withOperator .count).fetch line).1 = .ok f ∧
      (q.materializer f.table Sql.computedColumn).materialize q.type f.result.columns
        f.result.rows = .ok (.scalar v) ∧
      toCount v = .ok i ∧ checkCount i = .ok n := by
  obtain ⟨v, hscalar, h⟩ := Action.bind_ok_iff.mp h
  obtain ⟨made, hmade, hv⟩ := Action.bind_ok_iff.mp hscalar
  obtain ⟨f, hfetch, hmaterialize⟩ := materialized_ok_iff.mp hmade
  obtain ⟨-, counting, hcounting, -⟩ := fetch_ok_iff.mp hfetch
  obtain ⟨c, hc, hcount⟩ := bind_eq_ok_iff.mp ((compile_withOperator _ _ _).symm.trans hcounting)
  cases hcount
  obtain ⟨i, hi, hn⟩ := Action.ofExcept_bind_ok_iff.mp h
  cases made with
  | items found => cases hv
  | scalar value =>
      cases hv
      exact ⟨c, f, v, i, hc, hcounting, hfetch, hmaterialize, hi, hn⟩

/-- **A count is that of the rows the query is about**, under whatever operators it is counted. -/
theorem covers_of_count {operators : List Operator} {line : Line Engine} {n : Nat}
    (hw : line.view.1.IsCountable) (h : ((q.under operators).count line).1 = .ok n) :
    ∃ t whole, q.Covers line.view.1 t whole ∧ whole.rows.length = n := by
  obtain ⟨c, f, v, i, -, hc, hfetch, hmade, hi, hn⟩ := exists_fetch_of_count h
  -- the counting operator is the last, so nothing else is selected
  have hfetched : ((q.under (operators ++ [.count])).fetch line).1 = .ok f := hfetch
  obtain ⟨whole, hcovers, hselect, -⟩ := covers_of_fetch (q := q) hc nofun hfetched
  have hresult : f.result = .single Sql.computedColumn (.int (Int64.ofNat whole.rows.length)) :=
    (Except.ok.inj hselect).symm
  rw [hresult] at hmade
  cases hmade.symm.trans (Materializer.materialize_single rfl _ _)
  cases hi
  have hword := Int64.toInt_ofNat_of_lt (hcovers.length_lt hw)
  rw [checkCount, hword, if_pos (Int.natCast_nonneg _)] at hn
  exact ⟨f.table, whole, hcovers, Except.ok.inj hn⟩

end Query

/-! ## Lengths of lists -/

/-- The number of elements of the list that the query, or its selection, is finished as. -/
inductive Query.Gives (q : Query) (line : Line Engine) : Nat → Prop where
  | items {items : List Item} (hdistinct : q.model.hasDistinct = false)
      (h : (q.items line).1 = .ok items) : Gives q line items.length
  | values {values : List Value} (h : (q.values line).1 = .ok values) : Gives q line values.length

namespace Query

variable {q : Query} {line : Line Engine} {k : Nat}

/-- How many rows make an item or a value: for different values, those with a first cell. -/
def counted (q : Query) (rows : List (List Value)) : Nat :=
  if q.model.hasDistinct then (rows.filterMap List.head?).length else rows.length

theorem counted_of_distinct (h : q.model.hasDistinct = true) (rows : List (List Value)) :
    q.counted rows = (rows.filterMap List.head?).length := by
  rw [counted, if_pos h]

theorem counted_of_not_distinct (h : q.model.hasDistinct = false) (rows : List (List Value)) :
    q.counted rows = rows.length := by
  rw [counted, if_neg (Bool.eq_false_iff.mp h)]

/-- A list has an element for each row that came back, less those that are skipped. -/
theorem Gives.exists_fetch (h : q.Gives line k) : ∃ f, (q.fetch line).1 = .ok f ∧
    k = q.counted f.result.rows - skipped q.model.operators := by
  have hitems : ∀ items, q.model.hasDistinct = false → (q.items line).1 = .ok items →
      ∃ f, (q.fetch line).1 = .ok f ∧
        items.length = q.counted f.result.rows - skipped q.model.operators := by
    intro items hdistinct h
    obtain ⟨hpending, c, f, found, hfinds, rfl⟩ := items_ok_iff.mp h
    refine ⟨f, fetch_ok_iff.mpr ⟨hpending, c, hfinds.clauses, hfinds.brings⟩, ?_⟩
    rw [counted_of_not_distinct hdistinct, Model.length_onItems,
      Materializer.length_of_materialize hfinds.made]
  cases h with
  | items hdistinct h => exact hitems _ hdistinct h
  | values h =>
      cases hdistinct : q.model.hasDistinct with
      | true =>
          rw [values_of_distinct hdistinct] at h
          obtain ⟨f, read, hfetch, hread, rfl⟩ := distinctValues_ok_iff.mp h
          refine ⟨f, hfetch, ?_⟩
          rw [counted_of_distinct hdistinct, Model.length_onItems,
            Materializer.length_of_distinctValues hread]
      | false =>
          rw [values_of_not_distinct hdistinct] at h
          obtain ⟨projector, items, -, h, hvalues⟩ := projectedValues_ok_iff.mp h
          rw [← (mapM_eq_ok_iff.mp hvalues).length_eq]
          exact hitems items hdistinct h

/-- A query that ends up asking for different values fetches what it does when it asks for them
alone. -/
theorem fetch_under_distinct {f : Fetched} {c : Clauses} {column : String}
    (hc : q.clauses = .ok c) (hselection : c.selection = .distinct column)
    (h : (q.fetch line).1 = .ok f) : ((q.under [.distinct]).fetch line).1 = .ok f := by
  obtain ⟨hpending, c₁, hc₁, hbrings⟩ := fetch_ok_iff.mp h
  obtain rfl := Except.ok.inj (hc₁.symm.trans hc)
  obtain ⟨hcolumn, hdistinct⟩ := selectsColumn_of_compile hc hselection
  obtain ⟨c₂, hc₂⟩ := exists_compile_distinct hc hdistinct
  obtain ⟨column₂, hcolumn₂, hselection₂⟩ :=
    selection_of_compile_distinct (m := { q.model with operators := [] }) hc₂
  obtain rfl : column₂ = column := Model.SelectsColumn.unique hcolumn₂ hcolumn
  have hown : compile q.source.mapper { q.model with operators := q.model.operators } = .ok c₁ := hc
  obtain ⟨hfilter, horder⟩ := alike_of_compile hown hc₂
  have hrender : c₂.render f.table = c₁.render f.table :=
    Engine.render_of_alike (hselection₂.trans hselection.symm) hfilter horder f.table
  refine fetch_ok_iff.mpr ⟨hpending, c₂, hc₂, hbrings.table, hrender ▸ hbrings.answer, ?_⟩
  rw [Source.checkUsed, hselection₂]
  rfl

/-- How many different values the query has in its selected column, and none where it cannot be
asked for them. -/
def distinctCount (q : Query) (line : Line Engine) : Nat :=
  ((((q.under [.distinct]).values line).1.toOption).map List.length).getD 0

theorem distinctCount_of_values {values : List Value}
    (h : ((q.under [.distinct]).values line).1 = .ok values) :
    q.distinctCount line = values.length := by
  rw [distinctCount, h]
  rfl

theorem distinctCount_le {t : Table} {whole : ResultSet}
    (hname : ∀ column, q.model.SelectsColumn q.source.mapper column → IsBracketable column)
    (h : q.Covers line.view.1 t whole) : q.distinctCount line ≤ whole.rows.length := by
  cases hvalues : ((q.under [.distinct]).values line).1 with
  | error e =>
      rw [distinctCount, hvalues]
      exact Nat.zero_le _
  | ok values =>
      rw [distinctCount_of_values hvalues]
      rw [values_of_distinct rfl] at hvalues
      obtain ⟨f, read, hfetch, hread, rfl⟩ := distinctValues_ok_iff.mp hvalues
      obtain ⟨-, c, hc, -⟩ := fetch_ok_iff.mp hfetch
      obtain ⟨column, hcolumn, hselection⟩ :=
        selection_of_compile_distinct (m := { q.model with operators := [] }) hc
      obtain ⟨whole', i, hcovers, -, hrows⟩ :=
        covers_of_fetch_distinct hc hfetch hselection (hname column hcolumn)
      obtain ⟨-, rfl⟩ := h.unique hcovers
      calc read.length = (f.result.rows.filterMap List.head?).length :=
            Materializer.length_of_distinctValues hread
        _ ≤ f.result.rows.length := List.length_filterMap_le _ _
        _ = (firstOccurrences [] (columnCells i whole'.rows)).length := by
            rw [hrows, List.length_map]
        _ ≤ (columnCells i whole'.rows).length := length_firstOccurrences_le _ _
        _ = whole'.rows.length := List.length_map _

/-- Whole rows that were asked for by a column have a first cell each. -/
theorem counted_of_isWholeRow {f : Fetched} {c : Clauses} (hc : q.clauses = .ok c)
    (hwhole : c.selection.isWholeRow = true) (hfetch : (q.fetch line).1 = .ok f) :
    q.counted f.result.rows = f.result.rows.length := by
  cases hdistinct : q.model.hasDistinct with
  | false => exact counted_of_not_distinct hdistinct _
  | true =>
      obtain ⟨-, c', hc', hbrings⟩ := fetch_ok_iff.mp hfetch
      obtain rfl := Except.ok.inj (hc'.symm.trans hc)
      obtain ⟨column, -, hused⟩ := exists_mem_columnsUsed hc (Model.hasDistinct_iff.mp hdistinct)
      have hcolumn := Source.mem_of_checkUsed hwhole hbrings.used hused
      rw [counted_of_distinct hdistinct,
        (Engine.answer_isRectangular hbrings.answer).filterMap_head? hcolumn]
      exact List.length_map _

/-- A list of different values has those that the column has, less what is skipped. -/
theorem Gives.of_selection_distinct {c : Clauses} {column : String} (hc : q.clauses = .ok c)
    (hselection : c.selection = .distinct column) (h : q.Gives line k) :
    k = q.distinctCount line - skipped q.model.operators := by
  have hdistinct : q.model.hasDistinct = true :=
    Model.hasDistinct_iff.mpr (selectsColumn_of_compile hc hselection).2
  cases h with
  | items hnone => exact absurd (hnone.symm.trans hdistinct) Bool.false_ne_true
  | values h =>
      rw [values_of_distinct hdistinct] at h
      obtain ⟨f, read, hfetch, hread, rfl⟩ := distinctValues_ok_iff.mp h
      have hunder := fetch_under_distinct hc hselection hfetch
      have hvalues : ((q.under [.distinct]).values line).1 = .ok read := by
        rw [values_of_distinct rfl]
        exact distinctValues_ok_iff.mpr ⟨f, read, hunder, hread, rfl⟩
      rw [distinctCount_of_values hvalues, Model.length_onItems]

/-- **A list is as long as its operators leave it**, of the rows that the query is about. -/
theorem Gives.eq_remaining (hq : ∀ operator ∈ q.model.operators, operator.Picks) {t : Table}
    {whole : ResultSet} (hcovers : q.Covers line.view.1 t whole) (h : q.Gives line k) :
    k = remaining q.model.operators whole.rows.length (q.distinctCount line) := by
  obtain ⟨f, hfetch, hk⟩ := h.exists_fetch
  obtain ⟨-, c, hc, -⟩ := fetch_ok_iff.mp hfetch
  have hcount := rowCount_of_compile (n := whole.rows.length) (d := q.distinctCount line) hq hc
  rw [remaining, ← hcount]
  rcases selection_of_picks hq hc with hwhole | ⟨column, hselection⟩
  · obtain ⟨whole', hcovers', hselect, -⟩ := covers_of_fetch_whole hc hfetch hwhole
    obtain ⟨-, rfl⟩ := hcovers.unique hcovers'
    rw [hk, counted_of_isWholeRow hc hwhole hfetch, length_of_select hwhole hselect]
  · rw [hselection]
    exact h.of_selection_distinct hc hselection

/-- **A count against a list.** The count of a query is the number `n` of the rows that it is about,
whatever its operators are. A list is what these leave of `n`, and the different values of a column
that a statement can name are `n` at most. The query may be finished in both ways at different
times, as long as the workbook is the same and no failure is set up. -/
theorem eq_remaining_of_count (hq : ∀ operator ∈ q.model.operators, operator.Picks)
    {line line' : Line Engine} (hview : line'.view = line.view) (hw : line.view.1.IsCountable)
    {operators : List Operator} {n : Nat} (hcount : ((q.under operators).count line).1 = .ok n) :
    (∃ t whole, q.Covers line.view.1 t whole ∧ whole.rows.length = n) ∧
      (∀ k, q.Gives line' k → k = remaining q.model.operators n (q.distinctCount line')) ∧
      ((∀ column, q.model.SelectsColumn q.source.mapper column → IsBracketable column) →
        q.distinctCount line' ≤ n) := by
  obtain ⟨t, whole, hcovers, rfl⟩ := covers_of_count hw hcount
  have hlater : q.Covers line'.view.1 t whole := hview ▸ hcovers
  exact ⟨⟨t, whole, hcovers, rfl⟩, fun k h => h.eq_remaining hq hlater,
    fun hname => distinctCount_le hname hlater⟩

end Query

/-- The different numbers of the worksheet, without the first. -/
def laterNumbers : Query :=
  { allRows with model := ⟨.headerless, some (.column mainSource (.positioned 0)), [],
    [.distinct, .skip 1]⟩ }

theorem eq_remaining_of_count_laterNumbers :
    (laterNumbers.count oneToThree).1 = .ok 3 ∧
      (laterNumbers.values oneToThree).1 = .ok [.int 2, .int 3] ∧
      2 = remaining laterNumbers.model.operators 3 (laterNumbers.distinctCount oneToThree) ∧
      laterNumbers.distinctCount oneToThree ≤ 3 := by
  have hpicks : ∀ operator ∈ laterNumbers.model.operators, operator.Picks := by
    rintro operator (_ | ⟨_, _ | ⟨_, ⟨⟩⟩⟩)
    · exact .distinct
    · exact .skip 1
  have hcountable : oneToThree.view.1.IsCountable := by
    intro sheet hsheet
    obtain rfl := List.mem_singleton.mp hsheet
    decide
  have hcount : (laterNumbers.count oneToThree).1 = .ok 3 := rfl
  have hvalues : (laterNumbers.values oneToThree).1 = .ok [.int 2, .int 3] := rfl
  have hunder : ((laterNumbers.under laterNumbers.model.operators).count oneToThree).1 = .ok 3 :=
    hcount
  obtain ⟨-, hlength, hdistinct⟩ := Query.eq_remaining_of_count hpicks rfl hcountable hunder
  refine ⟨hcount, hvalues, hlength _ (.values hvalues), hdistinct ?_⟩
  rintro column ⟨selector, hselector, hnames⟩
  cases hselector
  cases hnames
  exact isBracketable_positionName 0

/-- **A count is not the length of the list**: it is made before any row is taken. -/
theorem count_ne_length :
    ¬ ∀ (q : Query) (line : Line Engine) (items : List Item) (n : Nat),
      (∀ operator ∈ q.model.operators, operator.Picks) → (q.items line).1 = .ok items →
        (q.count line).1 = .ok n → n = items.length := by
  intro h
  have hpicks : ∀ operator ∈ [Operator.take 2], operator.Picks := by
    rintro operator (_ | ⟨_, ⟨⟩⟩)
    exact .take 2
  have hclaimed := h (allRows.under [.take 2]) oneToThree
    [.headerless [.int 1], .headerless [.int 2]] 3 hpicks rfl rfl
  exact absurd hclaimed (by decide)

end SheetQuery
