import SheetQuery.Proofs.Materialize.Converting
import SheetQuery.Proofs.Materialize.RoundTrip
import SheetQuery.Proofs.Session.Covering
import SheetQuery.Proofs.Session.Paging
import SheetQuery.Proofs.Sql.Occurrences

/-!
# Different values

Asked for different values, the source leaves out each cell that equals one before it, and only then
is the value of a cell made: cells that differ may come out as the same value. The values are read
from the first column that came back. That is the selected one as long as the statement still asks
for different values, but a number of rows that is asked for behind them takes their place in the
statement, and whole rows come back.

Main statements: `Query.pairwise_of_distinct` and `Query.mem_plain_of_distinct`. That different
values may be equal is `distinct_not_pairwise`, and that they may be from another column is
`distinct_not_mem_plain`.
-/

namespace SheetQuery

open Sql

/-! ## Cells of a column -/

/-- The cells of a column. -/
def ResultSet.cells (r : ResultSet) (name : String) : List Value :=
  r.rows.map (cell r.columns · name)

theorem position_of_head? {r : ResultSet} {name : String} (h : r.columns.head? = some name) :
    position r name = .ok 0 := by
  obtain ⟨rest, hcolumns⟩ := List.head?_eq_some_iff.mp h
  rw [position_ok_iff, hcolumns, List.findIdx?_cons, if_pos (beq_self_eq_true name)]

/-- The cells at the position of a column are those of the column. -/
theorem columnCells_eq {r : ResultSet} {name : String} {i : Nat} (h : position r name = .ok i) :
    columnCells i r.rows = r.cells name :=
  List.map_congr_left fun _ _ => (cell_of_position h).symm

/-! ## Operators that leave nothing to the items -/

namespace Operator

/-- The operator asks the source for some rows or for different values. -/
inductive Narrows : Operator → Prop where
  | take (n : Nat) : Narrows (.take n)
  | first : Narrows .first
  | distinct : Narrows .distinct

/-- The number of rows that the operator asks for. -/
def rowLimit? : Operator → Option Nat
  | .take n => some n
  | .first => some 1
  | _ => none

theorem not_isLocal_of_narrows {o : Operator} (h : o.Narrows) : ¬ o.IsLocal := by
  cases h <;> nofun

end Operator

theorem Model.onItems_of_narrows {α : Type} {m : Model} (h : ∀ o ∈ m.operators, o.Narrows)
    (items : List α) : m.onItems items = items := by
  unfold onItems
  generalize m.operators = operators at h ⊢
  induction operators with
  | nil => rfl
  | cons operator rest ih =>
      obtain ⟨hfirst, hrest⟩ := List.forall_mem_cons.mp h
      have hstep : operator.onItems items = items := by cases hfirst <;> rfl
      rw [List.foldl_cons, hstep]
      exact ih hrest

namespace Query

variable {q : Query} {line line' : Line Engine} {t : Table} {whole : ResultSet} {selector : Expr}
  {column : String} {operators : List Operator} {values plain : List Value}

/-- What a cell is read as for the selector of the query. -/
def Reads (q : Query) (t : Table) (raw value : Value) : Prop :=
  (q.materializer t Sql.computedColumn).Reads q.type q.model.selectorOrIdentity raw value

/-- What a cell comes to for the selector of the query. -/
def Selects (q : Query) (t : Table) (raw value : Value) : Prop :=
  (q.materializer t Sql.computedColumn).Selects q.type q.model.selectorOrIdentity raw value

/-! ## From cells to values -/

/-- **Without operators the values of a selection are what the cells of its column come to.** -/
theorem selects_of_plain (hq : q.IsTyped) (hselector : q.model.selector = some selector)
    (haddress : selector.unwrapped.Addresses q.source.mapper q.type column)
    (h : ((q.under []).values line).1 = .ok plain) :
    ∃ t whole, q.Covers line.view.1 t whole ∧
      (column ∈ whole.columns → List.Forall₂ (q.Selects t) (whole.cells column) plain) := by
  rw [values_of_not_distinct rfl] at h
  obtain ⟨projector, items, hprojector, hitems, hvalues⟩ := projectedValues_ok_iff.mp h
  obtain ⟨hpending, c, f, found, hfinds, rfl⟩ := items_ok_iff.mp hitems
  have hfetch := fetch_ok_iff.mpr ⟨hpending, c, hfinds.clauses, hfinds.brings⟩
  have hall : c.selection = .all := by
    obtain ⟨body, hall, hbody⟩ := exists_body_of_compile hfinds.clauses
    rw [← hall, ← Except.ok.inj ((hbody []).symm.trans hfinds.clauses)]
  obtain ⟨whole, hcovers, hselect, -⟩ :=
    covers_of_fetch_whole hfinds.clauses hfetch (congrArg Selection.isWholeRow hall)
  rw [hall] at hselect
  have hmade := hfinds.made
  rw [← Except.ok.inj hselect] at hmade
  have hselected : (q.under []).model.selectorOrIdentity = selector :=
    Model.selectorOrIdentity_eq hselector
  rw [← hselected] at haddress
  exact ⟨f.table, whole, hcovers, fun hcolumn => Materializer.selects_of_mapM haddress hcolumn
    (fun htype => hcovers.columns_eq hq htype) hcovers.isRectangular hmade hprojector hvalues⟩

/-- Without conversions they are what the cells of the column are read as. -/
theorem reads_of_plain (hq : q.IsTyped) (hselector : q.model.selector = some selector)
    (haddress : selector.Addresses q.source.mapper q.type column)
    (h : ((q.under []).values line).1 = .ok plain) :
    ∃ t whole, q.Covers line.view.1 t whole ∧
      (column ∈ whole.columns → List.Forall₂ (q.Reads t) (whole.cells column) plain) := by
  have hself := haddress.unconverted
  have hunwrapped : selector.unwrapped.Addresses q.source.mapper q.type column := by
    rw [hself]
    exact haddress
  obtain ⟨t, whole, hcovers, hselects⟩ := selects_of_plain hq hselector hunwrapped h
  rw [← Model.selectorOrIdentity_eq hselector] at hself
  exact ⟨t, whole, hcovers, fun hcolumn => (hselects hcolumn).imp fun _ _ hvalue =>
    hvalue.reads hself⟩

/-- Different values are read from the first cells of what is fetched. -/
theorem reads_of_fetch (hdistinct : .distinct ∈ operators) (hnarrows : ∀ o ∈ operators, o.Narrows)
    (h : ((q.under operators).values line).1 = .ok values) :
    ∃ f c, ((q.under operators).fetch line).1 = .ok f ∧ (q.under operators).clauses = .ok c ∧
      List.Forall₂ (q.Reads f.table) (f.result.rows.filterMap List.head?) values := by
  rw [values_of_distinct (Model.hasDistinct_iff.mpr hdistinct)] at h
  obtain ⟨f, read, hfetch, hread, rfl⟩ := distinctValues_ok_iff.mp h
  obtain ⟨-, c, hc, -⟩ := fetch_ok_iff.mp hfetch
  rw [Model.onItems_of_narrows hnarrows]
  exact ⟨f, c, hfetch, hc, Materializer.reads_of_distinctValues hread⟩

theorem selects_of_getLast? {c : Clauses} {o : Operator} (hlast : operators.getLast? = some o)
    (ho : o.Narrows) (hc : (q.under operators).clauses = .ok c) :
    o.Selects q.source.mapper (q.under operators.dropLast).model c.selection := by
  have hsplit : operators.dropLast ++ [o] = operators := List.dropLast_append_getLast? o hlast
  rw [← hsplit] at hc
  exact selects_of_compile (Operator.not_isLocal_of_narrows ho) hc

/-- **Where the operator for different values is the last**, the values are read from the cells of
the column that equal none before them. -/
theorem reads_of_distinct_last (hcolumn : q.model.SelectsColumn q.source.mapper column)
    (hname : IsBracketable column) (hnarrows : ∀ o ∈ operators, o.Narrows)
    (hlast : operators.getLast? = some .distinct)
    (h : ((q.under operators).values line).1 = .ok values) :
    ∃ t whole, q.Covers line.view.1 t whole ∧ column ∈ whole.columns ∧
      List.Forall₂ (q.Reads t) (firstOccurrences [] (whole.cells column)) values := by
  obtain ⟨f, c, hfetch, hc, hreads⟩ := reads_of_fetch (List.mem_of_getLast? hlast) hnarrows h
  have hselection : c.selection = .distinct column := by
    have hselects := selects_of_getLast? hlast .distinct hc
    generalize c.selection = selection at hselects ⊢
    cases hselects with
    | distinct hselected => rw [Model.SelectsColumn.unique hselected hcolumn]
  obtain ⟨whole, i, hcovers, hi, hrows⟩ := covers_of_fetch_distinct hc hfetch hselection hname
  refine ⟨f.table, whole, hcovers, mem_of_position hi, ?_⟩
  have hfirst : f.result.rows.filterMap List.head? =
      firstOccurrences [] (columnCells i whole.rows) := by
    rw [hrows, List.filterMap_map]
    exact List.filterMap_some
  rw [hfirst, columnCells_eq hi] at hreads
  exact hreads

theorem reads_of_distinct (hcolumn : q.model.SelectsColumn q.source.mapper column)
    (hname : IsBracketable column) (h : ((q.under [.distinct]).values line).1 = .ok values) :
    ∃ t whole, q.Covers line.view.1 t whole ∧ column ∈ whole.columns ∧
      List.Forall₂ (q.Reads t) (firstOccurrences [] (whole.cells column)) values := by
  have hnarrows : ∀ o ∈ [Operator.distinct], o.Narrows := by
    rintro o (_ | ⟨_, ⟨⟩⟩)
    exact .distinct
  exact reads_of_distinct_last hcolumn hname hnarrows rfl h

/-- **Where a number of rows is asked for behind the operator for different values**, the values are
read from the first cells of that many rows, whatever column these are in. -/
theorem reads_of_limit_last (hcolumn : q.model.SelectsColumn q.source.mapper column)
    (hdistinct : .distinct ∈ operators) (hnarrows : ∀ o ∈ operators, o.Narrows) {o : Operator}
    {n : Nat} (hlast : operators.getLast? = some o) (hlimit : o.rowLimit? = some n)
    (h : ((q.under operators).values line).1 = .ok values) :
    ∃ t whole, q.Covers line.view.1 t whole ∧ column ∈ whole.columns ∧
      List.Forall₂ (q.Reads t) (columnCells 0 (whole.rows.take n)) values := by
  obtain ⟨f, c, hfetch, hc, hreads⟩ := reads_of_fetch hdistinct hnarrows h
  have hselection : c.selection = .top n := by
    have hselects := selects_of_getLast? hlast (hnarrows o (List.mem_of_getLast? hlast)) hc
    generalize c.selection = selection at hselects ⊢
    cases hselects <;> cases hlimit <;> rfl
  have hwhole : c.selection.isWholeRow = true := congrArg Selection.isWholeRow hselection
  obtain ⟨whole, hcovers, hselect, hused⟩ := covers_of_fetch_whole hc hfetch hwhole
  rw [hselection] at hselect
  obtain ⟨column', hcolumn', hmem⟩ := exists_mem_columnsUsed hc hdistinct
  obtain rfl : column' = column := Model.SelectsColumn.unique hcolumn' hcolumn
  have hfound := Source.mem_of_checkUsed hwhole hused hmem
  obtain ⟨-, c', -, hbrings⟩ := fetch_ok_iff.mp hfetch
  rw [(Engine.answer_isRectangular hbrings.answer).filterMap_head? hfound] at hreads
  rw [← Except.ok.inj hselect] at hreads hfound
  exact ⟨f.table, whole, hcovers, hfound, hreads⟩

/-! ## Values that differ -/

/-- Cells among these that differ are read as values that differ. -/
def TellsApart (q : Query) (t : Table) (cells : List Value) : Prop :=
  ∀ a ∈ cells, ∀ b ∈ cells, (a == b) = false →
    ∀ v w, q.Reads t a v → q.Reads t b w → (v == w) = false

/-- Cells among these that are equal are read as values that are equal. They are the same cells but
for the two zeros. -/
def TakesAlike (q : Query) (t : Table) (cells : List Value) : Prop :=
  ∀ a ∈ cells, ∀ b ∈ cells, (a == b) = true →
    ∀ v w, q.Reads t a v → q.Reads t b w → v = w ∨ (v == w) = true

/-- Values that are read from cells that differ, differ if the reading tells them apart. By
induction along the cells. -/
theorem pairwise_of_reads {cells kept : List Value} (happart : q.TellsApart t cells)
    (hkept : ∀ a ∈ kept, a ∈ cells) (hpairwise : kept.Pairwise fun a b => (a == b) = false)
    (h : List.Forall₂ (q.Reads t) kept values) : values.Pairwise fun v w => (v == w) = false := by
  induction h with
  | nil => exact .nil
  | @cons a v kept values hread hrest ih =>
      obtain ⟨ha, hkept⟩ := List.forall_mem_cons.mp hkept
      obtain ⟨hdiffers, hpairwise⟩ := List.pairwise_cons.mp hpairwise
      refine .cons (fun w hw => ?_) (ih hkept hpairwise)
      obtain ⟨b, hb, hread'⟩ := exists_of_mem_right hrest hw
      exact happart a ha b (hkept b hb) (hdiffers b hb) v w hread hread'

/-- What any cell is read as, a cell that was kept is read as too, if the reading takes equal cells
alike. -/
theorem exists_of_reads {cells : List Value} (halike : q.TakesAlike t cells)
    (hvalues : List.Forall₂ (q.Reads t) (firstOccurrences [] cells) values)
    (hplain : List.Forall₂ (q.Reads t) cells plain) :
    ∀ v ∈ plain, ∃ w ∈ values, w = v ∨ (w == v) = true := by
  intro v hv
  obtain ⟨raw, hraw, hread⟩ := exists_of_mem_right hplain hv
  rcases exists_of_mem [] hraw with hkept | ⟨first, hseen | hkept, heq⟩
  · obtain ⟨w, hw, hread'⟩ := exists_of_mem_left hvalues hkept
    exact ⟨w, hw, Or.inl (hread'.unique hread)⟩
  · cases hseen
  · obtain ⟨w, hw, hread'⟩ := exists_of_mem_left hvalues hkept
    exact ⟨w, hw, halike first (mem_of_mem_firstOccurrences hkept) raw hraw heq w v hread' hread⟩

/-- Equal cells stay equal when they are trimmed. -/
theorem beq_trimmed {m : Materializer} {a b : Value} (h : (a == b) = true) :
    (m.trimmed a == m.trimmed b) = true := by
  cases a with
  | text s =>
      cases b with
      | text s' =>
          have heq : s = s' := eq_of_beq h
          rw [heq]
          exact beq_self_eq_true (_ : String)
      | _ => cases h
  | _ => cases b <;> exact h

/-- A generic item takes equal cells alike. -/
theorem takesAlike_generic (htype : ∀ t, q.type ≠ .record t) (t : Table) (cells : List Value) :
    q.TakesAlike t cells := by
  intro a _ b _ heq v w hv hw
  rw [(Materializer.reads_generic_iff htype).mp hv, (Materializer.reads_generic_iff htype).mp hw]
  exact Or.inr (beq_trimmed heq)

/-- Cells that are read as they are are told apart. -/
theorem tellsApart_of_eq {cells : List Value}
    (h : ∀ raw ∈ cells, ∀ v, q.Reads t raw v → v = raw) : q.TellsApart t cells := by
  intro a ha b hb hdiffers v w hv hw
  rw [h a ha v hv, h b hb w hw]
  exact hdiffers

/-- A generic item tells cells apart as long as texts are not trimmed. -/
theorem tellsApart_generic (htype : ∀ t, q.type ≠ .record t) (htrim : q.source.options.trim = .none)
    (t : Table) (cells : List Value) : q.TellsApart t cells := by
  refine tellsApart_of_eq fun raw _ v hv => ?_
  rw [(Materializer.reads_generic_iff htype).mp hv, Materializer.trimmed_eq htrim]

/-- A record tells apart cells with values of the type of the field that is selected, as long as
texts are not trimmed and the field has no transformation. -/
theorem tellsApart_record {r : RecordType} (htype : q.type = .record r) (hr : r.check = .ok ())
    {f : Field} (hf : r.field? f.name = some f)
    (hselector : q.model.selector = some (.member mainSource f.name))
    (htrim : q.source.options.trim = .none)
    (htransform : q.source.mapper.transform? f.name = none) (t : Table) {cells : List Value}
    (hcells : ∀ raw ∈ cells, f.type.Holds raw) : q.TellsApart t cells := by
  refine tellsApart_of_eq fun raw hraw v hv => ?_
  have hvalue : (q.materializer t Sql.computedColumn).fieldValue f raw = .ok raw :=
    Materializer.fieldValue_of_holds htrim htransform (hcells raw hraw)
  have hself := Materializer.reads_member hr hf hvalue
  rw [Reads, htype, Model.selectorOrIdentity_eq hselector] at hv
  exact hv.unique hself

/-- **Different values.** They are what the different cells of the selected column are read as, in
order, and differ themselves as far as the reading tells these cells apart. What the same query
gives without the operator, where the selector takes the item to the column, is read from all cells
of the column, and each of these values is among the different ones as far as equal cells are taken
alike. -/
theorem pairwise_of_distinct (hq : q.IsTyped) (hselector : q.model.selector = some selector)
    (hnames : selector.Names q.source.mapper q.type.shape column) (hname : IsBracketable column)
    (h : ((q.under [.distinct]).values line).1 = .ok values) :
    ∃ t whole, q.Covers line.view.1 t whole ∧ column ∈ whole.columns ∧
      List.Forall₂ (q.Reads t) (firstOccurrences [] (whole.cells column)) values ∧
      (q.TellsApart t (whole.cells column) → values.Pairwise fun v w => (v == w) = false) ∧
      ∀ line' plain, line'.view = line.view →
        selector.Addresses q.source.mapper q.type column →
          ((q.under []).values line').1 = .ok plain →
            List.Forall₂ (q.Reads t) (whole.cells column) plain ∧
              (q.TakesAlike t (whole.cells column) →
                ∀ v ∈ plain, ∃ w ∈ values, w = v ∨ (w == v) = true) := by
  have hselects : q.model.SelectsColumn q.source.mapper column :=
    ⟨selector, hselector, hq.shape ▸ hnames⟩
  obtain ⟨t, whole, hcovers, hcolumn, hreads⟩ := reads_of_distinct hselects hname h
  refine ⟨t, whole, hcovers, hcolumn, hreads, fun happart => ?_, ?_⟩
  · exact pairwise_of_reads happart (fun a => mem_of_mem_firstOccurrences)
      (pairwise_firstOccurrences [] _) hreads
  · intro line' plain hview haddress hplain
    obtain ⟨t', whole', hcovers', hread⟩ := reads_of_plain hq hselector haddress hplain
    rw [hview] at hcovers'
    obtain ⟨rfl, rfl⟩ := hcovers.unique hcovers'
    exact ⟨hread hcolumn, fun halike => exists_of_reads halike hreads (hread hcolumn)⟩

end Query

/-- The numbers of a worksheet of three rows, of which two are the same. -/
def oneTwoOne : Line Engine :=
  .ofBackend (.ofWorkbook (Workbook.empty.addGrid "Sheet1" [[.int 1], [.int 2], [.int 1]]))

/-- The values of the first column. -/
def firstColumn : Query :=
  { allRows with model := ⟨.headerless, some (.column mainSource (.positioned 0)), [], []⟩ }

theorem pairwise_of_distinct_oneTwoOne :
    ((firstColumn.under [.distinct]).values oneTwoOne).1 = .ok [.int 1, .int 2] ∧
      ((firstColumn.under []).values oneTwoOne).1 = .ok [.int 1, .int 2, .int 1] ∧
      [Value.int 1, .int 2].Pairwise (fun v w => (v == w) = false) ∧
      ∀ v ∈ [Value.int 1, .int 2, .int 1],
        ∃ w ∈ [Value.int 1, .int 2], w = v ∨ (w == v) = true := by
  have hvalues : ((firstColumn.under [.distinct]).values oneTwoOne).1 = .ok [.int 1, .int 2] := rfl
  have hplain : ((firstColumn.under []).values oneTwoOne).1 = .ok [.int 1, .int 2, .int 1] := rfl
  have haddress : (Expr.column mainSource (.positioned 0)).Addresses .empty .headerless
      (positionName 0) := ⟨.positioned 0 rfl, rfl, nofun⟩
  have hgeneric : ∀ t, ItemType.headerless ≠ .record t := nofun
  obtain ⟨t, whole, -, -, -, hpairwise, hcovered⟩ := Query.pairwise_of_distinct (q := firstColumn)
    ⟨rfl, rfl⟩ rfl haddress.names (isBracketable_positionName 0) hvalues
  obtain ⟨-, hamong⟩ := hcovered oneTwoOne _ rfl haddress hplain
  exact ⟨hvalues, hplain, hpairwise (Query.tellsApart_generic hgeneric rfl t _),
    hamong (Query.takesAlike_generic hgeneric t _)⟩

/-- The bosses of a worksheet, under a mapping that a row with a header does not know. -/
def bosses : Query :=
  ⟨⟨"staff.xls", .worksheet none, true, ⟨[("CEO", "Boss")], []⟩, .standard⟩, .row,
    ⟨.row, some (.member mainSource "CEO"), [], []⟩⟩

/-- **Different values may be equal**: the blanks that tell two cells apart are trimmed behind the
source. And they may be others than those without the operator: the source is asked for the column
that a property is mapped to, and a row with a header for the property. -/
theorem distinct_not_pairwise :
    (¬ ∀ (q : Query) (line : Line Engine) (selector : Expr) (column : String) (values : List Value),
      q.IsTyped → q.model.selector = some selector →
        selector.Names q.source.mapper q.type.shape column →
          ((q.under [.distinct]).values line).1 = .ok values →
            values.Pairwise fun v w => (v == w) = false) ∧
      ¬ ∀ (q : Query) (line : Line Engine) (selector : Expr) (column : String)
        (values plain : List Value), q.IsTyped → q.model.selector = some selector →
          selector.Names q.source.mapper q.type.shape column → selector.unwrapped = selector →
            ((q.under [.distinct]).values line).1 = .ok values →
              ((q.under []).values line).1 = .ok plain →
                ∀ v ∈ plain, ∃ w ∈ values, w = v ∨ (w == v) = true := by
  constructor
  · intro h
    have hclaimed := h
      { firstColumn with
        source := { firstColumn.source with options := { Options.standard with trim := .both } } }
      (.ofBackend (.ofWorkbook (Workbook.empty.addGrid "Sheet1" [[.text "a"], [.text "a "]])))
      (.column mainSource (.positioned 0)) (positionName 0) [.text "a", .text "a"] ⟨rfl, rfl⟩ rfl
      (.positioned 0 rfl) rfl
    have hequal := (List.pairwise_cons.mp hclaimed).1 (.text "a") List.mem_cons_self
    exact absurd hequal (by decide)
  · intro h
    have hclaimed := h bosses
      (.ofBackend (.ofWorkbook (Workbook.empty.addGrid "Sheet1"
        [[.text "CEO", .text "Boss"], [.text "Ann", .text "Bob"]])))
      (.member mainSource "CEO") "Boss" [.text "Bob"] [.text "Ann"] ⟨rfl, rfl⟩ rfl (.member "CEO")
      rfl rfl rfl (.text "Ann") List.mem_cons_self
    obtain ⟨w, hw, hequal⟩ := hclaimed
    obtain rfl := List.mem_singleton.mp hw
    rcases hequal with hequal | hequal
    · exact absurd (Value.text.inj hequal) (by decide)
    · exact absurd hequal (by decide)

/-! ## Values of the column -/

namespace Query

variable {q : Query} {line line' : Line Engine} {t : Table} {whole : ResultSet} {selector : Expr}
  {column : String} {operators : List Operator} {values plain : List Value}

/-- Values that are read from cells of the column are among all that are. -/
theorem mem_of_reads {cells : List Value} (hsubset : ∀ raw ∈ cells, raw ∈ whole.cells column)
    (hvalues : List.Forall₂ (q.Reads t) cells values)
    (hplain : List.Forall₂ (q.Reads t) (whole.cells column) plain) : ∀ v ∈ values, v ∈ plain := by
  intro v hv
  obtain ⟨raw, hraw, hread⟩ := exists_of_mem_right hvalues hv
  obtain ⟨w, hw, hread'⟩ := exists_of_mem_left hplain (hsubset raw hraw)
  exact hread.unique hread' ▸ hw

/-- The first cells of some rows are cells of the column if it comes first. -/
theorem mem_cells_of_take (hfirst : whole.columns.head? = some column) (n : Nat) :
    ∀ raw ∈ columnCells 0 (whole.rows.take n), raw ∈ whole.cells column := by
  intro raw hraw
  rw [← columnCells_eq (position_of_head? hfirst)]
  rw [columnCells, List.map_take] at hraw
  exact List.mem_of_mem_take hraw

section Plain

variable (hcovers : q.Covers line.view.1 t whole)
  (hread : column ∈ whole.columns → List.Forall₂ (q.Reads t) (whole.cells column) plain)
  (hselects : q.model.SelectsColumn q.source.mapper column)

include hcovers hread hselects

theorem mem_plain_of_distinct_last (hname : IsBracketable column)
    (hnarrows : ∀ o ∈ operators, o.Narrows) (hlast : operators.getLast? = some .distinct)
    (h : ((q.under operators).values line).1 = .ok values) : ∀ v ∈ values, v ∈ plain := by
  obtain ⟨t', whole', hcovers', hcolumn, hreads⟩ :=
    reads_of_distinct_last hselects hname hnarrows hlast h
  obtain ⟨rfl, rfl⟩ := hcovers.unique hcovers'
  exact mem_of_reads (fun raw => mem_of_mem_firstOccurrences) hreads (hread hcolumn)

theorem mem_plain_of_limit_last (hdistinct : .distinct ∈ operators)
    (hnarrows : ∀ o ∈ operators, o.Narrows) {o : Operator} {n : Nat}
    (hlast : operators.getLast? = some o) (hlimit : o.rowLimit? = some n)
    (h : ((q.under operators).values line).1 = .ok values) :
    List.Forall₂ (q.Reads t) (columnCells 0 (whole.rows.take n)) values ∧
      (whole.columns.head? = some column → ∀ v ∈ values, v ∈ plain) := by
  obtain ⟨t', whole', hcovers', hcolumn, hreads⟩ :=
    reads_of_limit_last hselects hdistinct hnarrows hlast hlimit h
  obtain ⟨rfl, rfl⟩ := hcovers.unique hcovers'
  exact ⟨hreads, fun hfirst => mem_of_reads (mem_cells_of_take hfirst n) hreads (hread hcolumn)⟩

/-- Asked for its first value, the query asks for one row behind everything else. -/
theorem mem_plain_of_firstValue? (hdistinct : .distinct ∈ operators)
    (hnarrows : ∀ o ∈ operators, o.Narrows) {v : Value}
    (h : ((q.under operators).firstValue? line).1 = .ok (some v)) :
    (∃ row ∈ whole.rows.head?, q.Reads t (cellAt row 0) v) ∧
      (whole.columns.head? = some column → v ∈ plain) := by
  obtain ⟨values, hvalues, hhead⟩ := Action.bind_ok_iff.mp h
  have hfirst : values.head? = some v := Except.ok.inj hhead
  have hnarrows' : ∀ o ∈ operators ++ [.first], o.Narrows := by
    intro o ho
    rcases List.mem_append.mp ho with ho | ho
    · exact hnarrows o ho
    · exact List.mem_singleton.mp ho ▸ .first
  obtain ⟨hreads, hmem⟩ := mem_plain_of_limit_last hcovers hread hselects
    (List.mem_append_left _ hdistinct) hnarrows' List.getLast?_concat rfl hvalues
  refine ⟨?_, fun hcolumn => hmem hcolumn v (List.mem_of_head? hfirst)⟩
  cases hrows : whole.rows with
  | nil =>
      rw [hrows] at hreads
      cases hreads
      cases hfirst
  | cons row rest =>
      rw [hrows] at hreads
      cases hreads with
      | cons hcell hrest =>
          cases hfirst
          exact ⟨row, rfl, hcell⟩

end Plain

/-- **Different values and numbers of rows.** Where the operator for different values is the last,
or the column is the first that comes back, each value is one that the query gives without
operators. In any case a number of rows that is asked for last gives what the first cells of that
many rows are read as; and so the first value is read from the first cell of the first row. -/
theorem mem_plain_of_distinct (hq : q.IsTyped) (hselector : q.model.selector = some selector)
    (haddress : selector.Addresses q.source.mapper q.type column) (hname : IsBracketable column)
    (hdistinct : .distinct ∈ operators) (hnarrows : ∀ o ∈ operators, o.Narrows)
    (hview : line'.view = line.view) (hplain : ((q.under []).values line').1 = .ok plain) :
    ∃ t whole, q.Covers line.view.1 t whole ∧
      (∀ values, ((q.under operators).values line).1 = .ok values →
        (operators.getLast? = some .distinct ∨ whole.columns.head? = some column →
          ∀ v ∈ values, v ∈ plain) ∧
        ∀ n, operators.getLast?.bind Operator.rowLimit? = some n →
          List.Forall₂ (q.Reads t) (columnCells 0 (whole.rows.take n)) values) ∧
      ∀ v, ((q.under operators).firstValue? line).1 = .ok (some v) →
        (∃ row ∈ whole.rows.head?, q.Reads t (cellAt row 0) v) ∧
          (whole.columns.head? = some column → v ∈ plain) := by
  have hselects : q.model.SelectsColumn q.source.mapper column :=
    ⟨selector, hselector, hq.shape ▸ haddress.names⟩
  obtain ⟨t, whole, hcovers, hread⟩ := reads_of_plain hq hselector haddress hplain
  rw [hview] at hcovers
  refine ⟨t, whole, hcovers, fun values hvalues => ⟨?_, ?_⟩, fun v =>
    mem_plain_of_firstValue? hcovers hread hselects hdistinct hnarrows⟩
  · obtain ⟨o, hlast⟩ : ∃ o, operators.getLast? = some o :=
      Option.isSome_iff_exists.mp (List.getLast?_isSome.mpr (List.ne_nil_of_mem hdistinct))
    rintro (hdistinct_last | hfirst)
    · exact mem_plain_of_distinct_last hcovers hread hselects hname hnarrows hdistinct_last hvalues
    · -- whatever comes last, different values or some rows, the cells are those of the column
      cases hnarrows o (List.mem_of_getLast? hlast) with
      | distinct =>
          exact mem_plain_of_distinct_last hcovers hread hselects hname hnarrows hlast hvalues
      | take n =>
          exact (mem_plain_of_limit_last hcovers hread hselects hdistinct hnarrows hlast rfl
            hvalues).2 hfirst
      | first =>
          exact (mem_plain_of_limit_last hcovers hread hselects hdistinct hnarrows hlast rfl
            hvalues).2 hfirst
  · intro n hn
    obtain ⟨o, hlast, hlimit⟩ := Option.bind_eq_some_iff.mp hn
    exact (mem_plain_of_limit_last hcovers hread hselects hdistinct hnarrows hlast hlimit hvalues).1

end Query

/-- A worksheet of three people. -/
def people : Line Engine :=
  .ofBackend (.ofWorkbook (Workbook.empty.addGrid "Sheet1"
    [[.text "Name", .text "City"], [.text "Ann", .text "Oslo"], [.text "Bob", .text "Rome"],
      [.text "Cid", .text "Oslo"]]))

/-- Where the people live. -/
def cities : Query :=
  ⟨⟨"people.xls", .worksheet none, true, .empty, .standard⟩, .row,
    ⟨.row, some (.column mainSource (.named "City")), [], []⟩⟩

theorem addresses_cities :
    (Expr.column mainSource (.named "City")).Addresses .empty .row "City" :=
  ⟨.named "City" nofun, rfl, nofun⟩

theorem mem_plain_of_distinct_cities :
    ((cities.under [.take 2, .distinct]).values people).1 = .ok [.text "Oslo", .text "Rome"] ∧
      ((cities.under []).values people).1 = .ok [.text "Oslo", .text "Rome", .text "Oslo"] ∧
      ∀ v ∈ [Value.text "Oslo", .text "Rome"], v ∈ [.text "Oslo", .text "Rome", .text "Oslo"] := by
  have hvalues : ((cities.under [.take 2, .distinct]).values people).1 =
      .ok [.text "Oslo", .text "Rome"] := rfl
  have hplain : ((cities.under []).values people).1 =
      .ok [.text "Oslo", .text "Rome", .text "Oslo"] := rfl
  have hnarrows : ∀ o ∈ [Operator.take 2, .distinct], o.Narrows := by
    rintro o (_ | ⟨_, _ | ⟨_, ⟨⟩⟩⟩)
    · exact .take 2
    · exact .distinct
  obtain ⟨t, whole, -, hmem, -⟩ := Query.mem_plain_of_distinct ⟨rfl, rfl⟩ rfl addresses_cities
    (by decide) (List.mem_cons_of_mem _ List.mem_cons_self) hnarrows rfl hplain
  exact ⟨hvalues, hplain, (hmem _ hvalues).1 (Or.inl rfl)⟩

/-- **Different values may be from another column**: where a number of rows is asked for last, whole
rows come back, and the first column is read. -/
theorem distinct_not_mem_plain :
    ¬ ∀ (q : Query) (line : Line Engine) (selector : Expr) (column : String)
      (operators : List Operator) (values plain : List Value),
      q.IsTyped → q.model.selector = some selector →
        selector.Addresses q.source.mapper q.type column → IsBracketable column →
          .distinct ∈ operators → (∀ o ∈ operators, o.Narrows) →
            ((q.under operators).values line).1 = .ok values →
              ((q.under []).values line).1 = .ok plain → ∀ v ∈ values, v ∈ plain := by
  intro h
  have hnarrows : ∀ o ∈ [Operator.distinct, .take 1], o.Narrows := by
    rintro o (_ | ⟨_, _ | ⟨_, ⟨⟩⟩⟩)
    · exact .distinct
    · exact .take 1
  have hclaimed := h cities people _ _ [.distinct, .take 1] [.text "Ann"]
    [.text "Oslo", .text "Rome", .text "Oslo"] ⟨rfl, rfl⟩ rfl addresses_cities (by decide)
    List.mem_cons_self hnarrows rfl rfl (.text "Ann") List.mem_cons_self
  exact absurd hclaimed (by simp)

end SheetQuery
