import SheetQuery.Proofs.Backend.Answers
import SheetQuery.Proofs.Compile.Filtering
import SheetQuery.Proofs.Materialize.Generic
import SheetQuery.Proofs.Session.Finishing

/-!
# Filters and selectors over a workbook

A filter goes out as text, is read behind the connection and chooses among rows of cells; the same
predicate as a selector chooses among the items that came back without it. Over a worksheet of
generic rows both ways lead to the same items in the same order, for any list of plain predicates.
Trimming would change the texts that selectors see but not those that filters see, so the items have
to be left untrimmed; and a lone column under the name of computed values never makes items at all.

Main statement: `items_filtered`.
-/

namespace SheetQuery

open Sql

namespace Query

/-- The query with filters more. -/
def filtered (q : Query) (predicates : List Expr) : Query :=
  predicates.foldl (fun q p => { q with model := q.model.withClause (.filter p) }) q

theorem filtered_eq (q : Query) (predicates : List Expr) :
    q.filtered predicates = { q with model := { q.model with
      body := q.model.body ++ predicates.map .filter } } := by
  unfold filtered
  induction predicates generalizing q with
  | nil => simp
  | cons p rest ih =>
      rw [List.foldl_cons, ih]
      simp [Model.withClause]

/-- What a filtered query gives: the items of those rows that pass every predicate. -/
theorem items_filtered_rows {q : Query} (hq : q.model = .all q.type.shape) {line : Line Engine}
    (hpending : line.backend.pendingFailure = none) {table : Table} {name : String} {t : ResultSet}
    (hreads : q.source.Reads line.backend.workbook table name t) (hfits : q.type.Fits t.columns)
    (hbracketable : ∀ column ∈ t.columns, IsBracketable column) {item : List Value → Item}
    (hmade : ∀ rows, (q.materializer table Sql.computedColumn).materialize q.type t.columns rows =
      .ok (.items (rows.map item)))
    (hshows : ∀ row, row.length = t.columns.length →
      (item row).Shows (q.type.Reaches t.columns) t.columns row)
    {predicates : List Expr} (hplain : ∀ p ∈ predicates, p.IsPlain (q.type.Reaches t.columns)) :
    ((q.filtered predicates).items line).1 =
      .ok ((t.rows.map item).filter (·.passes predicates)) := by
  obtain ⟨c, hcompile, hc⟩ :=
    compile_filters (hfits.resolves : Expr.Resolves _ q.source.mapper _ _) hplain
  have hmodel : (q.filtered predicates).model = .filtered q.type.shape predicates := by
    rw [filtered_eq, hq]
    rfl
  have hwritable := hc.isWritable (isCovered_of_compile hcompile) hbracketable
  have hanswer := Engine.answer_eq hwritable hreads.clause hreads.isBracketable hreads.shown
  rw [hc.selection, hc.orderBy, Statement.evaluate_all hc.listed, c.filterRows_eq] at hanswer
  -- the rows that are kept are those of whose items every predicate is true
  have hrows : (t.rows.filter (c.keeps t.columns ·)).map item =
      (t.rows.map item).filter (·.passes predicates) := by
    rw [List.filter_map]
    refine congrArg (List.map item) (List.filter_congr ?_)
    intro row hrow
    exact hc.keeps row (item row) (hshows row (Workbook.table_isRectangular hreads.shown row hrow))
  have hclauses : (q.filtered predicates).clauses = .ok c := by
    rw [clauses, hmodel, filtered_eq]
    exact hcompile
  refine items_ok_iff.mpr ⟨hpending, c, ⟨table, t.columns, t.rows.filter (c.keeps t.columns ·)⟩,
    (t.rows.map item).filter (·.passes predicates), ⟨hclauses, ?_, ?_⟩, ?_⟩
  · rw [filtered_eq]
    exact ⟨hreads.resolved, hanswer, Source.checkUsed_eq_ok hc.used⟩
  · rw [filtered_eq, ← hrows]
    exact hmade _
  · rw [hmodel]
    rfl

end Query

/-- The columns of a table suit generic items of the type: distinct names that fit between brackets,
or no header at all. -/
def ItemType.Suits (type : ItemType) (columns : List String) : Prop :=
  match type with
  | .row => columns.Nodup ∧ ∀ column ∈ columns, IsBracketable column
  | .headerless => True
  | .record _ => False

/-- Tables that are read in the way of the type have columns under which its items answer. -/
theorem ItemType.Suits.fits {type : ItemType} {s : Source} (hheader : s.hasHeader = type.hasHeader)
    {w : Workbook} {table : Table} {name : String} {t : ResultSet}
    (hreads : s.Reads w table name t) (h : type.Suits t.columns) :
    type.Fits t.columns ∧ ∀ column ∈ t.columns, IsBracketable column := by
  cases type with
  | row => exact ⟨.row h.1, h.2⟩
  | headerless =>
      have hshown := hreads.shown
      rw [hheader] at hshown
      obtain ⟨n, hn⟩ := Workbook.table_columns hshown
      rw [hn]
      refine ⟨.headerless n, ?_⟩
      intro column hcolumn
      obtain ⟨i, -, rfl⟩ := Grid.mem_positionNames.mp hcolumn
      exact isBracketable_positionName i
  | record r => exact absurd h id

/-- **Filters agree with selectors.** A query for the rows of a table, or for its rows without
header, gives under plain predicates exactly the items it gives without them of which every
predicate, compiled as a selector, is true, in the same order. A worksheet that is there always has
such a table (`Source.reads_worksheet`). Both queries may run at different times, as long as the
workbook is the same and no failure is set up. -/
theorem items_filtered {s : Session} {root : TableIdentity} {type : ItemType} {q : Query}
    (hq : s.query root type = .ok q) (htrim : s.options.trim = .none) {line line' : Line Engine}
    (hview : line'.view = line.view) (hpending : line.backend.pendingFailure = none) {table : Table}
    {name : String} {t : ResultSet} (hreads : q.source.Reads line.backend.workbook table name t)
    (hlone : t.columns ≠ [computedColumn]) (hsuits : type.Suits t.columns)
    {predicates : List Expr} (hplain : ∀ p ∈ predicates, p.IsPlain (type.Reaches t.columns)) :
    ∃ items, (q.items line).1 = .ok items ∧
      (∀ p ∈ predicates, ∃ projector, Projector.ofExpr p = .ok projector ∧
        ∀ item ∈ items, ∃ v, projector.applyTo item = .ok v) ∧
      ((q.filtered predicates).items line').1 = .ok (items.filter (·.passes predicates)) := by
  obtain ⟨rfl, hmodel, hheader, hoptions⟩ := Session.query_eq hq
  obtain ⟨hworkbook, hpending'⟩ := Prod.mk.inj hview
  obtain ⟨hfits, hbracketable⟩ := hsuits.fits hheader hreads
  have hm : (q.materializer table computedColumn).options.trim = .none := by
    rw [← htrim, ← hoptions]
    rfl
  obtain ⟨item, hmade, hshows⟩ := Materializer.exists_items hm hlone hfits
  -- without predicates the filtered query is the query itself
  have hnone : ∀ p ∈ ([] : List Expr), p.IsPlain (q.type.Reaches t.columns) := nofun
  have hitems := Query.items_filtered_rows hmodel hpending hreads hfits hbracketable hmade hshows
    hnone
  have hfiltered := Query.items_filtered_rows hmodel (hpending'.trans hpending) (hworkbook ▸ hreads)
    hfits hbracketable hmade hshows hplain
  have hself : (t.rows.map item).filter (·.passes []) = t.rows.map item :=
    List.filter_eq_self.mpr fun _ _ => rfl
  rw [hself] at hitems
  refine ⟨t.rows.map item, hitems, ?_, hfiltered⟩
  intro p hp
  refine ⟨_, Projector.ofExpr_eq (hplain p hp).checkSelector, ?_⟩
  intro other hother
  obtain ⟨row, hrow, rfl⟩ := List.mem_map.mp hother
  have hshown := hshows row (Workbook.table_isRectangular hreads.shown row hrow)
  have hresolves : Expr.Resolves _ q.source.mapper _ _ := hfits.resolves
  exact ⟨_, (hplain p hp).evaluate hresolves hshown⟩

/-- A worksheet with a missing age and an empty name. -/
def guests : Line Engine :=
  .ofBackend (.ofWorkbook (Workbook.empty.addSheet "Guests" ["Name", "Age"]
    [[.text "Ann", .int 31], [.text "", .int 40], [.text "Bob"], [.text "Cid", .int 9]]))

/-- All rows of the worksheet. -/
def allGuests : Query :=
  ⟨⟨"guests.xls", .worksheet (some (.named "Guests")), true, .empty, .standard⟩, .row, .all .row⟩

theorem reads_guests : allGuests.source.Reads guests.backend.workbook ⟨some "Guests", none, none⟩
    "Guests$" ⟨["Name", "Age"], [[.text "Ann", .int 31], [.text "", .int 40], [.text "Bob", .null],
      [.text "Cid", .int 9]]⟩ :=
  ⟨rfl, rfl, by decide, rfl⟩

/-- Not under age, as far as the age is known, and with a name that is not `Ann`. -/
def welcome : List Expr :=
  [.not (.binary (.compare .gt) (.literal (.int 18)) (.ofColumn (.named "Age"))),
    .not (.binary .or (.binary (.compare .eq) (.ofColumn (.named "Name")) (.literal (.text "Ann")))
      (.literal (.bool false)))]

theorem items_filtered_guests :
    ((allGuests.filtered welcome).items guests).1 =
      .ok [.row ⟨["Name", "Age"], [.text "", .int 40]⟩,
        .row ⟨["Name", "Age"], [.text "Bob", .null]⟩] := by
  have hreads : allGuests.source.Reads guests.backend.workbook ⟨some "Guests", none, none⟩ "Guests$"
      ⟨["Name", "Age"], [[.text "Ann", .int 31], [.text "", .int 40], [.text "Bob", .null],
        [.text "Cid", .int 9]]⟩ := ⟨rfl, rfl, by decide, rfl⟩
  have hname : ItemType.Reaches .row ["Name", "Age"] (.named "Name") := List.mem_cons_self
  have hage : ItemType.Reaches .row ["Name", "Age"] (.named "Age") :=
    List.mem_cons_of_mem _ List.mem_cons_self
  have hplain : ∀ p ∈ welcome, p.IsPlain (ItemType.Reaches .row ["Name", "Age"]) := by
    intro p hp
    simp only [welcome, List.mem_cons, List.not_mem_nil, or_false] at hp
    have hgt : Comparison.gt ≠ .ne := by decide
    have heq : Comparison.eq ≠ .ne := by decide
    rcases hp with rfl | rfl
    · exact .not rfl (.literalColumn hgt hage rfl)
    · exact .not rfl (.or (.columnLiteral heq hname rfl) (.truth false))
  have hquery : Session.query ⟨some "guests.xls", .empty, .standard⟩
      (.worksheet (some (.named "Guests"))) .row = .ok allGuests := rfl
  obtain ⟨items, hitems, -, hfiltered⟩ := items_filtered hquery rfl rfl rfl hreads (by decide)
    ⟨by decide, by decide⟩ hplain
  have hall : (allGuests.items guests).1 = .ok [.row ⟨["Name", "Age"], [.text "Ann", .int 31]⟩,
      .row ⟨["Name", "Age"], [.text "", .int 40]⟩, .row ⟨["Name", "Age"], [.text "Bob", .null]⟩,
      .row ⟨["Name", "Age"], [.text "Cid", .int 9]⟩] := rfl
  rw [hall] at hitems
  cases hitems
  exact hfiltered

end SheetQuery
