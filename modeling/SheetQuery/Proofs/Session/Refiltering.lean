import SheetQuery.Proofs.Compile.Refiltering
import SheetQuery.Proofs.Session.Agreeing
import SheetQuery.Proofs.Session.Covering
import SheetQuery.Proofs.Session.Filtering

/-!
# Filters in another order, over a workbook

With its filters in another order a query goes out as another text with its parameters in another
order. Where the names fit between brackets, either text is read as the statement that was meant, and
the two statements ask for the same; so the answers are equal, cell by cell.

Main statement: `Query.finish_refiltered`.
-/

namespace SheetQuery

open Sql

/-! ## Answers -/

theorem checkNames_congr (t : ResultSet) {names names' : List String}
    (h : ∀ name, name ∈ names' ↔ name ∈ names) : checkNames t names' = checkNames t names := by
  have hall : names'.all t.columns.contains = names.all t.columns.contains := by
    rw [Bool.eq_iff_iff, List.all_eq_true, List.all_eq_true]
    simp only [h]
  rw [checkNames, checkNames, hall]

namespace Clauses

variable {c c' : Clauses}

theorem mem_conditionColumns (c : Clauses) {name : String} :
    name ∈ (c.condition?.map Condition.columns).getD [] ↔ c.FiltersBy name := by
  unfold condition? FiltersBy
  cases c.filter with
  | none => exact iff_of_false nofun (by rintro ⟨f, hf, -⟩; cases hf)
  | some filter =>
      show name ∈ filter.condition.columns ↔ _
      rw [Filter.mem_columns_condition]
      simp only [Option.some.injEq, exists_eq_left']

theorem Alike.symm (h : c.Alike c') : c'.Alike c :=
  ⟨h.selection.symm, h.orderBy.symm, fun columns row => (h.keeps columns row).symm,
    fun name => (h.filtersBy name).symm, fun name => (h.used name).symm⟩

/-- Statements of alike clauses have the same answer over every table. -/
theorem Alike.evaluate (h : c.Alike c') (name : String) (t : ResultSet) :
    Statement.evaluate ⟨c'.selection, name, c'.condition?, c'.orderBy⟩ t =
      Statement.evaluate ⟨c.selection, name, c.condition?, c.orderBy⟩ t := by
  have hnames : checkNames t ((c'.condition?.map Condition.columns).getD []) =
      checkNames t ((c.condition?.map Condition.columns).getD []) :=
    checkNames_congr t fun name => by
      rw [mem_conditionColumns, mem_conditionColumns, h.filtersBy]
  have hrows : filterRows t c'.condition? = filterRows t c.condition? := by
    simp only [filterRows_eq, h.keeps]
  unfold Statement.evaluate Statement.sourceRows
  simp only [hnames, hrows, h.selection, h.orderBy]

end Clauses

/-- Of the used columns only their names are asked for. -/
theorem Source.checkUsed_congr {c c' : Clauses} (h : c.Alike c') {columns : List String} :
    checkUsed c' columns = .ok () ↔ checkUsed c columns = .ok () := by
  simp only [checkUsed_ok_iff, h.selection, h.used]

/-- **Alike clauses bring back the same**, where their names can be written. -/
theorem Source.Brings.of_alike {s : Source} {w : Workbook} {c c' : Clauses} {f : Fetched}
    (h : c.Alike c') (hcovered : c.IsCovered) (hcovered' : c'.IsCovered)
    (hcolumns : ∀ name ∈ c.columnsUsed, IsBracketable name) (htable : ']' ∉ f.table.reference)
    (hbrings : s.Brings w c f) : s.Brings w c' f := by
  -- a number of rows that has been read once fits a word in the other statement, too
  have hselection : c.selection.IsWritable := Engine.isWritable_of_answer
    (fun column hcolumn => hcolumns column (hcovered.selection column hcolumn)) hbrings.answer
  have hwritable := hcovered.isWritable hcolumns hselection
  have hwritable' := hcovered'.isWritable
    (fun name hname => hcolumns name ((h.used name).mp hname)) (h.selection ▸ hselection)
  obtain ⟨name, hclause, hname⟩ := f.table.clause_eq_bracketed htable
  refine ⟨hbrings.table, ?_, (checkUsed_congr h).mpr hbrings.used⟩
  rw [← hbrings.answer, Engine.answer_of_isWritable hwritable hclause hname,
    Engine.answer_of_isWritable hwritable' hclause hname]
  exact congrArg (w.table name s.hasHeader >>= ·) (funext (h.evaluate name))

/-! ## Queries -/

namespace Query

open SheetQuery.Action

variable {q : Query} {body : List Clause} {line line' : Line Engine} {ending : Ending}

/-- The query with another body. -/
def withBody (q : Query) (body : List Clause) : Query :=
  { q with model := { q.model with body := body } }

theorem ended_withBody (q : Query) (body : List Clause) (ending : Ending) :
    (q.withBody body).ended ending = (q.ended ending).withBody body := by
  unfold ended Model.ended
  cases ending.operator? <;> rfl

theorem ended_body (q : Query) (ending : Ending) : (q.ended ending).model.body = q.model.body := by
  unfold ended Model.ended
  cases ending.operator? <;> rfl

/-- Every name that the query has in its statement fits between brackets. -/
structure NamesFit (q : Query) (w : Workbook) : Prop where
  columns : ∀ c, q.clauses = .ok c → ∀ name ∈ c.columnsUsed, IsBracketable name
  table : ∀ table, q.source.resolve (q.source.listed w) = .ok table → ']' ∉ table.reference

/-- With its filters in another order the query fetches the same. -/
theorem fetch_refiltered (h : Refiltered q.model.body body) (hview : line'.view = line.view)
    (hnames : q.NamesFit line.backend.workbook) {f : Fetched} :
    (q.fetch line).1 = .ok f ↔ ((q.withBody body).fetch line').1 = .ok f := by
  obtain ⟨hworkbook, hpending⟩ := Prod.mk.inj hview
  obtain ⟨haccepted, halike⟩ := compile_refiltered q.source.mapper h
  rw [fetch_ok_iff, fetch_ok_iff, hworkbook, hpending]
  refine and_congr_right fun _ => ⟨?_, ?_⟩
  · rintro ⟨c, hc, hbrings⟩
    obtain ⟨c', hc'⟩ := haccepted.mp ⟨c, hc⟩
    exact ⟨c', hc', hbrings.of_alike (halike c c' hc hc') (isCovered_of_compile hc)
      (isCovered_of_compile hc') (hnames.columns c hc) (hnames.table _ hbrings.table)⟩
  · rintro ⟨c', hc', hbrings⟩
    obtain ⟨c, hc⟩ := haccepted.mpr ⟨c', hc'⟩
    have hsame := halike c c' hc hc'
    exact ⟨c, hc, hbrings.of_alike hsame.symm (isCovered_of_compile hc') (isCovered_of_compile hc)
      (fun name hname => hnames.columns c hc name ((hsame.used name).mp hname))
      (hnames.table _ hbrings.table)⟩

/-- What is made of the fetched rows does not hang on the body. -/
theorem agreeAt_withBody
    (h : ∀ f, (q.fetch line).1 = .ok f ↔ ((q.withBody body).fetch line').1 = .ok f) :
    q.AgreeAt line (q.withBody body) line' where
  selector := rfl
  operators := rfl
  materialized made := by
    rw [materialized_ok_iff, materialized_ok_iff]
    exact exists_congr fun f => and_congr_left fun _ => h f
  distinct _ values := by
    rw [distinctValues_ok_iff, distinctValues_ok_iff]
    exact exists_congr fun f => exists_congr fun read => and_congr_left fun _ => h f

/-- **The order of filters is irrelevant.** With its filters in another order, or with two filters in
a row made one, a query is finished in every way exactly when it is finished so as it is. Where that
gives items, values or a number, they are the same. -/
theorem finish_refiltered (h : Refiltered q.model.body body) (hview : line'.view = line.view)
    (hnames : (q.ended ending).NamesFit line.backend.workbook) :
    ((∃ a, (q.finish ending line).1 = .ok a) ↔
      ∃ a, ((q.withBody body).finish ending line').1 = .ok a) ∧
    (ending.runs = true → ∀ a, (q.finish ending line).1 = .ok a ↔
      ((q.withBody body).finish ending line').1 = .ok a) := by
  have hruns : ending.runs = true → ∀ a, (q.finish ending line).1 = .ok a ↔
      ((q.withBody body).finish ending line').1 = .ok a := by
    intro hruns
    refine finish_agree hruns ?_
    rw [ended_withBody]
    exact agreeAt_withBody fun f => fetch_refiltered ((q.ended_body ending).symm ▸ h) hview hnames
  refine ⟨?_, hruns⟩
  obtain ⟨hworkbook, -⟩ := Prod.mk.inj hview
  have haccepted := (compile_refiltered q.source.mapper h).1
  cases ending with
  | statement =>
      -- the texts may differ, what they are made of is there in both cases
      simp only [finish, map_ok_iff, statement_ok_iff, hworkbook]
      constructor
      · rintro ⟨a, r, ⟨c, table, hc, htable, -⟩, -⟩
        obtain ⟨c', hc'⟩ := haccepted.mp ⟨c, hc⟩
        exact ⟨_, _, ⟨c', table, hc', htable, rfl⟩, rfl⟩
      · rintro ⟨a, r, ⟨c', table, hc', htable, -⟩, -⟩
        obtain ⟨c, hc⟩ := haccepted.mpr ⟨c', hc'⟩
        exact ⟨_, _, ⟨c, table, hc, htable, rfl⟩, rfl⟩
  | clauses =>
      constructor
      · rintro ⟨a, ha⟩
        obtain ⟨c, hc, -⟩ := map_eq_ok_iff.mp ha
        obtain ⟨c', hc'⟩ := haccepted.mp ⟨c, hc⟩
        exact ⟨_, map_eq_ok_iff.mpr ⟨c', hc', rfl⟩⟩
      · rintro ⟨a, ha⟩
        obtain ⟨c', hc', -⟩ := map_eq_ok_iff.mp ha
        obtain ⟨c, hc⟩ := haccepted.mpr ⟨c', hc'⟩
        exact ⟨_, map_eq_ok_iff.mpr ⟨c, hc, rfl⟩⟩
  | unrun => exact iff_of_true ⟨_, rfl⟩ ⟨_, rfl⟩
  | _ => exact exists_congr (hruns rfl)

end Query

/-- The guests over age with a name, ordered by name; the ordering stands between the filters. -/
def namedAdults : List Clause :=
  [.filter (.binary (.compare .gt) (.ofColumn (.named "Age")) (.literal (.int 18))),
    .orderBy [⟨.ofColumn (.named "Name"), .descending⟩],
    .filter (.not (.test .isNullOrEmpty (.ofColumn (.named "Name")) none)),
    .filter (.binary (.compare .lt) (.literal (.text "A")) (.ofColumn (.named "Name")))]

/-- The same guests, the last filters in one before the first and the ordering at the end. -/
def adultsNamed : List Clause :=
  [.filter (.and (.not (.test .isNullOrEmpty (.ofColumn (.named "Name")) none))
      (.binary (.compare .lt) (.literal (.text "A")) (.ofColumn (.named "Name")))),
    .filter (.binary (.compare .gt) (.ofColumn (.named "Age")) (.literal (.int 18))),
    .orderBy [⟨.ofColumn (.named "Name"), .descending⟩]]

theorem refiltered_namedAdults : Refiltered namedAdults adultsNamed := by
  have hperm : List.Perm (namedAdults.take 2 ++ namedAdults.drop 2)
      (namedAdults.drop 2 ++ namedAdults.take 2) := List.perm_append_comm
  exact .trans (.permuted hperm rfl) (.joined [] (namedAdults.take 2) _ _)

set_option maxRecDepth 1500 in
theorem Query.finish_refiltered_guests :
    ((allGuests.withBody namedAdults).finish .count guests).1 = .ok (.count 1) ∧
      ((allGuests.withBody adultsNamed).finish .count guests).1 = .ok (.count 1) := by
  have hcount : ((allGuests.withBody namedAdults).finish .count guests).1 = .ok (.count 1) := rfl
  have hnames : ((allGuests.withBody namedAdults).ended .count).NamesFit
      guests.backend.workbook := by
    constructor
    · rintro c hc
      cases hc
      decide
    · rintro table htable
      cases htable
      decide
  exact ⟨hcount, ((finish_refiltered refiltered_namedAdults rfl hnames).2 rfl _).mp hcount⟩

end SheetQuery
