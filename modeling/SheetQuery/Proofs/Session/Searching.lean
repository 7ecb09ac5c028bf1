import SheetQuery.Proofs.Session.Filtering
import SheetQuery.Proofs.Sql.Matching
import SheetQuery.Proofs.Text.Casing

/-!
# Searching a column

Tests whether a text contains, starts with or ends with a part go out as patterns: the part with
percent signs where more text may stand. The part is put into the pattern as it is, so a percent
sign of its own stands for any text as well, and only parts without one are searched for literally.

Main statement: `Query.fetch_searched`. That a percent sign finds more is `fetch_searched_wildcard`.
-/

namespace SheetQuery

open Sql

/-! ## A filter that asks for one condition -/

/-- The clauses that filter whole rows in one way. -/
def Clauses.filteredBy (f : Filter) : Clauses :=
  { Clauses.all with filter := some f, columnsUsed := f.columns.foldl useColumn [] }

theorem compile_filteredBy {mapper : Mapper} {shape : ItemShape} {p : Expr} {f : Filter}
    (hf : Filter.ofExpr mapper shape p = .ok f) :
    compile mapper (Model.filtered shape [p]) = .ok (.filteredBy f) :=
  compile_filtered (Clauses.withPredicates_cons (Model.predicates_filtered shape [p]) hf)

/-- A query for all items that is filtered by one predicate fetches the rows of which the condition
holds that the predicate asks for. -/
theorem Query.fetch_filtered {q : Query} {shape : ItemShape} (hmodel : q.model = .all shape)
    {line : Line Engine} (hpending : line.backend.pendingFailure = none) {table : Table}
    {name : String} {t : ResultSet} (hreads : q.source.Reads line.backend.workbook table name t)
    {p : Expr} {k : Condition} (hasks : p.Asks q.source.mapper shape k)
    (hcolumns : ∀ column ∈ k.columns, column ∈ t.columns ∧ IsBracketable column) :
    ((q.filtered [p]).fetch line).1 =
      .ok ⟨table, t.columns, t.rows.filter (k.holds t.columns ·)⟩ := by
  obtain ⟨f, hf, rfl⟩ := Filter.ofExpr_of_asks hasks
  have hlisted : ∀ column ∈ f.columns, column ∈ t.columns ∧ IsBracketable column :=
    fun column hcolumn => hcolumns column (Filter.mem_columns_condition.mpr hcolumn)
  have hclauses : (q.filtered [p]).clauses = .ok (.filteredBy f) := by
    unfold clauses
    rw [filtered_eq, hmodel]
    exact compile_filteredBy hf
  have hwritable : (Clauses.filteredBy f).IsWritable := by
    refine ⟨trivial, ?_, nofun⟩
    intro filter hfilter column hcolumn
    cases hfilter
    exact (hlisted column hcolumn).2
  have hanswer := Engine.answer_eq hwritable hreads.clause hreads.isBracketable hreads.shown
  have hevaluate : Statement.evaluate ⟨.all, name, some f.condition, none⟩ t =
      .ok ⟨t.columns, t.rows.filter (f.condition.holds t.columns ·)⟩ := by
    refine Statement.evaluate_all ?_
    intro condition hcondition column hcolumn
    cases hcondition
    exact (hcolumns column hcolumn).1
  refine fetch_ok_iff.mpr ⟨hpending, _, hclauses, ?_⟩
  rw [filtered_eq]
  refine ⟨hreads.resolved, hanswer.trans hevaluate, Source.checkUsed_eq_ok ?_⟩
  intro column hcolumn
  rcases mem_foldl_useColumn.mp hcolumn with hcolumn | hcolumn
  · cases hcolumn
  · exact (hlisted column hcolumn).1

/-! ## Parts of texts -/

/-- Where in a text a part is searched for. -/
inductive Sought where
  | anywhere
  | atStart
  | atEnd
  deriving DecidableEq, Repr

namespace Sought

/-- The test that searches there. -/
def test : Sought → TextTest
  | anywhere => .contains
  | atStart => .startsWith
  | atEnd => .endsWith

/-- The pattern with the part in it. -/
def pattern (part : List Char) : Sought → List Char
  | anywhere => wildcard :: (part ++ [wildcard])
  | atStart => part ++ [wildcard]
  | atEnd => wildcard :: part

/-- The part is there in the text. -/
def IsIn (part s : List Char) : Sought → Prop
  | anywhere => part <:+: s
  | atStart => part <+: s
  | atEnd => part <:+ s

variable {mapper : Mapper} {shape : ItemShape} {sought : Sought}

theorem lower_pattern (part : List Char) (sought : Sought) :
    Text.lower (sought.pattern part) = sought.pattern (Text.lower part) := by
  cases sought with
  | anywhere =>
      rw [pattern, Text.lower_cons_wildcard, Text.lower_concat_wildcard]
      rfl
  | atStart => exact Text.lower_concat_wildcard part
  | atEnd => exact Text.lower_cons_wildcard part

/-- The pattern stands for the texts in which there is what the part stands for. -/
theorem standsFor_pattern_iff {part s : List Char} :
    StandsFor (sought.pattern part) s ↔ ∃ found, StandsFor part found ∧ sought.IsIn found s := by
  cases sought with
  | anywhere =>
      rw [pattern, standsFor_cons_wildcard_iff]
      constructor
      · rintro ⟨tail, htail, hsuffix⟩
        obtain ⟨found, hfound, hprefix⟩ := standsFor_concat_wildcard_iff.mp htail
        exact ⟨found, hfound, hprefix.isInfix.trans hsuffix.isInfix⟩
      · rintro ⟨found, hfound, before, after, rfl⟩
        refine ⟨found ++ after, ?_, before, (List.append_assoc ..).symm⟩
        exact standsFor_concat_wildcard_iff.mpr ⟨found, hfound, List.prefix_append found after⟩
  | atStart => exact standsFor_concat_wildcard_iff
  | atEnd => exact standsFor_cons_wildcard_iff

/-- What the test of a column asks for. -/
theorem exists_asks {access argument : Expr} {column : String} {v : Value}
    (haccess : access.Names mapper shape column) (hargument : argument.IsLiteral v)
    (sought : Sought) : ∃ shown, shown.toList = sought.pattern v.chars ∧
      Expr.Asks mapper shape (.test sought.test access (some argument))
        (.like (.column column) (.literal (.text shown))) := by
  have hshown : v.display.toList = v.chars := String.toList_ofList
  cases sought with
  | anywhere =>
      refine ⟨_, ?_, .contains haccess hargument⟩
      rw [String.toList_append, String.toList_append, hshown]
      rfl
  | atStart =>
      refine ⟨_, ?_, .startsWith haccess hargument⟩
      rw [String.toList_append, hshown]
      rfl
  | atEnd =>
      refine ⟨_, ?_, .endsWith haccess hargument⟩
      rw [String.toList_append, hshown]
      rfl

/-- The cell is no missing value, and in the text it is shown with there is a text that the part
stands for, both in small letters. -/
def Finds (part : List Char) (cell : Value) (sought : Sought) : Prop :=
  cell.isNull = false ∧
    ∃ found, StandsFor (Text.lower part) found ∧ sought.IsIn found (Text.lower cell.chars)

/-- Without percent signs the part stands for itself. -/
theorem finds_iff {part : List Char} (h : wildcard ∉ part) {cell : Value} :
    sought.Finds part cell ↔
      cell.isNull = false ∧ sought.IsIn (Text.lower part) (Text.lower cell.chars) := by
  have hself : ∀ found, StandsFor (Text.lower part) found ↔ found = Text.lower part :=
    fun _ => standsFor_iff_eq (Text.wildcard_notMem_lower h)
  simp only [Finds, hself, exists_eq_left]

theorem fitsShown_iff {part : List Char} {shown : String} (h : shown.toList = sought.pattern part)
    {cell : Value} : fitsShown cell (.text shown) = true ↔ sought.Finds part cell := by
  have hfits : fits cell.chars shown.toList = true ↔
      StandsFor (Text.lower shown.toList) (Text.lower cell.chars) := fitsPieces_splitOn_iff
  rw [h, lower_pattern, standsFor_pattern_iff] at hfits
  rw [fitsShown, Bool.and_eq_true, Bool.not_eq_true', Finds]
  rw [← h] at hfits
  exact and_congr_right fun _ => hfits

end Sought

/-! ## Rows that are found -/

/-- **A search selects the rows in whose cells the part is found.** A query for the rows of a table,
filtered by a test whether a column contains, starts with or ends with the text of a constant, gets
the rows in whose cells there is a text that the constant stands for; where the constant has no
percent sign, those in which the constant itself is. -/
theorem Query.fetch_searched {s : Session} {root : TableIdentity} {type : ItemType} {q : Query}
    (hq : s.query root type = .ok q) {line : Line Engine}
    (hpending : line.backend.pendingFailure = none) {table : Table} {name : String} {t : ResultSet}
    (hreads : q.source.Reads line.backend.workbook table name t) {access argument : Expr}
    {column : String} {v : Value} (haccess : access.Names q.source.mapper type.shape column)
    (hcolumn : column ∈ t.columns) (hbracketable : IsBracketable column)
    (hargument : argument.IsLiteral v) (sought : Sought) :
    ∃ found : List Value → Bool,
      ((q.filtered [.test sought.test access (some argument)]).fetch line).1 =
        .ok ⟨table, t.columns, t.rows.filter found⟩ ∧
      (∀ row, found row = true ↔ sought.Finds v.chars (cell t.columns row column)) ∧
      (wildcard ∉ v.chars → ∀ row, found row = true ↔
        (cell t.columns row column).isNull = false ∧
          sought.IsIn (Text.lower v.chars) (Text.lower (cell t.columns row column).chars)) := by
  obtain ⟨rfl, hmodel, -, -⟩ := Session.query_eq hq
  obtain ⟨shown, hshown, hasks⟩ := Sought.exists_asks haccess hargument sought
  have hfound : ∀ row, Condition.holds t.columns row (.like (.column column) (.literal (.text shown)))
      = true ↔ sought.Finds v.chars (cell t.columns row column) :=
    fun _ => Sought.fitsShown_iff hshown
  refine ⟨_, fetch_filtered hmodel hpending hreads hasks ?_, hfound, ?_⟩
  · intro other hother
    obtain rfl : other = column := List.mem_singleton.mp hother
    exact ⟨hcolumn, hbracketable⟩
  · exact fun hliteral row => (hfound row).trans (Sought.finds_iff hliteral)

/-- All guests, filtered by a search for a text in their names. -/
def guestsNamed (sought : Sought) (part : String) : Query :=
  allGuests.filtered [.test sought.test (.ofColumn (.named "Name")) (some (.literal (.text part)))]

theorem fetch_searched_guests :
    ((guestsNamed .atStart "AN").fetch guests).1 =
      .ok ⟨⟨some "Guests", none, none⟩, ["Name", "Age"], [[.text "Ann", .int 31]]⟩ := by
  have hquery : Session.query ⟨some "guests.xls", .empty, .standard⟩
      (.worksheet (some (.named "Guests"))) .row = .ok allGuests := rfl
  obtain ⟨found, hfetch, -, hliteral⟩ := Query.fetch_searched hquery rfl reads_guests
    (.named "Name" nofun) (by decide) (by decide) (.literal (v := .text "AN")) .atStart
  have hfound : ∀ row, found row = decide ((cell ["Name", "Age"] row "Name").isNull = false ∧
      Text.lower "AN".toList <+: Text.lower (cell ["Name", "Age"] row "Name").chars) := by
    intro row
    rw [Bool.eq_iff_iff, decide_eq_true_iff]
    exact hliteral (by decide) row
  have hann : found [.text "Ann", .int 31] = true := (hfound _).trans (by decide)
  have hempty : found [.text "", .int 40] = false := (hfound _).trans (by decide)
  have hbob : found [.text "Bob", .null] = false := (hfound _).trans (by decide)
  have hcid : found [.text "Cid", .int 9] = false := (hfound _).trans (by decide)
  simp only [List.filter, hann, hempty, hbob, hcid] at hfetch
  exact hfetch

/-- A percent sign is not searched for: it is found in a name that has none. -/
theorem fetch_searched_wildcard : ∃ rows,
    ((guestsNamed .anywhere "%").fetch guests).1 =
      .ok ⟨⟨some "Guests", none, none⟩, ["Name", "Age"], rows⟩ ∧
    [.text "Ann", .int 31] ∈ rows ∧
    ¬ Sought.anywhere.IsIn (Text.lower "%".toList) (Text.lower "Ann".toList) := by
  have haccess : Expr.Names .empty .row (.ofColumn (.named "Name")) "Name" := .named "Name" nofun
  obtain ⟨shown, hshown, hasks⟩ :=
    Sought.exists_asks haccess (.literal (v := .text "%")) .anywhere
  have hcolumns : ∀ column ∈ ["Name"], column ∈ ["Name", "Age"] ∧ IsBracketable column := by decide
  have hfetch := Query.fetch_filtered rfl rfl reads_guests hasks hcolumns
  have hfinds : Sought.anywhere.Finds ['%'] (.text "Ann") :=
    ⟨rfl, [], .any [] .nil, List.nil_infix⟩
  refine ⟨_, hfetch, List.mem_filter.mpr ⟨List.mem_cons_self, ?_⟩, ?_⟩
  · exact (Sought.fitsShown_iff hshown).mpr hfinds
  · unfold Sought.IsIn
    decide

end SheetQuery
