import SheetQuery.Proofs.Session.Positions
import SheetQuery.Proofs.Workbook.Referents

/-!
# What queries read

A query for a worksheet, for a range of a worksheet or for a range of the workbook has one clause
each, and the workbook finds one object behind it. A range of a worksheet stands behind a range of
the workbook that has its name and was declared before it, and a range of the workbook stands behind
a worksheet that has its name. Everywhere else the query reads what it names.

Main statements: `Session.scoped_range_denotes` and `Session.worksheets_and_ranges_denote`.
-/

namespace SheetQuery

open Sql Workbook

namespace Query

variable {q : Query} {s : Session} {w : Workbook} {line : Line Engine} {table : Table}
  {reference : String} {x y : Referent}

/-- The query is one of the session, and aimed at that table of the workbook. -/
structure AimsAt (q : Query) (s : Session) (w : Workbook) (table : Table) : Prop where
  made : ∃ root type, s.query root type = .ok q
  resolved : q.source.resolve (q.source.listed w) = .ok table

/-- **The query reads the object**: the reference in its clause stands for it, and all items come
from its grid. -/
def Denotes (q : Query) (line : Line Engine) (x : Referent) : Prop :=
  ∃ table reference, q.source.Reads line.backend.workbook table reference
      (x.grid.toTable q.source.hasHeader) ∧
    line.backend.workbook.referent reference = .ok x ∧
    (q.fetch line).1 = .ok ⟨table, x.grid.toTable q.source.hasHeader⟩

theorem Denotes.unique (hx : q.Denotes line x) (hy : q.Denotes line y) : x = y := by
  obtain ⟨table, reference, hreads, hreferent, -⟩ := hx
  obtain ⟨table', reference', hreads', hreferent', -⟩ := hy
  obtain rfl := Except.ok.inj (hreads.resolved.symm.trans hreads'.resolved)
  have hclause := hreads.clause.symm.trans hreads'.clause
  have hreference : reference.toList = reference'.toList := by simpa [bracketed] using hclause
  obtain rfl := String.toList_injective hreference
  exact Except.ok.inj (hreferent.symm.trans hreferent')

/-- A query reads what its clause stands for. -/
theorem AimsAt.denotes (h : q.AimsAt s w table) (hline : line.view = (w, none))
    (hclause : table.clause = bracketed reference) (hfits : IsBracketable reference)
    (hreferent : w.referent reference = .ok x) : q.Denotes line x := by
  obtain ⟨hworkbook, hpending⟩ := Prod.mk.inj hline
  subst hworkbook
  obtain ⟨root, type, hquery⟩ := h.made
  obtain ⟨-, hmodel, -, -⟩ := Session.query_eq hquery
  have hshown : line.backend.workbook.table reference q.source.hasHeader =
      .ok (x.grid.toTable q.source.hasHeader) := by
    rw [Workbook.table, grid_eq, hreferent]
    rfl
  have hreads : q.source.Reads line.backend.workbook table reference
      (x.grid.toTable q.source.hasHeader) := ⟨h.resolved, hclause, hfits, hshown⟩
  exact ⟨table, reference, hreads, hreferent, fetch_all hmodel hreads hpending⟩

variable {sheet first : Sheet} {range : NamedRange} {name label : String}

/-- A query for a worksheet reads the worksheet. -/
theorem AimsAt.denotes_worksheet (h : q.AimsAt s w ⟨some name, none, none⟩)
    (hline : line.view = (w, none)) (hplain : w.HasPlainReferences)
    (hsheet : w.sheetNamed? name = some sheet) : q.Denotes line (.sheet sheet) := by
  have hreferable := hplain.isReferable_of_sheetNamed? hsheet
  obtain ⟨reference, hclause, hfits, rfl | rfl⟩ :=
    Table.exists_clause_worksheet hreferable.bracketable
  · exact h.denotes hline hclause hfits (referent_of_sheetNamed? hsheet)
  · exact h.denotes hline hclause hfits (referent_push hplain hsheet)

/-- A query for a range of a worksheet reads the range that the worksheet shows. -/
theorem AimsAt.denotes_scoped (h : q.AimsAt s w ⟨some name, some label, none⟩)
    (hline : line.view = (w, none)) (hplain : w.HasPlainReferences)
    (hsheet : w.sheetNamed? name = some sheet) (hrange : w.sheetRange? name label = some range)
    (hnamed : label ≠ "") : q.Denotes line (.range sheet range) := by
  have hreferable := hplain.isReferable_of_sheetNamed? hsheet
  obtain ⟨hclause, hfits⟩ :=
    hreferable.clause_scoped (hplain.isReferable_of_sheetRange? hrange) hnamed
  exact h.denotes hline hclause hfits (referent_scoped hplain hsheet hrange hnamed)

/-- A query for a range of the workbook reads it on the first worksheet, unless a worksheet has its
name. -/
theorem AimsAt.denotes_own (h : q.AimsAt s w ⟨none, some label, none⟩)
    (hline : line.view = (w, none)) (hplain : w.HasPlainReferences)
    (hrange : w.ownRange? label = some range) (hfirst : w.sheets.head? = some first) :
    q.Denotes line ((w.sheetNamed? label).elim (.range first range) Referent.sheet) := by
  have hreferable := hplain.isReferable_of_ownRange? hrange
  exact h.denotes hline hreferable.clause_own hreferable.bracketable
    (referent_own hplain hrange hfirst)

/-- A worksheet and a range of the workbook are read as one object exactly where they have one
name. -/
theorem denotes_alike_iff {p : Query} (hline : line.view = (w, none))
    (hplain : w.HasPlainReferences) (hfirst : w.sheets.head? = some first)
    (hsheet : w.sheetNamed? name = some sheet) (hrange : w.ownRange? label = some range)
    (hp : p.AimsAt s w ⟨some name, none, none⟩) (hq : q.AimsAt s w ⟨none, some label, none⟩) :
    (∃ x, p.Denotes line x ∧ q.Denotes line x) ↔ label = name := by
  have hworksheet := hp.denotes_worksheet hline hplain hsheet
  have hown := hq.denotes_own hline hplain hrange hfirst
  constructor
  · rintro ⟨x, hpx, hqx⟩
    obtain rfl := hpx.unique hworksheet
    have hsame := hqx.unique hown
    cases hshown : w.sheetNamed? label with
    | none =>
        rw [hshown] at hsame
        cases hsame
    | some shown =>
        rw [hshown] at hsame
        cases hsame
        exact (name_of_sheetNamed? hshown).symm.trans (name_of_sheetNamed? hsheet)
  · rintro rfl
    rw [hsheet] at hown
    exact ⟨.sheet sheet, hworksheet, hown⟩

end Query

namespace Session

variable {s : Session} {file : String} {w : Workbook} {line : Line Engine} {sheet first : Sheet}
  {own : NamedRange} {name : String}

/-- A file that is no comma-separated one has queries for its worksheets by name, for their ranges
and for its own. -/
theorem exists_query_aimed (hfile : s.file = some file) (hnamed : file ≠ "")
    (hcsv : isCsvName file.toList = false) (root : TableIdentity) (worksheet : Option String)
    (hworksheet : root.worksheet? = worksheet.map Worksheet.named) (hrange : root.range? = none)
    (hempty : worksheet ≠ some "") (hgiven : worksheet.isSome ∨ root.namedRange?.isSome)
    (w : Workbook) {type : ItemType} {hints : List (String × String)}
    (hhints : type.hints = .ok hints) :
    ∃ q, s.query root type = .ok q ∧ q.AimsAt s w ⟨worksheet, root.namedRange?, none⟩ := by
  have hallowed : root.worksheet? ≠ some (.named "") := by
    rw [hworksheet]
    cases worksheet with
    | none => exact nofun
    | some worksheet => simpa using hempty
  obtain ⟨q, hquery, hsame, htable⟩ := exists_query hfile hnamed hrange hallowed hhints
  have hsource : q.source.isCsv = false := by rw [Source.isCsv, hsame, hcsv]
  have hname : q.source.worksheetName (q.source.listed w) = .ok worksheet := by
    unfold Source.worksheetName
    rw [hsource, htable, hworksheet]
    cases worksheet with
    | none => simp [hgiven.resolve_left (by simp)]
    | some worksheet => rfl
  refine ⟨q, hquery, ⟨_, _, hquery⟩, ?_⟩
  rw [Source.resolve, hname, htable, hrange]
  rfl

/-- **A range of a worksheet** that is declared once for it is what a query for it reads, unless the
workbook had a range of its name before, which is read in its place. The ranges of other worksheets
and later declarations make no difference. -/
theorem scoped_range_denotes (hfile : s.file = some file) (hnamed : file ≠ "")
    (hcsv : isCsvName file.toList = false) (hplain : w.HasPlainReferences)
    (hsheet : w.sheetNamed? name = some sheet) {before after : List NamedRange}
    (hranges : w.ranges = before ++ own :: after) (hown : own.worksheet = some name)
    (honce : ∀ r ∈ before ++ after, r.name = own.name → r.worksheet ≠ some name)
    (hrange : own.name ≠ "") (hline : line.view = (w, none)) :
    (∀ q : Query, q.AimsAt s w ⟨some name, some own.name, none⟩ →
      q.Denotes line (.range sheet
        ((({ w with ranges := before } : Workbook).ownRange? own.name).getD own))) ∧
    (name ≠ "" → ∀ (type : ItemType) (hints : List (String × String)), type.hints = .ok hints →
      ∃ q, s.query (.namedRange (some (.named name)) own.name) type = .ok q ∧
        q.AimsAt s w ⟨some name, some own.name, none⟩) := by
  constructor
  · intro q haims
    have hshown := sheetRange?_eq hranges hown fun r hr => honce r (List.mem_append_left after hr)
    exact haims.denotes_scoped hline hplain hsheet hshown hrange
  · intro hname type hints hhints
    exact exists_query_aimed hfile hnamed hcsv (.namedRange (some (.named name)) own.name)
      (some name) rfl rfl (by simpa using hname) (Or.inl rfl) w hhints

/-- The plan of a budget. -/
def planned : Sheet :=
  ⟨"Plan", [[.int 1, .int 2], [.int 3, .int 4]]⟩

/-- What came of the plan. -/
def actual : Sheet :=
  ⟨"Actual", [[.int 5, .int 6], [.int 7, .int 8]]⟩

/-- The budget with ranges. -/
def budget (ranges : List NamedRange) : Workbook :=
  ⟨[planned, actual], ranges⟩

/-- The cell of the totals of one worksheet, or of the workbook. -/
def totals (worksheet : Option String) (row column : Nat) : NamedRange :=
  ⟨worksheet, "Totals", ⟨row, column⟩, ⟨row, column⟩⟩

/-- A line to the budget. -/
def budgetDesk (ranges : List NamedRange) : Line Engine :=
  .ofBackend (.ofWorkbook (budget ranges))

theorem budgetDesk_view (ranges : List NamedRange) :
    (budgetDesk ranges).view = (budget ranges, none) := rfl

/-- There are queries for the ranges of the budget. -/
theorem exists_aimed_budget (worksheet : Option String) (hempty : worksheet ≠ some "")
    (label : String) (ranges : List NamedRange) : ∃ q : Query,
      q.AimsAt (new (some "budget.xls")) (budget ranges) ⟨worksheet, some label, none⟩ := by
  have hfile : (new (some "budget.xls")).file = some "budget.xls" := rfl
  have hhints : ItemType.headerless.hints = .ok [] := rfl
  obtain ⟨q, -, haims⟩ := exists_query_aimed hfile (by decide) (by decide)
    (.namedRange (worksheet.map .named) label) worksheet rfl rfl hempty (Or.inr rfl)
    (budget ranges) hhints
  exact ⟨q, haims⟩

/-- Totals of which those of the workbook come last. -/
def totalsLast : List NamedRange :=
  [totals (some "Plan") 0 0, totals (some "Actual") 0 1, totals none 1 1]

/-- Totals of which those of the workbook come first. -/
def totalsFirst : List NamedRange :=
  [totals none 1 1, totals (some "Actual") 0 1]

/-- The totals of the second worksheet are read, between those of the first and of the workbook. -/
theorem scoped_range_denotes_budget :
    ∃ q, (new (some "budget.xls")).query (.namedRange (some (.named "Actual")) "Totals")
        .headerless = .ok q ∧
      q.Denotes (budgetDesk totalsLast) (.range actual (totals (some "Actual") 0 1)) ∧
      (Referent.range actual (totals (some "Actual") 0 1)).grid = [[.int 6]] := by
  have hfile : (new (some "budget.xls")).file = some "budget.xls" := rfl
  have hplain : (budget totalsLast).HasPlainReferences := ⟨by decide, by decide⟩
  have hranges : (budget totalsLast).ranges =
      [totals (some "Plan") 0 0] ++ totals (some "Actual") 0 1 :: [totals none 1 1] := rfl
  obtain ⟨hdenotes, hexists⟩ := scoped_range_denotes hfile (by decide) (by decide) hplain rfl
    hranges rfl (by decide) (by decide) (budgetDesk_view _)
  obtain ⟨q, hquery, haims⟩ := hexists (by decide) .headerless [] rfl
  exact ⟨q, hquery, hdenotes q haims, rfl⟩

/-- **A range of a worksheet is not read wherever it is declared**: the totals of the workbook are
read in its place where they were declared before. -/
theorem scoped_range_hidden :
    ¬ ∀ (s : Session) (file : String) (w : Workbook) (line : Line Engine) (name : String)
      (sheet : Sheet) (before after : List NamedRange) (own : NamedRange), s.file = some file →
        file ≠ "" → isCsvName file.toList = false → w.HasPlainReferences →
        w.sheetNamed? name = some sheet → w.ranges = before ++ own :: after →
        own.worksheet = some name →
        (∀ r ∈ before ++ after, r.name = own.name → r.worksheet ≠ some name) → own.name ≠ "" →
        line.view = (w, none) → ∀ q : Query, q.AimsAt s w ⟨some name, some own.name, none⟩ →
        q.Denotes line (.range sheet own) := by
  intro h
  have hfile : (new (some "budget.xls")).file = some "budget.xls" := rfl
  have hplain : (budget totalsFirst).HasPlainReferences := ⟨by decide, by decide⟩
  have hranges : (budget totalsFirst).ranges =
      [totals none 1 1] ++ totals (some "Actual") 0 1 :: [] := rfl
  obtain ⟨q, haims⟩ := exists_aimed_budget (some "Actual") (by decide) "Totals" totalsFirst
  have hown := h _ _ _ _ _ actual _ _ (totals (some "Actual") 0 1) hfile (by decide) (by decide)
    hplain rfl hranges rfl (by decide) (by decide) (budgetDesk_view _) q haims
  have hshown : q.Denotes (budgetDesk totalsFirst) (.range actual (totals none 1 1)) :=
    haims.denotes_scoped (budgetDesk_view _) hplain rfl rfl (by decide)
  -- the two ranges are different cells
  injection hown.unique hshown with _ hrange
  exact absurd hrange (by decide)

/-- **Worksheets and ranges of the workbook.** A query for a worksheet reads the whole of it. A query
for a range of the workbook reads the first one of that name that is declared, on the first
worksheet, unless a worksheet has the name, which is read in its place. So two such queries read one
object exactly where they name it alike. -/
theorem worksheets_and_ranges_denote (hfile : s.file = some file) (hnamed : file ≠ "")
    (hcsv : isCsvName file.toList = false) (hplain : w.HasPlainReferences)
    (hfirst : w.sheets.head? = some first) (hline : line.view = (w, none)) :
    (∀ name sheet, w.sheetNamed? name = some sheet →
      (∀ q : Query, q.AimsAt s w ⟨some name, none, none⟩ → q.Denotes line (.sheet sheet)) ∧
      (name ≠ "" → ∀ (type : ItemType) (hints : List (String × String)), type.hints = .ok hints →
        ∃ q, s.query (.worksheet (some (.named name))) type = .ok q ∧
          q.AimsAt s w ⟨some name, none, none⟩)) ∧
    (∀ label range, w.ownRange? label = some range →
      (∀ q : Query, q.AimsAt s w ⟨none, some label, none⟩ →
        q.Denotes line ((w.sheetNamed? label).elim (.range first range) Referent.sheet)) ∧
      ∀ (type : ItemType) (hints : List (String × String)), type.hints = .ok hints →
        ∃ q, s.query (.namedRange none label) type = .ok q ∧
          q.AimsAt s w ⟨none, some label, none⟩) ∧
    ∀ name sheet label range (p q : Query), w.sheetNamed? name = some sheet →
      w.ownRange? label = some range → p.AimsAt s w ⟨some name, none, none⟩ →
      q.AimsAt s w ⟨none, some label, none⟩ →
      ((∃ x, p.Denotes line x ∧ q.Denotes line x) ↔ label = name) := by
  refine ⟨?_, ?_, ?_⟩
  · intro name sheet hsheet
    constructor
    · exact fun q haims => haims.denotes_worksheet hline hplain hsheet
    · intro hname type hints hhints
      exact exists_query_aimed hfile hnamed hcsv (.worksheet (some (.named name))) (some name) rfl
        rfl (by simpa using hname) (Or.inl rfl) w hhints
  · intro label range hrange
    constructor
    · exact fun q haims => haims.denotes_own hline hplain hrange hfirst
    · intro type hints hhints
      exact exists_query_aimed hfile hnamed hcsv (.namedRange none label) none rfl rfl nofun
        (Or.inr rfl) w hhints
  · intro name sheet label range p q hsheet hrange hp hq
    exact Query.denotes_alike_iff hline hplain hfirst hsheet hrange hp hq

/-- A worksheet and the totals of the workbook, which no worksheet is named like. -/
theorem worksheets_and_ranges_denote_budget :
    ∃ p q, (new (some "budget.xls")).query (.worksheet (some (.named "Plan"))) .headerless = .ok p ∧
      (new (some "budget.xls")).query (.namedRange none "Totals") .headerless = .ok q ∧
      p.Denotes (budgetDesk totalsFirst) (.sheet planned) ∧
      q.Denotes (budgetDesk totalsFirst) (.range planned (totals none 1 1)) ∧
      ¬∃ x, p.Denotes (budgetDesk totalsFirst) x ∧ q.Denotes (budgetDesk totalsFirst) x := by
  have hfile : (new (some "budget.xls")).file = some "budget.xls" := rfl
  have hplain : (budget totalsFirst).HasPlainReferences := ⟨by decide, by decide⟩
  obtain ⟨hworksheets, hranges, halike⟩ := worksheets_and_ranges_denote hfile (by decide)
    (by decide) hplain rfl (budgetDesk_view totalsFirst)
  obtain ⟨hsheet, hsheetquery⟩ := hworksheets "Plan" planned rfl
  obtain ⟨hrange, hrangequery⟩ := hranges "Totals" (totals none 1 1) rfl
  obtain ⟨p, hp, hpaims⟩ := hsheetquery (by decide) .headerless [] rfl
  obtain ⟨q, hq, hqaims⟩ := hrangequery .headerless [] rfl
  refine ⟨p, q, hp, hq, hsheet p hpaims, hrange q hqaims, ?_⟩
  rw [halike "Plan" planned "Totals" (totals none 1 1) p q rfl rfl hpaims hqaims]
  decide

/-- The second row of the plan, under the name of the plan. -/
def planRange : NamedRange :=
  ⟨none, "Plan", ⟨1, 0⟩, ⟨1, 1⟩⟩

/-- **Worksheets and ranges of the workbook are not apart**: a query for a range with the name of a
worksheet reads the worksheet. -/
theorem own_range_hidden :
    ¬ ∀ (s : Session) (file : String) (w : Workbook) (line : Line Engine) (first : Sheet)
      (label : String) (range : NamedRange), s.file = some file → file ≠ "" →
        isCsvName file.toList = false → w.HasPlainReferences →
        (∀ sheet ∈ w.sheets, isCsvName sheet.name.toList = false) →
        (∀ r ∈ w.ranges, isCsvName r.name.toList = false) → w.sheets.head? = some first →
        line.view = (w, none) → w.ownRange? label = some range →
        ∀ q : Query, q.AimsAt s w ⟨none, some label, none⟩ →
        q.Denotes line (.range first range) := by
  intro h
  have hfile : (new (some "budget.xls")).file = some "budget.xls" := rfl
  have hplain : (budget [planRange]).HasPlainReferences := ⟨by decide, by decide⟩
  obtain ⟨q, haims⟩ := exists_aimed_budget none (by decide) "Plan" [planRange]
  have hrange := h _ _ _ _ planned "Plan" planRange hfile (by decide) (by decide) hplain (by decide)
    (by decide) rfl (budgetDesk_view _) rfl q haims
  have hshown : q.Denotes (budgetDesk [planRange]) (.sheet planned) :=
    haims.denotes_own (budgetDesk_view _) hplain rfl rfl
  cases hrange.unique hshown

end Session

end SheetQuery
