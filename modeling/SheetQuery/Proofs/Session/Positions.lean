import SheetQuery.Proofs.Backend.Answers
import SheetQuery.Proofs.Session.Previewing
import SheetQuery.Proofs.Workbook.Listing

/-!
# Worksheets by position

A worksheet can be asked for by its position. The position is looked up in the names of the
worksheets that the listing of the workbook shows; the name found there goes into the statement,
with a dollar sign behind it, and the workbook reads it back. Where no name has a sign of its own,
position and worksheet go together over the whole way.

Main statement: `Session.positioned_reads`.
-/

namespace SheetQuery

/-! ## Sources -/

namespace Source

variable {s : Source} {w : Workbook} {i : Nat}

/-- The table for a position is the worksheet that is stored there. -/
theorem resolve_positioned (htable : s.table = .worksheet (some (.positioned i)))
    (hcsv : s.isCsv = false) (h : w.IsPlain) :
    s.resolve (s.listed w) = w.sheets[i]?.elim (.error (.configuration .worksheetIndexOutOfRange))
      fun sheet => .ok ⟨some sheet.name, none, none⟩ := by
  have hasked : s.askedIndex? = some i := by
    unfold askedIndex?
    rw [hcsv, htable]
    rfl
  have hlisted : s.listed w = w.sheets.map Sheet.name := by
    unfold listed
    rw [hasked, Workbook.worksheets_tableNames h]
    rfl
  unfold resolve worksheetName
  rw [hcsv, htable, hlisted]
  simp only [TableIdentity.worksheet?, List.getElem?_map]
  cases w.sheets[i]? <;> rfl

/-- Its clause stands for the worksheet and nothing else. -/
theorem reads_positioned (htable : s.table = .worksheet (some (.positioned i)))
    (hcsv : s.isCsv = false) (h : w.IsPlain) (hnodup : (w.sheets.map Sheet.name).Nodup)
    {sheet : Sheet} (hsheet : w.sheets[i]? = some sheet) :
    ∃ reference, s.Reads w ⟨some sheet.name, none, none⟩ reference
      (sheet.grid.toTable s.hasHeader) := by
  have hmem : sheet ∈ w.sheets := List.mem_of_getElem? hsheet
  have hfound := Workbook.sheet?_of_mem hnodup hmem
  have hresolved : s.resolve (s.listed w) = .ok ⟨some sheet.name, none, none⟩ := by
    rw [resolve_positioned htable hcsv h, hsheet, Option.elim_some]
  obtain ⟨reference, hclause, hfits, hreference⟩ :=
    Table.exists_clause_worksheet (h.sheets sheet hmem).2.2
  have hgrid : w.grid reference = .ok sheet.grid := by
    rcases hreference with rfl | rfl
    · rw [Workbook.grid, hfound]
    · rw [Workbook.grid_push hfound, h.sheet?_push]
      rfl
  exact ⟨reference, hresolved, hclause, hfits, map_eq_ok_iff.mpr ⟨_, hgrid, rfl⟩⟩

end Source

/-! ## Queries -/

namespace Query

variable {q : Query} {line : Line Engine} {i : Nat}

/-- A query for all items fetches the table as it is. -/
theorem fetch_all {shape : ItemShape} (hmodel : q.model = .all shape) {table : Table}
    {name : String} {t : ResultSet} (hreads : q.source.Reads line.backend.workbook table name t)
    (hpending : line.backend.pendingFailure = none) : (q.fetch line).1 = .ok ⟨table, t⟩ := by
  have hclauses : q.clauses = .ok .all := by
    unfold clauses
    rw [hmodel]
    rfl
  have hanswer := Engine.answer_all hreads.clause hreads.isBracketable hreads.shown
  have hused : Source.checkUsed .all t.columns = .ok () := Source.checkUsed_eq_ok nofun
  exact fetch_ok_iff.mpr ⟨hpending, .all, hclauses, hreads.resolved, hanswer, hused⟩

/-- **The query reads the worksheet that is stored in a position.** Where there is one, the clause
of the source stands for that worksheet as a table, and all items bring this table back. Where there
is none, whatever is made of the query fails once it compiles, and says that the position is out of
range. -/
structure ReadsStored (q : Query) (line : Line Engine) (i : Nat) : Prop where
  stored : ∀ sheet, line.backend.workbook.sheets[i]? = some sheet →
    (∃ reference, q.source.Reads line.backend.workbook ⟨some sheet.name, none, none⟩ reference
      (sheet.grid.toTable q.source.hasHeader)) ∧
    (q.fetch line).1 =
      .ok ⟨⟨some sheet.name, none, none⟩, sheet.grid.toTable q.source.hasHeader⟩
  behind : line.backend.workbook.sheets.length ≤ i →
    ∀ (model : Model) (ending : Ending) (c : Clauses), ending.runs = true →
      ((q.composed model).ended ending).checkProjection ending = .ok () →
      ((q.composed model).ended ending).clauses = .ok c →
      ∃ fault, ((q.composed model).finish ending line).1 = .error (.configuration fault) ∧
        fault.message = "Worksheet Index Out of Range"

theorem readsStored_of_positioned {shape : ItemShape} (hmodel : q.model = .all shape)
    (htable : q.source.table = .worksheet (some (.positioned i))) (hcsv : q.source.isCsv = false)
    (h : line.backend.workbook.IsPlain)
    (hnodup : (line.backend.workbook.sheets.map Sheet.name).Nodup)
    (hpending : line.backend.pendingFailure = none) : q.ReadsStored line i := by
  constructor
  · intro sheet hsheet
    obtain ⟨reference, hreads⟩ := Source.reads_positioned htable hcsv h hnodup hsheet
    exact ⟨⟨reference, hreads⟩, fetch_all hmodel hreads hpending⟩
  · intro hbehind model ending c hruns hcheck hclauses
    refine ⟨.worksheetIndexOutOfRange, ?_, rfl⟩
    have hresolve := Source.resolve_positioned htable hcsv h
    rw [List.getElem?_eq_none hbehind, Option.elim_none] at hresolve
    have hfetch := fetch_of_resolve_error hclauses line hresolve
    exact congrArg Prod.fst ((finish_follows hruns hcheck).error (congrArg Prod.fst hfetch))

end Query

/-! ## Sessions -/

namespace Session

variable {s : Session} {file : String}

/-- The names of the worksheets are those that the listing of the workbook shows. -/
theorem worksheets_result (hfile : s.file = some file) (line : Line Engine) :
    (s.worksheets line).1 = .ok (Catalog.worksheets line.backend.workbook.tableNames) :=
  look_result hfile Action.isBlind_worksheets line

/-- There is a query for every part of the file that is no cell range and has no empty worksheet
name. -/
theorem exists_query (hfile : s.file = some file) (hnamed : file ≠ "") {root : TableIdentity}
    (hrange : root.range? = none) (hworksheet : root.worksheet? ≠ some (.named ""))
    {type : ItemType} {hints : List (String × String)} (hhints : type.hints = .ok hints) :
    ∃ q, s.query root type = .ok q ∧ q.source.file = file ∧ q.source.table = root := by
  have hrequired : s.requiredFile = .ok file := by
    unfold requiredFile
    rw [hfile]
  have hcheck : Source.check ⟨file, root, type.hasHeader, s.mapper.mergeHints hints, s.options⟩ =
      .ok () := by
    have hnonempty : file.isEmpty = false := by simpa using hnamed
    have hnothing : (root.worksheet? == some (.named "")) = false := by simpa using hworksheet
    unfold Source.check Source.checkRange
    simp only [hnonempty, hrange, hnothing]
    rfl
  have hsource : Source.checked ⟨file, root, type.hasHeader, s.mapper.mergeHints hints,
      s.options⟩ = .ok _ := map_eq_ok_iff.mpr ⟨(), hcheck, rfl⟩
  unfold query
  rw [hrequired, ok_bind, hhints, ok_bind]
  exact ⟨_, bind_eq_ok_iff.mpr ⟨_, hsource, rfl⟩, rfl, rfl⟩

/-- There is a query for the worksheet in any position. -/
theorem exists_query_positioned (hfile : s.file = some file) (hnamed : file ≠ "") {type : ItemType}
    {hints : List (String × String)} (hhints : type.hints = .ok hints) (i : Nat) :
    ∃ q, s.query (.worksheet (some (.positioned i))) type = .ok q ∧ q.source.file = file ∧
      q.source.table = .worksheet (some (.positioned i)) :=
  exists_query hfile hnamed rfl (by simp [TableIdentity.worksheet?]) hhints

/-- **Positions go by the order of the worksheets.** In a workbook with plain names, whatever
declarations have made it, and under a file name that is not that of a comma-separated file, the
worksheets are shown by their names in the order in which they are stored, and for every position
there is a query that reads the worksheet stored there. -/
theorem positioned_reads {declarations : List Declaration}
    (hplain : (Workbook.declared declarations).IsPlain) (hfile : s.file = some file)
    (hnamed : file ≠ "") (hcsv : isCsvName file.toList = false) {line : Line Engine}
    (hline : line.view = (Workbook.declared declarations, none)) :
    (s.worksheets line).1 = .ok ((Workbook.declared declarations).sheets.map Sheet.name) ∧
      ∀ (i : Nat) (type : ItemType) (hints : List (String × String)), type.hints = .ok hints →
        ∃ q, s.query (.worksheet (some (.positioned i))) type = .ok q ∧
          q.source.hasHeader = type.hasHeader ∧ q.ReadsStored line i := by
  obtain ⟨hworkbook, hpending⟩ := Prod.mk.inj hline
  have hnodup := Workbook.nodup_declared declarations
  rw [← hworkbook] at hplain hnodup ⊢
  constructor
  · rw [worksheets_result hfile, Workbook.worksheets_tableNames hplain]
  · intro i type hints hhints
    obtain ⟨q, hquery, hsame, htable⟩ := exists_query_positioned hfile hnamed hhints i
    obtain ⟨-, hmodel, hheader, -⟩ := query_eq hquery
    have hsource : q.source.isCsv = false := by rw [Source.isCsv, hsame, hcsv]
    exact ⟨q, hquery, hheader,
      Query.readsStored_of_positioned hmodel htable hsource hplain hnodup hpending⟩

/-- A hotel whose guests are declared a second time, and so come last. One name asks for quotes, one
is that of a comma-separated file, and there are ranges of a worksheet and of the workbook. -/
def hotelDeclarations : List Declaration :=
  [.sheet "Guests" ["Name"] [], .sheet "Long stays" ["Name", "Nights"] [[.text "Bob", .int 9]],
    .range (some "Long stays") "Nights" "B1" "B2", .grid "rooms.csv" [[.int 101], [.int 102]],
    .range none "All" "A1" "B9", .grid "Guests" [[.text "Name"], [.text "Ann"]]]

/-- A line to the hotel. -/
def hotelDesk : Line Engine :=
  .ofBackend (.ofWorkbook (Workbook.declared hotelDeclarations))

theorem positioned_reads_hotel :
    (Workbook.declared hotelDeclarations).IsPlain ∧ isCsvName "hotel.xls".toList = false ∧
      ((new (some "hotel.xls")).worksheets hotelDesk).1 =
        .ok ["Long stays", "rooms.csv", "Guests"] ∧
      (∃ q, (new (some "hotel.xls")).query (.worksheet (some (.positioned 1))) .headerless = .ok q ∧
        (q.fetch hotelDesk).1 =
          .ok ⟨⟨some "rooms.csv", none, none⟩, ⟨["F1"], [[.int 101], [.int 102]]⟩⟩) ∧
      ∃ q, (new (some "hotel.xls")).query (.worksheet (some (.positioned 3))) .row = .ok q ∧
        ∃ fault, ((q.composed (.all .row)).finish .items hotelDesk).1 =
          .error (.configuration fault) ∧ fault.message = "Worksheet Index Out of Range" := by
  have hplain : (Workbook.declared hotelDeclarations).IsPlain :=
    ⟨by decide, by decide, by decide, by decide⟩
  have hcsv : isCsvName "hotel.xls".toList = false := by decide
  have hfile : (new (some "hotel.xls")).file = some "hotel.xls" := rfl
  have hline : hotelDesk.view = (Workbook.declared hotelDeclarations, none) := rfl
  obtain ⟨hnames, hpositions⟩ := positioned_reads hplain hfile (by decide) hcsv hline
  refine ⟨hplain, hcsv, hnames, ?_, ?_⟩
  · obtain ⟨q, hquery, hheader, hreads⟩ := hpositions 1 .headerless [] rfl
    obtain ⟨-, hfetch⟩ := hreads.stored ⟨"rooms.csv", [[.int 101], [.int 102]]⟩ rfl
    rw [hheader] at hfetch
    exact ⟨q, hquery, hfetch⟩
  · obtain ⟨q, hquery, -, hreads⟩ := hpositions 3 .row [] rfl
    exact ⟨q, hquery, hreads.behind (by decide) (.all .row) .items .all rfl rfl rfl⟩

end Session

end SheetQuery
