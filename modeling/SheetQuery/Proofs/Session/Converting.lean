import SheetQuery.Proofs.Session.Distinct

/-!
# Different values under conversions

A selector may convert the column that it selects. Items are made and then converted, and a field of
a record is converted as well when different values are asked for, so these are values that the
query gives without the operator. For generic items the different values are those of the column,
whatever the selector makes of it; converted, they are values that the query gives.

Main statement: `Query.selected_of_distinct`. That a value may be left unconverted is
`distinct_not_converted`.
-/

namespace SheetQuery

open Sql

namespace Query

variable {q : Query} {line line' : Line Engine} {t : Table} {selector : Expr} {column : String}
  {raw v w : Value} {values plain : List Value}

/-- A query that is answered with different values selects a column. -/
theorem exists_selectsColumn_of_distinct
    (h : ((q.under [.distinct]).values line).1 = .ok values) :
    ∃ column, q.model.SelectsColumn q.source.mapper column := by
  rw [values_of_distinct rfl] at h
  obtain ⟨f, read, hfetch, -, -⟩ := distinctValues_ok_iff.mp h
  obtain ⟨-, c, hc, -⟩ := fetch_ok_iff.mp hfetch
  obtain ⟨column, hcolumn, -⟩ :=
    selection_of_compile_distinct (m := { q.model with operators := [] }) hc
  exact ⟨column, hcolumn⟩

/-- What a cell of a record comes to is what it is read as among different values. -/
theorem Selects.eq_of_record (h : q.Selects t raw w) {r : RecordType} (htype : q.type = .record r)
    (hread : q.Reads t raw v) : v = w :=
  hread.unique (h.ofRecord r htype)

/-- What a cell of a generic item comes to is its different value, converted. -/
theorem Selects.conversions_of_generic (h : q.Selects t raw w)
    (htype : ∀ r, q.type ≠ .record r) (hread : q.Reads t raw v) :
    q.model.selectorOrIdentity.conversions v = .ok w := by
  obtain ⟨u, hplain, hconverted⟩ := h.converted
  rw [(Materializer.reads_generic_iff htype).mp hread,
    ← (Materializer.reads_generic_iff htype).mp hplain]
  exact hconverted

/-- **Different values of a selection.** Where items are records, or nothing is converted, each of
the different values is one that the query gives without the operator. Where items are generic, the
conversions of the selector make such a value of it. The column has to fit between brackets, and a
member of a row with a header has to be read from the column of its name. -/
theorem selected_of_distinct (hq : q.IsTyped) (hselector : q.model.selector = some selector)
    (hname : ∀ column, selector.Names q.source.mapper q.type.shape column → IsBracketable column)
    (hmember : ∀ name, q.type = .row → selector.unwrapped = .member mainSource name →
      q.source.mapper.map name = name)
    (hview : line'.view = line.view)
    (hvalues : ((q.under [.distinct]).values line).1 = .ok values)
    (hplain : ((q.under []).values line').1 = .ok plain) :
    ((∃ r, q.type = .record r) ∨ selector.unwrapped = selector → ∀ v ∈ values, v ∈ plain) ∧
      ((∀ r, q.type ≠ .record r) →
        ∀ v ∈ values, ∃ w ∈ plain, selector.conversions v = .ok w) := by
  obtain ⟨column, hselects⟩ := exists_selectsColumn_of_distinct hvalues
  have hnames : selector.Names q.source.mapper q.type.shape column := by
    obtain ⟨selected, hselected, hnames⟩ := hselects
    obtain rfl := Option.some.inj (hselected.symm.trans hselector)
    exact hq.shape ▸ hnames
  have haddress : selector.unwrapped.Addresses q.source.mapper q.type column :=
    ⟨Expr.names_unwrapped_iff.mpr hnames, Expr.unwrapped_unwrapped selector, hmember⟩
  obtain ⟨t, whole, hcovers, hcolumn, hreads⟩ :=
    reads_of_distinct hselects (hname column hnames) hvalues
  obtain ⟨t', whole', hcovers', hselected⟩ := selects_of_plain hq hselector haddress hplain
  rw [hview] at hcovers'
  obtain ⟨rfl, rfl⟩ := hcovers.unique hcovers'
  -- each value is read from a cell of the column, which is the cell of some item
  have hcells : ∀ v ∈ values, ∃ raw w, q.Reads t' raw v ∧ w ∈ plain ∧ q.Selects t' raw w := by
    intro v hv
    obtain ⟨raw, hraw, hread⟩ := exists_of_mem_right hreads hv
    obtain ⟨w, hw, hselect⟩ :=
      exists_of_mem_left (hselected hcolumn) (mem_of_mem_firstOccurrences hraw)
    exact ⟨raw, w, hread, hw, hselect⟩
  have hchosen := Model.selectorOrIdentity_eq hselector
  constructor
  · intro hkept v hv
    obtain ⟨raw, w, hread, hw, hselect⟩ := hcells v hv
    rcases hkept with ⟨r, htype⟩ | hself
    · rw [hselect.eq_of_record htype hread]
      exact hw
    · rw [← hchosen] at hself
      rw [hread.unique (Materializer.Selects.reads hselect hself)]
      exact hw
  · intro htype v hv
    obtain ⟨raw, w, hread, hw, hselect⟩ := hcells v hv
    exact ⟨w, hw, hchosen ▸ hselect.conversions_of_generic htype hread⟩

end Query

/-- A worksheet of guests whose ages are texts, of which two differ in blanks only. -/
def writtenAges : Line Engine :=
  .ofBackend (.ofWorkbook (Workbook.empty.addGrid "Sheet1"
    [[.text "Name", .text "Years"], [.text "Ann", .text "31"], [.text "Bob", .text " 31"],
      [.text "Cid", .text "31"]]))

/-- The ages of the guests, read as numbers and shown as texts. -/
def shownAges : Query :=
  ⟨⟨"guests.xls", .worksheet none, true, ⟨[("Age", "Years")], []⟩, .standard⟩,
    .record Materializer.guestType,
    ⟨.record "Guest", some (.convert .text (.member mainSource "Age")), [], []⟩⟩

/-- Digits in the cells of a worksheet. -/
def digits : Line Engine :=
  .ofBackend (.ofWorkbook (Workbook.empty.addGrid "Sheet1" [[.text "1"], [.text "2"], [.text "1"]]))

/-- The values of the first column as whole numbers. -/
def wholeNumbers : Query :=
  { allRows with
    model := ⟨.headerless, some (.convert .integer (.column mainSource (.positioned 0))), [], []⟩ }

theorem names_wholeNumbers (column : String)
    (h : (Expr.convert .integer (.column mainSource (.positioned 0))).Names .empty .headerless
      column) : IsBracketable column := by
  cases h with
  | convert kind h =>
      cases h
      exact isBracketable_positionName 0

theorem selected_of_distinct_shownAges :
    (((shownAges.under [.distinct]).values writtenAges).1 = .ok [.text "31", .text "31"] ∧
      ((shownAges.under []).values writtenAges).1 = .ok [.text "31", .text "31", .text "31"] ∧
      ∀ v ∈ [Value.text "31", .text "31"], v ∈ [.text "31", .text "31", .text "31"]) ∧
    ((wholeNumbers.under [.distinct]).values digits).1 = .ok [.text "1", .text "2"] ∧
      ((wholeNumbers.under []).values digits).1 = .ok [.int 1, .int 2, .int 1] ∧
      ∀ v ∈ [Value.text "1", .text "2"], ∃ w ∈ [.int 1, .int 2, .int 1],
        (Expr.convert .integer (.column mainSource (.positioned 0))).conversions v = .ok w := by
  have hages : ((shownAges.under [.distinct]).values writtenAges).1 =
      .ok [.text "31", .text "31"] := rfl
  have hall : ((shownAges.under []).values writtenAges).1 =
      .ok [.text "31", .text "31", .text "31"] := rfl
  have hdigits : ((wholeNumbers.under [.distinct]).values digits).1 =
      .ok [.text "1", .text "2"] := rfl
  have hnumbers : ((wholeNumbers.under []).values digits).1 = .ok [.int 1, .int 2, .int 1] := rfl
  have hname : ∀ column, (Expr.convert .text (.member mainSource "Age")).Names
      shownAges.source.mapper shownAges.type.shape column → IsBracketable column := by
    rintro column (_ | _ | _ | ⟨kind, h⟩)
    cases h
    decide
  obtain ⟨hrecords, -⟩ := Query.selected_of_distinct (q := shownAges) ⟨rfl, rfl⟩ rfl hname nofun
    rfl hages hall
  obtain ⟨-, hgeneric⟩ := Query.selected_of_distinct (q := wholeNumbers) ⟨rfl, rfl⟩ rfl
    names_wholeNumbers nofun rfl hdigits hnumbers
  exact ⟨⟨hages, hall, hrecords (Or.inl ⟨Materializer.guestType, rfl⟩)⟩, hdigits, hnumbers,
    hgeneric nofun⟩

/-- **Different values of generic items are left unconverted**: the digits are asked for as whole
numbers and come back as texts. -/
theorem distinct_not_converted :
    ¬ ∀ (q : Query) (line : Line Engine) (selector : Expr) (values plain : List Value),
      q.IsTyped → q.model.selector = some selector →
        (∀ column, selector.Names q.source.mapper q.type.shape column → IsBracketable column) →
          ((q.under [.distinct]).values line).1 = .ok values →
            ((q.under []).values line).1 = .ok plain → ∀ v ∈ values, v ∈ plain := by
  intro h
  have hclaimed := h wholeNumbers digits _ [.text "1", .text "2"] [.int 1, .int 2, .int 1]
    ⟨rfl, rfl⟩ rfl names_wholeNumbers rfl rfl (.text "1") List.mem_cons_self
  simp at hclaimed

end SheetQuery
