import SheetQuery.Proofs.Materialize.Fields

/-!
# Records against generic rows

A record is filled with one conversion after another before its texts are trimmed, a generic row is
trimmed and its cells are cast afterwards. Where a field has a kind and no transformation, both ways
lead to one value, and where every field is of that sort they also fail together.

Main statement: `Materializer.records_casts`.
-/

namespace SheetQuery

open Sql

namespace Materializer

variable {m : Materializer} {t : RecordType} {f : Field} {columns : List String}
  {row : List Value} {rows : List (List Value)}

/-- A field with a kind, read from a column that came back and by no transformation. -/
structure IsDirect (m : Materializer) (columns : List String) (f : Field) : Prop where
  hasKind : f.type.kind ≠ .any
  returned : m.mapper.map f.name ∈ columns
  untransformed : m.mapper.transform? f.name = none

/-- The row with a header that a row becomes. -/
def rowWithHeader (m : Materializer) (columns : List String) (row : List Value) : Row :=
  ⟨columns, row.map m.trimmed⟩

theorem cell_map_trimmed (columns : List String) (row : List Value) (name : String) :
    cell columns (row.map m.trimmed) name = m.trimmed (cell columns row name) := by
  unfold cell
  cases columns.findIdx? (· == name) with
  | none => rfl
  | some i =>
      simp only [Option.bind_some, List.getElem?_map]
      cases row[i]? with
      | none => rfl
      | some v => rfl

/-- A row with a header has the trimmed cell under each of its names. -/
theorem rowWithHeader_get (hlength : row.length = columns.length) {name : String}
    (hname : name ∈ columns) :
    (m.rowWithHeader columns row).get name = .ok (m.trimmed (cell columns row name)) := by
  have hmap : (row.map m.trimmed).length = columns.length := by
    rw [List.length_map, hlength]
  rw [rowWithHeader, Row.get_eq_cell hmap hname, cell_map_trimmed]

/-- A field takes from a row what the cast of the trimmed cell gives. -/
theorem fieldInRow_ok_iff (hlength : row.length = columns.length) (hf : m.IsDirect columns f)
    {v : Value} : m.fieldInRow columns row f = .ok v ↔
      f.type.read (m.trimmed (cell columns row (m.mapper.map f.name))) = .ok v := by
  rw [fieldInRow_eq hlength hf.returned, fieldValue_ok_iff hf.hasKind hf.untransformed]

theorem fieldInRow_error_iff (hlength : row.length = columns.length)
    (hf : m.IsDirect columns f) : (∃ e, m.fieldInRow columns row f = .error e) ↔
      ∃ e, f.type.read (m.trimmed (cell columns row (m.mapper.map f.name))) = .error e := by
  simp only [exists_error_iff, ne_eq, fieldInRow_ok_iff hlength hf]

theorem record_error_iff : (∃ e, m.record t columns row = .error e) ↔
    ∃ f ∈ t.fields, ∃ e, m.fieldInRow columns row f = .error e := by
  rw [record, exists_map_error_iff, mapM_error_iff]

/-- **Typed records agree with generic rows whose cells are cast.** For a declaration without fault,
columns that are apart and rows of full width: every direct field of the i-th record holds the cast
of the cell that the i-th generic row has in the column of the field; and if all fields are direct,
making the records fails exactly when one of these casts does. -/
theorem records_casts (ht : t.check = .ok ()) (hstrict : m.options.strictMapping = .none)
    (hcolumns : columns.Nodup) (hrows : ∀ row ∈ rows, row.length = columns.length) :
    ∃ generic, m.rows columns rows = .ok generic ∧
      (∀ records, m.records t columns rows = .ok records →
        List.Forall₂ (fun row record => ∀ f ∈ t.fields, m.IsDirect columns f →
          ∃ cell v, row.get (m.mapper.map f.name) = .ok cell ∧ f.type.read cell = .ok v ∧
            record.get? f.name = some v) generic records) ∧
      ((∀ f ∈ t.fields, m.IsDirect columns f) →
        ((∃ e, m.records t columns rows = .error e) ↔
          ∃ row ∈ generic, ∃ f ∈ t.fields, ∃ cell e,
            row.get (m.mapper.map f.name) = .ok cell ∧ f.type.read cell = .error e)) := by
  refine ⟨rows.map (m.rowWithHeader columns), rows_eq hcolumns rows, ?_, ?_⟩
  · intro records hrecords
    rw [records_eq_mapM ht hstrict] at hrecords
    obtain ⟨hlengths, hpairs⟩ := List.forall₂_iff_zip.mp (mapM_eq_ok_iff.mp hrecords)
    rw [List.forall₂_map_left_iff, List.forall₂_iff_zip]
    refine ⟨hlengths, ?_⟩
    intro row record hpair f hf hdirect
    have hlength := hrows row (List.of_mem_zip hpair).1
    obtain ⟨htype, hvalues⟩ := record_ok_iff.mp (hpairs hpair)
    subst htype
    obtain ⟨v, hplace, hfield⟩ := exists_mem_zip hvalues hf
    exact ⟨_, v, rowWithHeader_get hlength hdirect.returned,
      (fieldInRow_ok_iff hlength hdirect).mp hfield, Record.get?_of_mem_zip ht hplace⟩
  · intro hdirect
    rw [records_eq_mapM ht hstrict, mapM_error_iff]
    constructor
    · rintro ⟨row, hrow, he⟩
      have hlength := hrows row hrow
      obtain ⟨f, hf, he⟩ := record_error_iff.mp he
      obtain ⟨e, he⟩ := (fieldInRow_error_iff hlength (hdirect f hf)).mp he
      exact ⟨_, List.mem_map_of_mem hrow, f, hf, _, e,
        rowWithHeader_get hlength (hdirect f hf).returned, he⟩
    · rintro ⟨generic, hgeneric, f, hf, cell, e, hcell, he⟩
      obtain ⟨row, hrow, rfl⟩ := List.mem_map.mp hgeneric
      have hlength := hrows row hrow
      -- the cell is the one that the row with a header shows
      rw [rowWithHeader_get hlength (hdirect f hf).returned, Except.ok.injEq] at hcell
      subst hcell
      exact ⟨row, hrow, record_error_iff.mpr
        ⟨f, hf, (fieldInRow_error_iff hlength (hdirect f hf)).mpr ⟨e, he⟩⟩⟩

/-- Guests by name, with an age that may be missing. -/
def guestType : RecordType :=
  ((RecordType.named "Guest").field "Name" ⟨.text, false⟩).field "Age" ⟨.int64, true⟩

/-- Ages stand in another column, and blanks are cut off on both sides. -/
def guestBook : Materializer :=
  ⟨⟨[("Age", "Years")], []⟩, { Options.standard with trim := .both }, ⟨some "Guests", none, none⟩,
    computedColumn⟩

/-- An age with blanks around it, and one of blanks only. -/
def guestRows : List (List Value) :=
  [[.text " 31 ", .text " Ann "], [.text "  ", .int 7]]

theorem records_casts_guests :
    ∃ generic, guestBook.rows ["Years", "Name"] guestRows = .ok generic ∧
      List.Forall₂ (fun (row : Row) (record : Record) => ∃ cell v, row.get "Years" = .ok cell ∧
          FieldType.read ⟨.int64, true⟩ cell = .ok v ∧ record.get? "Age" = some v)
        generic [⟨guestType, [.text "Ann", .int 31]⟩, ⟨guestType, [.text "7", .null]⟩] := by
  have hrows : ∀ row ∈ guestRows, row.length = ["Years", "Name"].length := by
    intro row hrow
    simp only [guestRows, List.mem_cons, List.not_mem_nil, or_false] at hrow
    rcases hrow with rfl | rfl <;> rfl
  have hage : (⟨"Age", ⟨.int64, true⟩, none⟩ : Field) ∈ guestType.fields := by decide
  have hrecords : guestBook.records guestType ["Years", "Name"] guestRows =
      .ok [⟨guestType, [.text "Ann", .int 31]⟩, ⟨guestType, [.text "7", .null]⟩] := rfl
  obtain ⟨generic, hgeneric, hagree, -⟩ :=
    records_casts (m := guestBook) (t := guestType) rfl rfl (by decide) hrows
  refine ⟨generic, hgeneric, (hagree _ hrecords).imp ?_⟩
  intro row record h
  exact h _ hage ⟨nofun, by decide, rfl⟩

end Materializer

end SheetQuery
