import SheetQuery.Proofs.Materialize.Fields

/-!
# Records written to rows and read again

A record laid out in a row, each field under its column, is the record that is made of the row,
wherever the columns stand and whatever the other columns hold. Every value that a field can hold is
of the kind of the field already, so reading it changes nothing; this needs texts left untrimmed and
no transformation in the way, and no two fields under one column.

Main statement: `Materializer.records_rowOf`.
-/

namespace SheetQuery

open Sql

/-! ## Values of fields -/

/-- The values that a field of a plain type can hold. -/
inductive BaseType.Holds : BaseType → Value → Prop where
  | text (s : String) : Holds .text (.text s)
  | int64 (i : Int64) : Holds .int64 (.int i)
  | int32 (i : Int64) (hi : -2147483648 ≤ i.toInt ∧ i.toInt ≤ 2147483647) : Holds .int32 (.int i)
  | float (x : Float) : Holds .float (.float x)
  | boolean (b : Bool) : Holds .boolean (.bool b)
  | dateTime (t : Calendar.DateTime) : Holds .dateTime (.dateTime t)
  | date (d : Calendar.Date) : Holds .date (.dateTime d.midnight)
  | any (v : Value) : Holds .any v

namespace BaseType.Holds

variable {t : BaseType} {v : Value}

theorem isOfKind (h : t.Holds v) : Value.IsOfKind t.kind v := by
  cases h with
  | text s => exact .text s
  | int64 i => exact .integer i
  | int32 i hi => exact .integer i
  | float x => exact .float x
  | boolean b => exact .boolean b
  | dateTime t => exact .dateTime t
  | date d => exact .dateTime d.midnight
  | any v => exact .any v

theorem narrow_eq (h : t.Holds v) : t.narrow v = .ok v := by
  cases h with
  | int32 i hi => exact if_pos hi
  | any v => rfl
  | _ => rfl

theorem read_eq (h : t.Holds v) : t.read v = .ok v := by
  rw [BaseType.read, Value.convert_of_isOfKind h.isOfKind]
  exact h.narrow_eq

end BaseType.Holds

/-- The values that a field can hold: those of the plain type, and nothing where it is optional. An
optional form of an optional type holds no others. -/
def FieldType.Holds (t : FieldType) (v : Value) : Prop :=
  t.base.Holds v ∨ (t.optional = true ∧ v = .null)

namespace FieldType.Holds

variable {t : FieldType} {v : Value}

theorem convert_eq (h : t.Holds v) : v.convert t.kind = .ok v := by
  rcases h with h | ⟨-, rfl⟩
  · exact Value.convert_of_isOfKind h.isOfKind
  · exact Value.convert_null t.kind

/-- A value of the type is read as itself. -/
theorem read_eq (h : t.Holds v) : t.read v = .ok v := by
  have hconvert := h.convert_eq
  by_cases hnull : v = .null
  · subst hnull
    rcases h with h | ⟨hoptional, -⟩
    · -- a plain type that holds nothing is the one that holds everything
      unfold FieldType.read
      split
      · rw [hconvert]
        rfl
      · exact h.read_eq
    · rw [FieldType.read, if_pos hoptional, hconvert]
      rfl
  · rw [read_of_converted hconvert hnull]
    rcases h with h | ⟨-, h⟩
    · exact h.read_eq
    · exact absurd h hnull

end FieldType.Holds

/-- A record whose fields hold values of their types. -/
def Record.IsTyped (r : Record) : Prop :=
  List.Forall₂ (fun f v => f.type.Holds v) r.type.fields r.values

/-! ## Rows -/

namespace Materializer

variable {m : Materializer} {t : RecordType} {f : Field} {columns : List String} {r : Record}

/-- The row in which each field of a record stands under its column; `other` has the cells of the
remaining columns by their positions. -/
def rowOf (m : Materializer) (columns : List String) (r : Record) (other : Nat → Value) :
    List Value :=
  columns.zipIdx.map fun (column, i) =>
    ((r.type.fields.find? fun f => m.mapper.map f.name == column).bind fun f =>
      r.get? f.name).getD (other i)

theorem rowOf_getElem? (other : Nat → Value) {i : Nat} {column : String}
    (h : columns[i]? = some column) :
    (m.rowOf columns r other)[i]? =
      some (((r.type.fields.find? fun f => m.mapper.map f.name == column).bind fun f =>
        r.get? f.name).getD (other i)) := by
  rw [rowOf, List.getElem?_map, List.getElem?_zipIdx, h]
  simp

/-- Where no two fields share a column, the cell under the column of a field is the field's. -/
theorem fieldInRow_rowOf (hmap : ∀ f ∈ r.type.fields, ∀ g ∈ r.type.fields,
      m.mapper.map f.name = m.mapper.map g.name → f.name = g.name)
    (hf : f ∈ r.type.fields) (hcolumn : m.mapper.map f.name ∈ columns) {v : Value}
    (hv : r.get? f.name = some v) (other : Nat → Value) :
    m.fieldInRow columns (m.rowOf columns r other) f = m.fieldValue f v := by
  have hfound : (columns.findIdx? (· == m.mapper.map f.name)).isSome = true := by
    rw [List.findIdx?_isSome, List.any_eq_true]
    exact ⟨_, hcolumn, beq_self_eq_true _⟩
  obtain ⟨i, hi⟩ := Option.isSome_iff_exists.mp hfound
  obtain ⟨hlt, hname, -⟩ := List.findIdx?_eq_some_iff_getElem.mp hi
  have hat : columns[i]? = some (m.mapper.map f.name) := by
    rw [List.getElem?_eq_getElem hlt, eq_of_beq hname]
  -- the field that is found under the column may be another one of the same name
  obtain ⟨g, hg⟩ : ∃ g, r.type.fields.find? (fun g => m.mapper.map g.name == m.mapper.map f.name) =
      some g := by
    rw [← Option.isSome_iff_exists, List.find?_isSome]
    exact ⟨f, hf, beq_self_eq_true _⟩
  have hshared := List.find?_some hg
  have hsame : g.name = f.name :=
    hmap g (List.mem_of_find?_eq_some hg) f hf (eq_of_beq hshared)
  have hcell := rowOf_getElem? (m := m) (r := r) other hat
  rw [hg, Option.bind_some, hsame, hv, Option.getD_some] at hcell
  simp only [fieldInRow, position?, hi, Option.bind_some, hcell]

/-- A field that is neither transformed nor trimmed keeps a value of its type. -/
theorem fieldValue_of_holds (htrim : m.options.trim = .none)
    (htransform : m.mapper.transform? f.name = none) {v : Value} (h : f.type.Holds v) :
    m.fieldValue f v = .ok v := by
  have hstored : Record.stored f v = .ok v := Record.stored_ok_iff.mpr h.read_eq
  by_cases htext : f.type.kind = .text
  · have hconvert : v.convert .text = .ok v := htext ▸ h.convert_eq
    simp only [fieldValue, htransform, htext, if_true, hconvert]
    show Record.stored f (m.trimmed v) = .ok v
    rw [trimmed_eq htrim, hstored]
  · simp only [fieldValue, htransform, htext, if_false, hstored]

/-- A record is made again of the row in which it was laid out. -/
theorem record_rowOf (hcheck : r.type.check = .ok ()) (htrim : m.options.trim = .none)
    (hmap : ∀ f ∈ r.type.fields, ∀ g ∈ r.type.fields,
      m.mapper.map f.name = m.mapper.map g.name → f.name = g.name)
    (htransform : ∀ f ∈ r.type.fields, m.mapper.transform? f.name = none)
    (hcolumns : ∀ f ∈ r.type.fields, m.mapper.map f.name ∈ columns) (hr : r.IsTyped)
    (other : Nat → Value) : m.record r.type columns (m.rowOf columns r other) = .ok r := by
  obtain ⟨hlengths, hholds⟩ := List.forall₂_iff_zip.mp hr
  refine record_ok_iff.mpr ⟨rfl, List.forall₂_iff_zip.mpr ⟨hlengths, ?_⟩⟩
  intro f v hplace
  have hf := (List.of_mem_zip hplace).1
  rw [fieldInRow_rowOf hmap hf (hcolumns f hf) (Record.get?_of_mem_zip hcheck hplace) other]
  exact fieldValue_of_holds htrim (htransform f hf) (hholds hplace)

/-- **Records written to rows are read again as they were.** For a declaration without fault, a
mapper that gives each field a column of its own and transforms none, texts left untrimmed and
columns of any order among any others, with any cells in those: reading the rows of some records
yields these records, in their order. -/
theorem records_rowOf (ht : t.check = .ok ()) (hstrict : m.options.strictMapping = .none)
    (htrim : m.options.trim = .none)
    (hmap : ∀ f ∈ t.fields, ∀ g ∈ t.fields,
      m.mapper.map f.name = m.mapper.map g.name → f.name = g.name)
    (htransform : ∀ f ∈ t.fields, m.mapper.transform? f.name = none)
    (hcolumns : ∀ f ∈ t.fields, m.mapper.map f.name ∈ columns)
    {rs : List Record} (hrs : ∀ r ∈ rs, r.type = t ∧ r.IsTyped)
    {others : List (Nat → Value)} (hothers : others.length = rs.length) :
    m.records t columns (List.zipWith (m.rowOf columns) rs others) = .ok rs := by
  rw [records_eq_mapM ht hstrict, mapM_eq_ok_iff]
  induction rs generalizing others with
  | nil => exact .nil
  | cons r rs ih =>
      obtain ⟨other, others, rfl⟩ : ∃ o os, others = o :: os :=
        List.exists_cons_of_length_eq_add_one hothers
      obtain ⟨rfl, htyped⟩ := hrs r List.mem_cons_self
      refine .cons (record_rowOf ht htrim hmap htransform hcolumns htyped other) (ih ?_ ?_)
      · exact fun r hr => hrs r (List.mem_cons_of_mem _ hr)
      · simpa using hothers

/-- Visits with a day that may be missing and a room with a small number. -/
def visitType : RecordType :=
  (((RecordType.named "Visit").field "Guest" ⟨.text, false⟩).field "Day" ⟨.date, true⟩).field
    "Room" ⟨.int32, false⟩

/-- Two visits, the second without a name or a day. -/
def visits : List Record :=
  [⟨visitType, [.text " Ann ", .dateTime Calendar.Date.epoch.midnight, .int 7]⟩,
    ⟨visitType, [.text "", .null, .int (-1)]⟩]

/-- Rooms stand in another column, and nothing is trimmed. -/
def visitBook : Materializer :=
  ⟨⟨[("Room", "No")], []⟩, .standard, ⟨some "Visits", none, none⟩, computedColumn⟩

theorem records_rowOf_visits :
    visitBook.records visitType ["No", "Remark", "Guest", "Day"]
      [[.int 7, .bool true, .text " Ann ", .dateTime Calendar.Date.epoch.midnight],
        [.int (-1), .text "paid", .text "", .null]] = .ok visits := by
  have htyped : ∀ r ∈ visits, r.type = visitType ∧ r.IsTyped := by
    intro r hr
    simp only [visits, List.mem_cons, List.not_mem_nil, or_false] at hr
    rcases hr with rfl | rfl
    · exact ⟨rfl, .cons (.inl (.text _)) (.cons (.inl (.date _))
        (.cons (.inl (.int32 _ (by decide))) .nil))⟩
    · exact ⟨rfl, .cons (.inl (.text _)) (.cons (.inr ⟨rfl, rfl⟩)
        (.cons (.inl (.int32 _ (by decide))) .nil))⟩
  have hothers : ([fun _ => .bool true, fun _ => .text "paid"] : List (Nat → Value)).length =
      visits.length := rfl
  have hcolumns : ∀ f ∈ visitType.fields,
      visitBook.mapper.map f.name ∈ ["No", "Remark", "Guest", "Day"] := by decide
  exact records_rowOf (m := visitBook) rfl rfl rfl (by decide) (by decide) hcolumns htyped hothers

end Materializer

end SheetQuery
