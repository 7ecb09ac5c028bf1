import SheetQuery.Proofs.Materialize.Generic
import SheetQuery.Proofs.Value.Conversion

/-!
# Fields of records

What one field of a record gets out of one row. A field reads a value by one conversion to its kind
and one step behind it, which sees nothing but the converted value; conversion passes over the
blanks around a text, so it does not matter whether they were cut off before. A declaration without
fault keeps its names apart, so looking a field up by its name finds the value in its place.

Main statements: `FieldType.read_optional`, `Materializer.fieldValue_ok_iff` and
`Materializer.records_eq_mapM`.
-/

namespace SheetQuery

open Sql

/-! ## Field types -/

namespace FieldType

/-- The step behind the conversion: an optional type keeps nothing as nothing, and the narrower
types look at what came out. -/
def settle (t : FieldType) (v : Value) : Except QueryError Value :=
  if t.optional then
    match v with
    | .null => .ok .null
    | w => t.base.read w
  else t.base.narrow v

theorem read_eq (t : FieldType) (v : Value) : t.read v = (v.convert t.kind).bind t.settle := by
  obtain ⟨base, optional⟩ := t
  cases optional with
  | true => rfl
  | false => rfl

/-- A type reads a converted value that is there as its plain form does. -/
theorem read_of_converted {t : FieldType} {v : Value} (hv : v.convert t.kind = .ok v)
    (hnull : v ≠ .null) : t.read v = t.base.read v := by
  unfold read
  by_cases hoptional : t.optional = true
  · rw [if_pos hoptional, hv]
    cases v with
    | null => exact absurd rfl hnull
    | _ => rfl
  · rw [if_neg hoptional]

/-- **The optional form of a type**, of one that is optional already as well: nothing stays nothing,
and anything else is read into the type. -/
theorem read_optional (t : FieldType) (v : Value) :
    ({ t with optional := true } : FieldType).read v = (v.convert t.kind).bind fun
      | .null => .ok .null
      | w => t.read w := by
  show ((v.convert t.kind).bind fun
    | .null => .ok .null
    | w => t.base.read w) = _
  cases hv : v.convert t.kind with
  | error e => rfl
  | ok w =>
      have hw := Value.convert_convert hv
      cases w with
      | null => rfl
      | _ => exact (read_of_converted hw nofun).symm

/-- A type that is no text and keeps not everything reads past the blanks around a text. -/
theorem read_trimmed_ok_iff {m : Materializer} {t : FieldType} {v w : Value}
    (htext : t.kind ≠ .text) (hany : t.kind ≠ .any) :
    t.read (m.trimmed v) = .ok w ↔ t.read v = .ok w := by
  have hconvert : ∀ u, (m.trimmed v).convert t.kind = .ok u ↔ v.convert t.kind = .ok u := by
    intro u
    cases v with
    | text s =>
        have hs : Text.trim (String.ofList (m.options.trim.apply s.toList)).toList =
            Text.trim s.toList := by
          rw [String.toList_ofList, TrimPolicy.trim_apply]
        exact ⟨Value.convert_text_congr htext hany hs, Value.convert_text_congr htext hany hs.symm⟩
    | _ => exact Iff.rfl
  have hbind : ∀ x : Except QueryError Value, x.bind t.settle = .ok w ↔
      ∃ u, x = .ok u ∧ t.settle u = .ok w := fun _ => bind_eq_ok_iff
  rw [read_eq, read_eq, hbind, hbind]
  simp only [hconvert]

end FieldType

namespace Record

theorem stored_ok_iff {f : Field} {v w : Value} : stored f v = .ok w ↔ f.type.read v = .ok w :=
  mapError_eq_ok_iff

end Record

/-! ## One field in one row -/

namespace Materializer

variable {m : Materializer} {t : RecordType} {f : Field} {columns : List String}
  {row : List Value}

/-- What stands for a value that is no text has no blanks to lose. -/
theorem trimmed_toText {v : Value} (h : v.asText? = none) :
    m.trimmed (.text v.display) = .text v.display := by
  rw [trimmed, Value.display, String.toList_ofList,
    TrimPolicy.apply_of_isTight _ (Value.isTight_chars h)]

/-- **Casting before trimming and trimming before casting come to the same**, for a field with a
kind and without a transformation. -/
theorem fieldValue_ok_iff {raw w : Value} (hkind : f.type.kind ≠ .any)
    (htransform : m.mapper.transform? f.name = none) :
    m.fieldValue f raw = .ok w ↔ f.type.read (m.trimmed raw) = .ok w := by
  by_cases htext : f.type.kind = .text
  · have hstep : m.fieldValue f raw =
        Record.stored f (m.trimmed (if raw.isNull then .null else raw.toText)) := by
      simp only [fieldValue, htransform, htext, if_true, Value.convert_toText]
      rfl
    -- what the field is given and what the row shows are converted to the same text
    have hsame : (m.trimmed (if raw.isNull then .null else raw.toText)).convert .text =
        (m.trimmed raw).convert .text := by
      cases hraw : raw.asText? with
      | some s =>
          cases raw with
          | text s => rfl
          | _ => cases hraw
      | none =>
          cases raw with
          | null => rfl
          | text s => cases hraw
          | _ =>
              show (m.trimmed (.text _)).convert .text = _
              rw [trimmed_toText hraw]
              rfl
    rw [hstep, Record.stored_ok_iff, FieldType.read_eq, FieldType.read_eq, htext, hsame]
  · have hstep : m.fieldValue f raw = Record.stored f raw := by
      simp only [fieldValue, htransform, htext, if_false]
    rw [hstep, Record.stored_ok_iff, FieldType.read_trimmed_ok_iff htext hkind]

/-- A field whose column came back is filled from the cell in that column. -/
theorem fieldInRow_eq (hlength : row.length = columns.length)
    (hcolumn : m.mapper.map f.name ∈ columns) :
    m.fieldInRow columns row f = m.fieldValue f (cell columns row (m.mapper.map f.name)) := by
  have hlookup : (m.position? columns f).bind (fun i => row[i]?) =
      some (cell columns row (m.mapper.map f.name)) := lookup_eq_cell hlength hcolumn
  simp only [fieldInRow, hlookup]

/-! ## Records -/

theorem record_ok_iff {r : Record} : m.record t columns row = .ok r ↔
    r.type = t ∧ List.Forall₂ (fun f v => m.fieldInRow columns row f = .ok v) t.fields r.values := by
  rw [record, map_eq_ok_iff]
  constructor
  · rintro ⟨values, hvalues, rfl⟩
    exact ⟨rfl, mapM_eq_ok_iff.mp hvalues⟩
  · rintro ⟨rfl, hvalues⟩
    exact ⟨r.values, mapM_eq_ok_iff.mpr hvalues, rfl⟩

/-- Without strict mapping a declaration without fault is all that is asked for. -/
theorem records_eq_mapM (ht : t.check = .ok ()) (hstrict : m.options.strictMapping = .none)
    (rows : List (List Value)) : m.records t columns rows = rows.mapM (m.record t columns) := by
  have hfault : m.strictFault? t columns = none := by
    simp [strictFault?, hstrict, StrictMapping.checksFields, StrictMapping.checksColumns]
  have hcheck : m.checkRecords t columns = .ok () := by
    simp [checkRecords, ht, hfault]
  rw [records, hcheck, ok_bind]

end Materializer

/-! ## Looking fields up -/

namespace RecordType

/-- Two fields of one declaration that is without fault: they have names of their own, and columns of
their own where they declare any. -/
def AreApart (f g : Field) : Prop :=
  f.name ≠ g.name ∧ ∀ column, f.hint = some column → g.hint ≠ some column

theorem areApart_of_fieldFault? {before : List Field} {f g : Field}
    (h : fieldFault? before f = none) (hg : g ∈ before) : AreApart g f := by
  unfold fieldFault? at h
  split_ifs at h with hempty hdeclared
  refine ⟨fun hname => hdeclared (List.any_eq_true.mpr ⟨g, hg, beq_iff_eq.mpr hname⟩), ?_⟩
  rintro column hcolumn hsame
  rw [hsame] at h
  dsimp only at h
  split_ifs at h
  have hnobody := List.find?_eq_none.mp (Option.map_eq_none_iff.mp h) g hg
  exact hnobody (beq_iff_eq.mpr hcolumn)

theorem apart_of_fieldsFault? {before fields : List Field}
    (h : fieldsFault? before fields = none) :
    fields.Pairwise AreApart ∧ ∀ f ∈ fields, ∀ g ∈ before, AreApart g f := by
  induction fields generalizing before with
  | nil => exact ⟨List.Pairwise.nil, nofun⟩
  | cons f rest ih =>
      rw [fieldsFault?] at h
      split at h
      · cases h
      · next hf =>
          obtain ⟨hrest, hapart⟩ := ih h
          constructor
          · exact List.pairwise_cons.mpr ⟨fun g hg => hapart g hg f (by simp), hrest⟩
          · intro g hg
            rcases List.mem_cons.mp hg with rfl | hg
            · exact fun b hb => areApart_of_fieldFault? hf hb
            · exact fun b hb => hapart g hg b (List.mem_append_left _ hb)

/-- The fields of a declaration without fault are apart. -/
theorem apart_of_check {t : RecordType} (h : t.check = .ok ()) : t.fields.Pairwise AreApart := by
  have hfault : t.fault? = none := by
    unfold check at h
    cases hf : t.fault? with
    | none => rfl
    | some fault => simp [hf] at h
  unfold fault? at hfault
  split at hfault
  · cases hfault
  · exact (apart_of_fieldsFault? hfault).1

/-- A declaration without fault names no two fields alike. -/
theorem nodup_of_check {t : RecordType} (h : t.check = .ok ()) :
    (t.fields.map Field.name).Nodup := by
  rw [List.Nodup, List.pairwise_map]
  exact (apart_of_check h).imp And.left

end RecordType

/-- Among fields with names of their own, a field is found with what stands in its place. -/
theorem find?_zip {fields : List Field} {values : List Value}
    (hnodup : (fields.map Field.name).Nodup) {f : Field} {v : Value}
    (h : (f, v) ∈ fields.zip values) :
    ((fields.zip values).find? fun entry => entry.1.name == f.name).map Prod.snd = some v := by
  induction fields generalizing values with
  | nil => cases h
  | cons g fields ih =>
      cases values with
      | nil => cases h
      | cons u values =>
          rw [List.map_cons, List.nodup_cons] at hnodup
          rw [List.zip_cons_cons] at h ⊢
          rcases List.mem_cons.mp h with heq | h
          · cases heq
            simp
          · -- the first field has another name
            have hne : g.name ≠ f.name := fun hname =>
              hnodup.1 (List.mem_map.mpr ⟨f, (List.of_mem_zip h).1, hname.symm⟩)
            rw [List.find?_cons_of_neg (by simpa using hne)]
            exact ih hnodup.2 h

/-- **A record answers for a field with the value in its place.** -/
theorem Record.get?_of_mem_zip {r : Record} (ht : r.type.check = .ok ()) {f : Field} {v : Value}
    (h : (f, v) ∈ r.type.fields.zip r.values) : r.get? f.name = some v :=
  find?_zip (RecordType.nodup_of_check ht) h

theorem exists_mem_zip {R : Field → Value → Prop} {fields : List Field} {values : List Value}
    (h : List.Forall₂ R fields values) {f : Field} (hf : f ∈ fields) :
    ∃ v, (f, v) ∈ fields.zip values ∧ R f v := by
  induction h with
  | nil => cases hf
  | @cons g v fields values hgv hrest ih =>
      rcases List.mem_cons.mp hf with rfl | hf
      · exact ⟨v, List.mem_cons_self, hgv⟩
      · obtain ⟨u, hu, hfu⟩ := ih hf
        exact ⟨u, List.mem_cons_of_mem _ hu, hfu⟩

end SheetQuery
