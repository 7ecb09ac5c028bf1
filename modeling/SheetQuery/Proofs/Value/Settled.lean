import SheetQuery.Proofs.Materialize.Fields

/-!
# Converted values are settled

A conversion comes to rest after one step: what it gives is nothing or a value in the representation
of the kind, converting it again gives it back, and every type that asks for the kind reads it as
what it reads the value itself. The types are the plain ones and those wrapped in optional layers,
each of which converts once more. A plain type has its zero for nothing alone: a converted value that
is there is always one that the type has a use for.

Main statement: `Value.convert_settled`.
-/

namespace SheetQuery

namespace BaseType

/-- What a plain type makes of a value in its own representation; it has no use for any other. -/
def take? : BaseType → Value → Option (Except QueryError Value)
  | .text, .text s => some (.ok (.text s))
  | .int64, .int i => some (.ok (.int i))
  | .int32, .int i => some (narrow .int32 (.int i))
  | .float, .float x => some (.ok (.float x))
  | .boolean, .bool b => some (.ok (.bool b))
  | .dateTime, .dateTime t => some (.ok (.dateTime t))
  | .date, .dateTime t => some (.ok (.dateTime t.date.midnight))
  | .any, v => some (.ok v)
  | _, _ => none

/-- Reading into a plain type that is wrapped in optional layers. Each layer converts the value and
keeps nothing for itself. -/
def readUnder (t : BaseType) : Nat → Value → Except QueryError Value
  | 0, v => t.read v
  | layers + 1, v => (v.convert t.kind).bind fun
      | .null => .ok .null
      | w => t.readUnder layers w

/-- Of all the layers the outermost decides. -/
theorem readUnder_eq (t : BaseType) (layers : Nat) (v : Value) :
    t.readUnder layers v = FieldType.read ⟨t, decide (0 < layers)⟩ v := by
  induction layers generalizing v with
  | zero => rfl
  | succ layers ih =>
      have hwrapped := FieldType.read_optional ⟨t, decide (0 < layers)⟩ v
      rw [readUnder]
      simp only [ih]
      exact hwrapped.symm

/-- A value of the kind is one that the type has a use for. -/
theorem isSome_take?_of_isOfKind {t : BaseType} {v : Value} (h : Value.IsOfKind t.kind v) :
    (t.take? v).isSome = true := by
  cases t with
  | _ =>
      cases h
      rfl

/-- The step behind the conversion takes what there is, and the zero where that is nothing. -/
theorem narrow_eq_take? {t : BaseType} {v : Value} (h : v = .null ∨ Value.IsOfKind t.kind v) :
    t.narrow v = (t.take? v).getD (.ok t.zero) := by
  rcases h with rfl | h
  · cases t <;> rfl
  · cases t with
    | _ =>
        cases h
        rfl

end BaseType

/-- A type reads what a value is converted to as it reads the value. -/
theorem FieldType.read_of_convert {t : FieldType} {v w : Value} (h : v.convert t.kind = .ok w) :
    t.read v = t.read w := by
  rw [read_eq, read_eq, h, Value.convert_convert h]

namespace Value

variable {kind : Kind} {v w : Value}

/-- **Converted values are settled.** What a value is converted to is nothing or of the kind, and it
is converted to itself. Every plain type of the kind reads the value as what it takes out of the
converted one, with its zero for nothing alone; and the type reads both alike, also when it is
wrapped in any number of optional layers. -/
theorem convert_settled (h : v.convert kind = .ok w) :
    (w = .null ∨ IsOfKind kind w) ∧ w.convert kind = .ok w ∧
      ∀ t : BaseType, t.kind = kind →
        (t.read v = (t.take? w).getD (.ok t.zero) ∧ (t.take? w = none → w = .null)) ∧
          ∀ layers, t.readUnder layers v = t.readUnder layers w := by
  have hkind := isOfKind_of_convert h
  refine ⟨hkind, convert_convert h, ?_⟩
  rintro t rfl
  refine ⟨⟨?_, ?_⟩, ?_⟩
  · rw [BaseType.read, h]
    exact BaseType.narrow_eq_take? hkind
  · intro hnone
    refine hkind.resolve_right fun hkind => ?_
    have hsome := BaseType.isSome_take?_of_isOfKind hkind
    rw [hnone] at hsome
    cases hsome
  · intro layers
    rw [BaseType.readUnder_eq, BaseType.readUnder_eq]
    exact FieldType.read_of_convert h

/-- A moment in the afternoon. -/
def afternoon : Calendar.DateTime :=
  ⟨⟨1988, 7, 26, by decide⟩, ⟨13, 45, 0, 0, by decide⟩⟩

/-- The moment is read from a text with blanks around it, and its day where a day is wanted that may
be missing in two ways. -/
theorem convert_settled_afternoon :
    (Value.text " 7/26/1988 1:45:00 PM\t").convert .dateTime = .ok (.dateTime afternoon) ∧
      (Value.dateTime afternoon).convert .dateTime = .ok (.dateTime afternoon) ∧
      BaseType.date.readUnder 2 (.text " 7/26/1988 1:45:00 PM\t") =
        .ok (.dateTime afternoon.date.midnight) := by
  have h : (Value.text " 7/26/1988 1:45:00 PM\t").convert .dateTime = .ok (.dateTime afternoon) :=
    rfl
  obtain ⟨-, hagain, hreads⟩ := convert_settled h
  obtain ⟨-, hlayers⟩ := hreads .date rfl
  exact ⟨h, hagain, hlayers 2⟩

end Value

end SheetQuery
