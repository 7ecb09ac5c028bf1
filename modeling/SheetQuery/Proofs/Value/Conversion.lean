import SheetQuery.Proofs.Outcome
import SheetQuery.Proofs.Text.Trimming
import SheetQuery.Value.Convert

/-!
# What the table of conversions does

A conversion gives nothing or a value in the representation of its kind, and what is in that
representation already stays as it is. Of a text only the part between its blanks decides, unless
the text itself is what is asked for.

Main statements: `Value.convert_convert` and `Value.convert_text_congr`.
-/

namespace SheetQuery

/-- A value in the representation of a kind. -/
inductive Value.IsOfKind : Kind → Value → Prop where
  | text (s : String) : IsOfKind .text (.text s)
  | integer (i : Int64) : IsOfKind .integer (.int i)
  | float (x : Float) : IsOfKind .float (.float x)
  | boolean (b : Bool) : IsOfKind .boolean (.bool b)
  | dateTime (t : Calendar.DateTime) : IsOfKind .dateTime (.dateTime t)
  | any (v : Value) : IsOfKind .any v

namespace Value

variable {kind : Kind} {v w : Value}

theorem convert_of_isOfKind (h : IsOfKind kind v) : v.convert kind = .ok v := by
  cases h with
  | any v => exact convert_any v
  | _ => rfl

theorem isOfKind_of_convert (h : v.convert kind = .ok w) : w = .null ∨ IsOfKind kind w := by
  unfold convert at h
  split at h
  · next hkept =>
      cases h
      rcases Bool.or_eq_true_iff.mp hkept with hnull | hany
      · cases v with
        | null => exact Or.inl rfl
        | _ => cases hnull
      · rw [eq_of_beq hany]
        exact Or.inr (.any v)
  · split at h
    · cases h
      exact Or.inl rfl
    · refine Or.inr ?_
      cases kind with
      | text =>
          cases h
          cases v <;> exact .text _
      | integer =>
          obtain ⟨i, -, rfl⟩ := map_eq_ok_iff.mp h
          exact .integer i
      | float =>
          obtain ⟨x, -, rfl⟩ := map_eq_ok_iff.mp h
          exact .float x
      | boolean =>
          obtain ⟨b, -, rfl⟩ := map_eq_ok_iff.mp h
          exact .boolean b
      | dateTime =>
          obtain ⟨t, -, rfl⟩ := map_eq_ok_iff.mp h
          exact .dateTime t
      | any => exact .any w

/-- What was converted to a kind is of that kind, and stays as it is when it is converted again. -/
theorem convert_convert (h : v.convert kind = .ok w) : w.convert kind = .ok w := by
  rcases isOfKind_of_convert h with rfl | hkind
  · exact convert_null kind
  · exact convert_of_isOfKind hkind

theorem convert_toText (v : Value) :
    v.convert .text = .ok (if v.isNull then .null else v.toText) := by
  cases v <;> rfl

/-- Texts that are the same between their blanks convert alike, to every kind that is not the
text itself. -/
theorem convert_text_congr {s s' : String} (htext : kind ≠ .text) (hany : kind ≠ .any)
    (hs : Text.trim s.toList = Text.trim s'.toList) (h : (Value.text s).convert kind = .ok w) :
    (Value.text s').convert kind = .ok w := by
  have htrimmed : trimmedChars s' = trimmedChars s := hs.symm
  have hblank : (Value.text s').isBlankText = (Value.text s).isBlankText := by
    show Text.allBlank s'.toList = Text.allBlank s.toList
    rw [Text.allBlank_eq_isEmpty_trim, Text.allBlank_eq_isEmpty_trim, hs]
  unfold convert at h ⊢
  rw [hblank]
  split at h
  · next hkept =>
      -- a text is there, and the kind is not the one that keeps everything
      simp [isNull, hany] at hkept
  · next hkept =>
      rw [if_neg (by simpa [isNull] using hkept)]
      split at h
      · next hb =>
          rw [if_pos hb]
          exact h
      · next hb =>
          rw [if_neg hb]
          cases kind with
          | text => exact absurd rfl htext
          | any => exact absurd rfl hany
          | integer => simpa only [toInteger, htrimmed] using h
          | float =>
              obtain ⟨x, hx, rfl⟩ := map_eq_ok_iff.mp h
              refine map_eq_ok_iff.mpr ⟨x, ?_, rfl⟩
              simp only [toFloat, htrimmed] at hx ⊢
              cases hread : Decimal.readFloat? (trimmedChars s) with
              | none => simp [hread, refuse] at hx
              | some y => simpa [hread] using hx
          | boolean =>
              obtain ⟨b, hb', rfl⟩ := map_eq_ok_iff.mp h
              refine map_eq_ok_iff.mpr ⟨b, ?_, rfl⟩
              simp only [toBool, htrimmed] at hb' ⊢
              cases hread : readTruth? (trimmedChars s) with
              | none => simp [hread, refuse] at hb'
              | some y => simpa [hread] using hb'
          | dateTime =>
              obtain ⟨t, ht, rfl⟩ := map_eq_ok_iff.mp h
              refine map_eq_ok_iff.mpr ⟨t, ?_, rfl⟩
              simp only [toDateTime, htrimmed] at ht ⊢
              cases hread : Calendar.readDateTime? (trimmedChars s) with
              | none => simp [hread, refuse] at ht
              | some y => simpa [hread] using ht

end Value

end SheetQuery
