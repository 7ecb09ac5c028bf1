import SheetQuery.Proofs.Calendar.RoundTrip
import SheetQuery.Proofs.Value.Ranking

/-!
# Values and their texts

What a value is shown with is a text, and a text is compared with a number or a moment as what it
spells. So a value meets its own text: numbers of both kinds do, and texts, and moments on the
second. A moment is shown without the fraction of its second, which its text therefore precedes, and
truth values have no order with texts.

Main statement: `satisfies_display_iff`.
-/

namespace SheetQuery.Value

open Calendar Decimal

/-- The text that the value is shown with is level with the value. -/
def IsRecognized : Value → Prop
  | .bool _ => False
  | .dateTime t => t.clock.nanosecond % 1000000000 = 0
  | _ => True

instance (v : Value) : Decidable v.IsRecognized :=
  match v with
  | .bool _ => inferInstanceAs (Decidable False)
  | .dateTime t => inferInstanceAs (Decidable (t.clock.nanosecond % 1000000000 = 0))
  | .null | .int _ | .float _ | .text _ | .record _ => inferInstanceAs (Decidable True)

theorem trimmedChars_display {v : Value} (h : v.asText? = none) :
    trimmedChars v.display = v.chars := by
  have htight := isTight_chars h
  have htext : v.display.toList = v.chars := String.toList_ofList
  rw [trimmedChars, htext, Text.trim, htight.trimStart_eq, htight.trimEnd_eq]

/-- A whole number in digits stands for what the number itself is compared as. -/
theorem toFloat_display_int (i : Int64) : toFloat (.text (display (.int i))) = .ok (ofWord i) := by
  have hread : readFloat? (wholeText i.toInt) = some (ofWord i) :=
    readFloat?_wholeText (natAbs_toInt_lt i)
  have hchars : trimmedChars (display (.int i)) = wholeText i.toInt := by
    rw [trimmedChars_display rfl, chars]
  simp only [toFloat, hchars, hread]

theorem toFloat_display_float {x : Float} (hx : x.isNaN = false) :
    ∃ y, toFloat (.text (display (.float x))) = .ok y ∧ y.toModel.unpack = x.toModel.unpack := by
  obtain ⟨y, hread, hy⟩ := readFloat?_plainText hx
  have hchars : trimmedChars (display (.float x)) = plainText x := by
    rw [trimmedChars_display rfl, chars]
  refine ⟨y, ?_, hy⟩
  simp only [toFloat, hchars, hread]

theorem toDateTime_display (t : DateTime) :
    toDateTime (.text (display (.dateTime t))) = .ok t.wholeSeconds := by
  have hchars : trimmedChars (display (.dateTime t)) = t.text := by
    rw [trimmedChars_display rfl, chars]
  simp only [toDateTime, hchars, readDateTime?_text]

/-- A moment on the second is all that its text says. -/
theorem compare_wholeSeconds_iff (t : DateTime) :
    t.wholeSeconds.compare t = .eq ↔ t.clock.nanosecond % 1000000000 = 0 := by
  have hnano : t.wholeSeconds.clock.nanosecond =
      t.clock.nanosecond / 1000000000 * 1000000000 := rfl
  constructor
  · intro h
    rw [eq_of_compareDateTime h] at hnano
    omega
  · intro h
    have hwhole : t.clock.nanosecond / 1000000000 * 1000000000 = t.clock.nanosecond := by omega
    rw [DateTime.compare, Clock.compare, hnano, hwhole]
    have hdate : t.date.compare t.date = .eq := Std.ReflCmp.compare_self
    simp [DateTime.wholeSeconds, Clock.wholeSeconds, hdate]

theorem satisfies_eq_iff {a b : Value} : satisfies .eq a b = true ↔ compare a b = some .eq := by
  unfold satisfies
  rcases compare a b with _ | _ | _ | _ <;> simp [Comparison.holds]

/-- **A value meets the text it is shown with**, unless it is a truth value or a moment between two
seconds, or has no place in comparisons. -/
theorem satisfies_display_iff {v : Value} (hv : v.isScalar = true)
    (hnumber : ∀ x, v = .float x → x.isNaN = false) :
    satisfies .eq v (.text v.display) = true ↔ v.IsRecognized := by
  rw [satisfies_eq_iff]
  cases v with
  | null => cases hv
  | record fields => cases hv
  | bool b => exact ⟨nofun, nofun⟩
  | text s =>
      have hself : display (.text s) = s := by
        rw [display, chars, String.ofList_toList]
      rw [hself]
      have htext : compareText s s = .eq := Std.ReflCmp.compare_self
      exact ⟨fun _ => trivial, fun _ => congrArg some htext⟩
  | int i =>
      have hlevel : compareFloat (ofWord i) (ofWord i) = some .eq := by
        rw [compareFloat_eq]
        exact compareUnpacked_self (isRounded_ofInt (natAbs_toInt_lt i)).isNaN
      have hcompare : compare (.int i) (.text (display (.int i))) =
          (compareTextToNumber (display (.int i)) (ofWord i)).map Ordering.swap := rfl
      simp only [hcompare, compareTextToNumber, toFloat_display_int, hlevel, Option.map_some,
        Ordering.swap_eq, IsRecognized]
  | float x =>
      obtain ⟨y, hread, hy⟩ := toFloat_display_float (hnumber x rfl)
      have hlevel : compareFloat y x = some .eq := by
        rw [compareFloat_eq, hy]
        exact compareUnpacked_self (hnumber x rfl)
      have hcompare : compare (.float x) (.text (display (.float x))) =
          (compareTextToNumber (display (.float x)) x).map Ordering.swap := rfl
      simp only [hcompare, compareTextToNumber, hread, hlevel, Option.map_some,
        Ordering.swap_eq, IsRecognized]
  | dateTime t =>
      have hcompare : compare (.dateTime t) (.text (display (.dateTime t))) =
          (compareTextToMoment (display (.dateTime t)) t).map Ordering.swap := rfl
      rw [hcompare, compareTextToMoment, toDateTime_display, Option.map_some, Option.some.injEq,
        Ordering.swap_eq_eq]
      exact compare_wholeSeconds_iff t

end SheetQuery.Value
