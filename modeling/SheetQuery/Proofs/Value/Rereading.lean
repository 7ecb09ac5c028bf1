import SheetQuery.Proofs.Value.Conversion
import SheetQuery.Proofs.Value.Spelling

/-!
# Values read back from their texts

Whole numbers, truth values and moments on the second survive being written and read again: the text
that a value is shown with, with any blanks around it, is converted to the value's own kind as the
value. A whole number in digits is taken as a word before it is tried as a decimal, which beyond
2^53 would miss it, and a moment meets the first of the patterns for moments.

Main statement: `Value.convert_padded_display`.
-/

namespace SheetQuery

namespace Value

open Decimal Calendar

/-- The value comes back from the text that it is shown with, as a value of the kind. -/
inductive IsRestored : Kind → Value → Prop where
  | integer (i : Int64) : IsRestored .integer (.int i)
  | boolean (b : Bool) : IsRestored .boolean (.bool b)
  | dateTime (t : DateTime) (h : t.clock.nanosecond % 1000000000 = 0) :
      IsRestored .dateTime (.dateTime t)

theorem toInteger_display (i : Int64) : toInteger (.text (display (.int i))) = .ok i := by
  have hread : readWholeText? (wholeText i.toInt) = some i :=
    or_eq_of_eq_some (readWord?_wholeText i)
  have hchars : trimmedChars (display (.int i)) = wholeText i.toInt := by
    rw [trimmedChars_display rfl, chars]
  simp only [toInteger, hchars, hread]

theorem toBool_display (b : Bool) : toBool (.text (display (.bool b))) = .ok b := by
  cases b <;> rfl

theorem IsRestored.asText? {kind : Kind} {v : Value} (h : v.IsRestored kind) : v.asText? = none := by
  cases h <;> rfl

theorem IsRestored.chars_ne_nil {kind : Kind} {v : Value} (h : v.IsRestored kind) :
    v.chars ≠ [] := by
  intro hnil
  cases h with
  | integer i =>
      have hread := readWord?_wholeText i
      rw [chars] at hnil
      rw [hnil] at hread
      cases hread
  | boolean b => cases b <;> cases hnil
  | dateTime t =>
      have hread := readDateTime?_text t
      rw [chars] at hnil
      rw [hnil] at hread
      cases hread

/-- Such a value comes back from its bare text. -/
theorem IsRestored.convert_display {kind : Kind} {v : Value} (h : v.IsRestored kind) :
    (Value.text v.display).convert kind = .ok v := by
  have htrim : Text.trim v.display.toList = v.chars := trimmedChars_display h.asText?
  have hblank : (Value.text v.display).isBlankText = false := by
    rw [isBlankText, Text.allBlank_eq_isEmpty_trim, htrim]
    exact List.isEmpty_eq_false_iff.mpr h.chars_ne_nil
  cases h with
  | integer i =>
      simp only [convert, hblank, toInteger_display]
      rfl
  | boolean b =>
      simp only [convert, hblank, toBool_display]
      rfl
  | dateTime t hwhole =>
      have hself : t.wholeSeconds = t :=
        eq_of_compareDateTime ((compare_wholeSeconds_iff t).mpr hwhole)
      simp only [convert, hblank, toDateTime_display, hself]
      rfl

/-- **Values survive being read as text.** A whole number, a truth value or a moment on the second,
leap seconds and the years of every length among them, is converted to its text, and that text with
any blanks around it is converted to the value's kind as the same value. -/
theorem convert_padded_display {kind : Kind} {v : Value} (h : v.IsRestored kind)
    {before after : String} (hbefore : Text.allBlank before.toList = true)
    (hafter : Text.allBlank after.toList = true) :
    v.convert .text = .ok (.text v.display) ∧
      (Value.text (before ++ v.display ++ after)).convert kind = .ok v := by
  refine ⟨?_, ?_⟩
  · cases h <;> rfl
  · have htrim : Text.trim v.display.toList = Text.trim (before ++ v.display ++ after).toList := by
      rw [String.toList_append, String.toList_append, Text.trim_padded hbefore hafter]
    refine convert_text_congr ?_ ?_ htrim h.convert_display
    · cases h <;> nofun
    · cases h <;> nofun

/-- The last second of a leap day. -/
def leapDayEnd : DateTime :=
  ⟨⟨2024, 2, 29, by decide⟩, ⟨23, 59, 59, 0, by decide⟩⟩

/-- The least word keeps its sign and its digits, and the moment its zeros, between a tab, a line
break and a space that does not break. -/
theorem convert_padded_display_leapDayEnd :
    ((Value.int Int64.minValue).convert .text = .ok (.text "-9223372036854775808") ∧
      (Value.text "\t-9223372036854775808\n").convert .integer = .ok (.int Int64.minValue)) ∧
      (Value.dateTime leapDayEnd).convert .text = .ok (.text "2024-02-29 23:59:59") ∧
        (Value.text "\u00a02024-02-29 23:59:59 ").convert .dateTime =
          .ok (.dateTime leapDayEnd) := by
  have hword : (Value.int Int64.minValue).display = "-9223372036854775808" := by decide +kernel
  have hmoment : (Value.dateTime leapDayEnd).display = "2024-02-29 23:59:59" := by decide +kernel
  have hint := convert_padded_display (.integer Int64.minValue)
    (by decide : Text.allBlank "\t".toList = true) (by decide : Text.allBlank "\n".toList = true)
  have htime := convert_padded_display (.dateTime leapDayEnd rfl)
    (by decide : Text.allBlank "\u00a0".toList = true) (by decide : Text.allBlank " ".toList = true)
  rw [hword] at hint
  rw [hmoment] at htime
  exact ⟨hint, htime⟩

end Value

end SheetQuery
