import Mathlib.Data.List.DropRight
import SheetQuery.Options
import SheetQuery.Value.Basic

/-!
# Trimming

The three ways to cut blanks off a text agree on what is inside: whatever a policy leaves, a reader
that ignores surrounding blanks sees the same text. What a value other than a text is shown with has
no blank at either end, so no policy changes it.

Main statements: `TrimPolicy.trim_apply`, `TrimPolicy.apply_apply` and `Value.isTight_chars`.
-/

namespace SheetQuery

namespace Text

/-- No blank at either end. -/
structure IsTight (s : List Char) : Prop where
  first : ∀ c ∈ s.head?, isBlank c = false
  last : ∀ c ∈ s.getLast?, isBlank c = false

theorem trimEnd_eq_rdropWhile (s : List Char) : trimEnd s = s.rdropWhile isBlank := rfl

theorem trim_trimStart (s : List Char) : trim (trimStart s) = trim s := by
  simp only [trim, trimStart, List.dropWhile_idempotent]

/-- A blank at the end is cut off before or after those at the start. -/
theorem trim_concat {c : Char} (hc : isBlank c = true) (s : List Char) :
    trim (s ++ [c]) = trim s := by
  rw [trim, trim, trimStart, List.dropWhile_append]
  by_cases hs : s.dropWhile isBlank = []
  · simp [trimStart, hs, hc]
  · rw [if_neg (by simpa using hs), trimEnd_eq_rdropWhile, List.rdropWhile_concat_pos _ _ _ hc]
    rfl

/-- What is left does not depend on the blanks around it. -/
theorem trim_padded {before after : List Char} (hbefore : allBlank before = true)
    (hafter : allBlank after = true) (s : List Char) :
    trim (before ++ s ++ after) = trim s := by
  induction after using List.reverseRecOn with
  | nil =>
      rw [List.append_nil, trim, trim, trimStart, trimStart,
        List.dropWhile_append_of_pos fun c hc => List.all_eq_true.mp hbefore c hc]
  | append_singleton after c ih =>
      rw [allBlank, List.all_append, Bool.and_eq_true] at hafter
      obtain ⟨hafter, hc⟩ := hafter
      rw [← List.append_assoc, trim_concat (by simpa using hc), ih hafter]

theorem trim_trimEnd (s : List Char) : trim (trimEnd s) = trim s := by
  induction s using List.reverseRecOn with
  | nil => rfl
  | append_singleton s c ih =>
      rw [trimEnd_eq_rdropWhile] at ih ⊢
      by_cases hc : isBlank c = true
      · rw [List.rdropWhile_concat_pos _ _ _ hc, ih, trim_concat hc]
      · rw [List.rdropWhile_concat_neg _ _ _ hc]

/-- A text is blank when nothing is left of it. -/
theorem allBlank_eq_isEmpty_trim (s : List Char) : allBlank s = (trim s).isEmpty := by
  have hall : allBlank s = true ↔ ∀ c ∈ s, isBlank c = true := List.all_eq_true
  have hempty : (trim s).isEmpty = true ↔ ∀ c ∈ s, isBlank c = true := by
    rw [List.isEmpty_iff, trim, trimEnd_eq_rdropWhile, List.rdropWhile_eq_nil_iff]
    constructor
    · intro h
      -- what the start leaves begins with a character that is no blank
      have hnil : trimStart s = [] := by
        rw [← List.dropWhile_eq_nil_iff (p := isBlank)] at h
        rwa [trimStart, List.dropWhile_idempotent] at h
      exact List.dropWhile_eq_nil_iff.mp hnil
    · intro h c hc
      exact h c ((List.dropWhile_suffix isBlank).subset hc)
  rw [Bool.eq_iff_iff, hall, hempty]

namespace IsTight

variable {s : List Char}

theorem trimStart_eq (h : IsTight s) : trimStart s = s := by
  rw [trimStart, List.dropWhile_eq_self_iff]
  intro hs hblank
  have hfirst : s[0] ∈ s.head? := by simp [List.head?_eq_getElem?]
  rw [h.first _ hfirst] at hblank
  cases hblank

theorem trimEnd_eq (h : IsTight s) : trimEnd s = s := by
  rw [trimEnd_eq_rdropWhile, List.rdropWhile_eq_self_iff]
  intro hs hblank
  have hlast : s.getLast hs ∈ s.getLast? := by simp [List.getLast?_eq_getLast_of_ne_nil hs]
  rw [h.last _ hlast] at hblank
  cases hblank

theorem of_all (h : ∀ c ∈ s, isBlank c = false) : IsTight s :=
  ⟨fun c hc => h c (List.mem_of_mem_head? hc), fun c hc => h c (List.mem_of_mem_getLast? hc)⟩

/-- A text is tight by its two ends, whatever stands between them. -/
theorem of_ends {first last : List Char} (hf : first ≠ []) (hl : last ≠ [])
    (hfirst : ∀ c ∈ first.head?, isBlank c = false)
    (hlast : ∀ c ∈ last.getLast?, isBlank c = false) (inner : List Char) :
    IsTight (first ++ inner ++ last) := by
  refine ⟨?_, ?_⟩
  · intro c hc
    rw [List.append_assoc, List.head?_append_of_ne_nil _ hf] at hc
    exact hfirst c hc
  · intro c hc
    rw [List.getLast?_append_of_ne_nil _ hl] at hc
    exact hlast c hc

end IsTight

end Text

/-! ## Policies -/

namespace TrimPolicy

/-- **Every policy leaves the inside of a text.** -/
theorem trim_apply (p : TrimPolicy) (s : List Char) : Text.trim (p.apply s) = Text.trim s := by
  cases p with
  | none => rfl
  | leading => exact Text.trim_trimStart s
  | trailing => exact Text.trim_trimEnd s
  | both => exact (Text.trim_trimEnd _).trans (Text.trim_trimStart s)

theorem apply_of_isTight (p : TrimPolicy) {s : List Char} (h : Text.IsTight s) :
    p.apply s = s := by
  cases p with
  | none => rfl
  | leading => exact h.trimStart_eq
  | trailing => exact h.trimEnd_eq
  | both =>
      show Text.trimEnd (Text.trimStart s) = s
      rw [h.trimStart_eq, h.trimEnd_eq]

end TrimPolicy

/-! ## What values are shown with -/

namespace Text

theorem toNat_of_isDigit {c : Char} (h : c.isDigit = true) : 48 ≤ c.toNat ∧ c.toNat ≤ 57 := by
  simp only [Char.isDigit, Bool.and_eq_true, decide_eq_true_eq] at h
  exact ⟨UInt32.le_iff_toNat_le.mp h.1, UInt32.le_iff_toNat_le.mp h.2⟩

theorem isBlank_of_isDigit {c : Char} (h : c.isDigit = true) : isBlank c = false := by
  obtain ⟨hlow, hhigh⟩ := toNat_of_isDigit h
  simp [isBlank]
  omega

end Text

namespace Decimal

theorem isBlank_of_mem_digits {n : Nat} {c : Char} (h : c ∈ digits n) : Text.isBlank c = false :=
  Text.isBlank_of_isDigit (Nat.isDigit_of_mem_toDigits (by decide) (by decide) h)

theorem isBlank_of_mem_padded {width n : Nat} {c : Char} (h : c ∈ padded width n) :
    Text.isBlank c = false := by
  rcases List.mem_append.mp h with h | h
  · rw [(List.mem_replicate.mp h).2]
    rfl
  · exact isBlank_of_mem_digits h

theorem isBlank_of_mem_wholeText {i : Int} {c : Char} (h : c ∈ wholeText i) :
    Text.isBlank c = false := by
  unfold wholeText at h
  split at h
  · rcases List.mem_cons.mp h with rfl | h
    · rfl
    · exact isBlank_of_mem_digits h
  · exact isBlank_of_mem_digits h

theorem isBlank_of_mem_positional {d : Scaled} {c : Char} (h : c ∈ d.positional) :
    Text.isBlank c = false := by
  have hzeros : ∀ n, c ∈ List.replicate n '0' → Text.isBlank c = false := by
    intro n hc
    rw [(List.mem_replicate.mp hc).2]
    rfl
  simp only [Scaled.positional] at h
  split at h
  · rcases List.mem_append.mp h with h | h
    · exact isBlank_of_mem_digits h
    · exact hzeros _ h
  · split at h
    · rcases List.mem_append.mp h with h | h
      · exact isBlank_of_mem_digits (List.mem_of_mem_take h)
      · rcases List.mem_cons.mp h with rfl | h
        · rfl
        · exact isBlank_of_mem_digits (List.mem_of_mem_drop h)
    · rcases List.mem_append.mp h with h | h
      · rcases List.mem_append.mp h with h | h
        · simp only [List.mem_cons, List.not_mem_nil, or_false] at h
          rcases h with rfl | rfl <;> rfl
        · exact hzeros _ h
      · exact isBlank_of_mem_digits h

theorem isBlank_of_mem_plainText {x : Float} {c : Char} (h : c ∈ plainText x) :
    Text.isBlank c = false := by
  have hsign : c ∈ signText x → Text.isBlank c = false := by
    intro hc
    unfold signText at hc
    split at hc
    · rw [List.mem_singleton.mp hc]
      rfl
    · cases hc
  unfold plainText at h
  split at h
  · simp only [List.mem_cons, List.not_mem_nil, or_false] at h
    rcases h with rfl | rfl | rfl <;> rfl
  · split at h
    · rcases List.mem_append.mp h with h | h
      · exact hsign h
      · simp only [List.mem_cons, List.not_mem_nil, or_false] at h
        rcases h with rfl | rfl | rfl <;> rfl
    · rcases List.mem_append.mp h with h | h
      · exact hsign h
      · exact isBlank_of_mem_positional h

end Decimal

namespace Calendar

theorem isBlank_of_mem_yearText {year : Int} {c : Char} (h : c ∈ yearText year) :
    Text.isBlank c = false := by
  unfold yearText at h
  split at h
  · exact Decimal.isBlank_of_mem_padded h
  · rcases List.mem_cons.mp h with rfl | h
    · split <;> rfl
    · exact Decimal.isBlank_of_mem_padded h

/-- A moment starts with its year and ends with its second. -/
theorem isTight_text (t : DateTime) : Text.IsTight t.text := by
  have hpadded : ∀ width n, Decimal.padded width n ≠ [] := fun width n h =>
    Nat.toDigits_ne_nil (List.append_eq_nil_iff.mp h).2
  have hyear : yearText t.date.year ≠ [] := by
    unfold yearText
    split
    · exact hpadded _ _
    · exact List.cons_ne_nil _ _
  have hends := Text.IsTight.of_ends hyear (hpadded 2 t.clock.shownSecond)
    (fun c hc => isBlank_of_mem_yearText (List.mem_of_mem_head? hc))
    (fun c hc => Decimal.isBlank_of_mem_padded (List.mem_of_mem_getLast? hc))
    ('-' :: Decimal.padded 2 t.date.month ++ '-' :: Decimal.padded 2 t.date.day ++
      ' ' :: Decimal.padded 2 t.clock.hour ++ ':' :: Decimal.padded 2 t.clock.minute ++ [':'])
  simpa [DateTime.text, Date.text, Clock.text] using hends

end Calendar

namespace Value

/-- **What is no text is shown without blanks around it.** -/
theorem isTight_chars {v : Value} (h : v.asText? = none) : Text.IsTight v.chars := by
  cases v with
  | null => exact .of_all nofun
  | bool b =>
      have hall : (chars (.bool b)).all (fun c => !Text.isBlank c) = true := by
        cases b <;> decide
      refine .of_all fun c hc => ?_
      simpa using List.all_eq_true.mp hall c hc
  | int i =>
      rw [chars]
      exact .of_all fun _ hc => Decimal.isBlank_of_mem_wholeText hc
  | float x =>
      rw [chars]
      exact .of_all fun _ hc => Decimal.isBlank_of_mem_plainText hc
  | text s => cases h
  | dateTime t =>
      rw [chars]
      exact Calendar.isTight_text t
  | record fields =>
      rw [chars]
      have hend : ∀ d, Text.isBlank d = false → ∀ c ∈ some d, Text.isBlank c = false := by
        rintro d hd c hc
        cases hc
        exact hd
      exact .of_ends (List.cons_ne_nil _ _) (List.cons_ne_nil _ _) (hend _ (by decide))
        (hend _ (by decide)) _

end Value

end SheetQuery
