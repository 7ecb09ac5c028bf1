import Mathlib.Data.List.Basic
import SheetQuery.Sql.Like

/-!
# Small letters and percent signs

A percent sign has no case, and words end at it. So it stays what it is in a text that is put into
small letters, what stands beside it is put into small letters as if it stood alone, the final sigma
included, and no other character becomes one.

Main statements: `Text.lower_cons_wildcard`, `Text.lower_concat_wildcard` and
`Text.wildcard_notMem_lower`.
-/

namespace SheetQuery.Text

open Sql

/-- Where a percent sign comes last, no letter is reached behind what there was. -/
theorem reachesCased_concat_wildcard (s : List Char) :
    reachesCased (s ++ [wildcard]) = reachesCased s := by
  have hignorable : caseIgnorable.has wildcard = false := by decide +kernel
  have hcased : cased.has wildcard = false := by decide +kernel
  unfold reachesCased
  rw [List.dropWhile_append]
  cases hrest : s.dropWhile caseIgnorable.has with
  | nil =>
      rw [if_pos List.isEmpty_nil, List.dropWhile_cons_of_neg (by simp [hignorable])]
      exact hcased
  | cons c rest => rfl

/-- A percent sign in front of all that has passed changes nothing. -/
theorem lowerAfter_concat_wildcard (before s : List Char) :
    lowerAfter (before ++ [wildcard]) s = lowerAfter before s := by
  induction s generalizing before with
  | nil => rfl
  | cons c s ih =>
      rw [lowerAfter, lowerAfter, reachesCased_concat_wildcard]
      exact congrArg _ (ih (c :: before))

/-- **A percent sign in front stays**, and the text behind it is put into small letters. -/
theorem lower_cons_wildcard (s : List Char) : lower (wildcard :: s) = wildcard :: lower s := by
  have h := lowerAfter_concat_wildcard [] s
  exact congrArg (List.cons wildcard) h

/-- With what has passed given, a percent sign at the end stays. -/
theorem lowerAfter_append_wildcard (before s : List Char) :
    lowerAfter before (s ++ [wildcard]) = lowerAfter before s ++ [wildcard] := by
  induction s generalizing before with
  | nil => rfl
  | cons c s ih =>
      rw [List.cons_append, lowerAfter, lowerAfter, reachesCased_concat_wildcard, ih,
        List.append_assoc]

/-- **A percent sign at the end stays**, and the text before it is put into small letters. -/
theorem lower_concat_wildcard (s : List Char) : lower (s ++ [wildcard]) = lower s ++ [wildcard] :=
  lowerAfter_append_wildcard [] s

/-! ## Characters that become percent signs -/

theorem eq_wildcard_of_toLower {c : Char} (h : c.toLower = wildcard) : c = wildcard := by
  unfold Char.toLower at h
  split at h
  · next hcapital =>
      -- a small letter comes behind the percent sign
      have hval := congrArg (fun c : Char => c.val.toNat) h
      have hlow : 65 ≤ c.val.toNat := hcapital.1
      have hhigh : c.val.toNat ≤ 90 := hcapital.2
      have hsum : (c.val + ('a'.val - 'A'.val)).toNat = c.val.toNat + 32 := by
        rw [UInt32.toNat_add]
        exact Nat.mod_eq_of_lt (by show c.val.toNat + 32 < 2 ^ 32; omega)
      have hwildcard : wildcard.val.toNat = 37 := rfl
      dsimp only at hval
      omega
  · exact h

/-- Only its code point gives a character, the one of the code point zero aside. -/
theorem eq_toNat_of_ofNat {n : Nat} {c : Char} (h : Char.ofNat n = c) (hc : c.toNat ≠ 0) :
    n = c.toNat := by
  by_cases hvalid : n.isValidChar
  · have hchar : Char.ofNat n = Char.ofNatAux n hvalid := dif_pos hvalid
    rw [← h, hchar]
    rfl
  · have hzero : Char.ofNat n = '\x00' := dif_neg hvalid
    exact absurd (congrArg Char.toNat (h.symm.trans hzero)) hc

/-- The small letters beyond ASCII come behind the percent sign. -/
theorem toNat_lt_of_mem_capitals {run : CaseRun} (h : run ∈ capitals) :
    (wildcard.toNat : Int) < run.1 + run.2.2.2 := by
  have hall : capitals.all (fun run => decide ((wildcard.toNat : Int) < run.1 + run.2.2.2)) := by
    decide +kernel
  exact of_decide_eq_true (List.all_eq_true.mp hall run h)

theorem eq_wildcard_of_caseCounterpart {c : Char} (h : caseCounterpart capitals c = wildcard) :
    c = wildcard := by
  unfold caseCounterpart at h
  split at h
  · next offset hoffset =>
      obtain ⟨⟨first, last, step, away⟩, hrun, hfits⟩ := List.exists_of_findSome?_eq_some hoffset
      have hsmall := toNat_lt_of_mem_capitals hrun
      dsimp only [CaseRun.offset?] at hfits hsmall
      split at hfits
      · next hinside =>
          cases hfits
          simp only [Bool.and_eq_true, decide_eq_true_eq] at hinside
          have hvalue := eq_toNat_of_ofNat h (by decide)
          omega
      · cases hfits
  · exact h

theorem eq_wildcard_of_mem_lowerChar {c : Char} (h : wildcard ∈ lowerChar c) : c = wildcard := by
  unfold lowerChar at h
  split at h
  · exact eq_wildcard_of_toLower (List.mem_singleton.mp h).symm
  · split at h
    · exact absurd h (by decide)
    · exact eq_wildcard_of_caseCounterpart (List.mem_singleton.mp h).symm

theorem mem_of_wildcard_mem_lowerAfter {before s : List Char} (h : wildcard ∈ lowerAfter before s) :
    wildcard ∈ s := by
  induction s generalizing before with
  | nil => cases h
  | cons c s ih =>
      rw [lowerAfter, List.mem_append] at h
      rcases h with h | h
      · split at h
        · -- either form of the sigma is another character
          split at h <;> exact absurd h (by decide)
        · exact List.mem_cons.mpr (Or.inl (eq_wildcard_of_mem_lowerChar h).symm)
      · exact List.mem_cons_of_mem _ (ih h)

/-- **No percent sign comes up** by putting a text into small letters. -/
theorem wildcard_notMem_lower {s : List Char} (h : wildcard ∉ s) : wildcard ∉ lower s :=
  fun hmem => h (mem_of_wildcard_mem_lowerAfter hmem)

end SheetQuery.Text
