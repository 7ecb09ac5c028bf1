import SheetQuery.Proofs.Value.Order
import SheetQuery.Sql.Evaluation

/-!
# First occurrences

Of the cells of a column a statement keeps those that equal none before them. Equality is that of
values as they are stored, so a not-a-number value equals nothing, itself included, and the two
zeros equal each other.

Main statements: `pairwise_firstOccurrences`, and `exists_of_mem` for the cells that are left out.
-/

namespace SheetQuery

/-! ## Equality of values -/

namespace Value

theorem beq_float_comm (x y : Float) : (x == y) = (y == x) := by
  rw [Bool.eq_iff_iff, beq_iff_compareUnpacked, beq_iff_compareUnpacked,
    compareUnpacked_swap x.toModel.unpack y.toModel.unpack]
  cases x.toModel.unpack.compare y.toModel.unpack with
  | none => simp
  | some o => cases o <;> simp

mutual

theorem same_comm (a b : Value) : same a b = same b a := by
  cases a with
  | null => cases b <;> rfl
  | float x =>
      cases b with
      | float y => exact beq_float_comm x y
      | _ => rfl
  | record m =>
      cases b with
      | record n => exact sameFields_comm m n
      | _ => rfl
  | bool p =>
      cases b with
      | bool q => exact BEq.comm
      | _ => rfl
  | int i =>
      cases b with
      | int j => exact BEq.comm
      | _ => rfl
  | text s =>
      cases b with
      | text t => exact BEq.comm
      | _ => rfl
  | dateTime t =>
      cases b with
      | dateTime u => exact BEq.comm
      | _ => rfl

theorem sameFields_comm (a b : List (String × Value)) : sameFields a b = sameFields b a := by
  match a, b with
  | [], [] => rfl
  | [], _ :: _ => rfl
  | _ :: _, [] => rfl
  | (m, v) :: r, (n, w) :: s =>
      have hname : (m == n) = (n == m) := BEq.comm
      rw [sameFields, sameFields, same_comm v w, sameFields_comm r s, hname]

end

theorem beq_comm (a b : Value) : (a == b) = (b == a) :=
  same_comm a b

end Value

namespace Sql

/-! ## Kept cells -/

theorem contains_eq_false_iff {seen : List Value} {v : Value} :
    seen.contains v = false ↔ ∀ u ∈ seen, (u == v) = false := by
  rw [List.contains_eq_any_beq, List.any_eq_false]
  exact forall₂_congr fun u _ => by rw [Value.beq_comm v u, Bool.not_eq_true]

theorem mem_of_mem_firstOccurrences {seen cells : List Value} {v : Value}
    (h : v ∈ firstOccurrences seen cells) : v ∈ cells := by
  induction cells generalizing seen with
  | nil => cases h
  | cons cell rest ih =>
      rw [firstOccurrences] at h
      split at h
      · exact List.mem_cons_of_mem cell (ih h)
      · rcases List.mem_cons.mp h with rfl | h
        · exact List.mem_cons_self
        · exact List.mem_cons_of_mem cell (ih h)

theorem length_firstOccurrences_le (seen cells : List Value) :
    (firstOccurrences seen cells).length ≤ cells.length := by
  induction cells generalizing seen with
  | nil => exact Nat.le_refl _
  | cons cell rest ih =>
      rw [firstOccurrences]
      split
      · exact Nat.le_succ_of_le (ih seen)
      · exact Nat.succ_le_succ (ih _)

/-- A cell that is kept equals none that was seen before. -/
theorem beq_eq_false_of_mem {seen cells : List Value} {u v : Value}
    (h : v ∈ firstOccurrences seen cells) (hu : u ∈ seen) : (u == v) = false := by
  induction cells generalizing seen with
  | nil => cases h
  | cons cell rest ih =>
      rw [firstOccurrences] at h
      split at h
      · exact ih h hu
      · next hseen =>
          rcases List.mem_cons.mp h with rfl | h
          · exact contains_eq_false_iff.mp (Bool.not_eq_true _ ▸ hseen) u hu
          · exact ih h (List.mem_append_left _ hu)

/-- **The cells that are kept are pairwise different.** -/
theorem pairwise_firstOccurrences (seen cells : List Value) :
    (firstOccurrences seen cells).Pairwise fun a b => (a == b) = false := by
  induction cells generalizing seen with
  | nil => exact .nil
  | cons cell rest ih =>
      rw [firstOccurrences]
      split
      · exact ih seen
      · refine .cons (fun v hv => ?_) (ih _)
        exact beq_eq_false_of_mem hv (List.mem_append_right seen (List.mem_singleton.mpr rfl))

/-- A number and a text that looks like it are different cells. -/
example : (firstOccurrences [] [.int 1, .text "1", .int 1, .null, .text "1"]).length = 3 := by
  decide +kernel

/-- A cell that is left out equals one that was seen or kept before it. -/
theorem exists_of_mem (seen : List Value) {cells : List Value} {v : Value} (h : v ∈ cells) :
    v ∈ firstOccurrences seen cells ∨
      ∃ u, (u ∈ seen ∨ u ∈ firstOccurrences seen cells) ∧ (u == v) = true := by
  induction cells generalizing seen with
  | nil => cases h
  | cons cell rest ih =>
      rw [firstOccurrences]
      split
      · next hseen =>
          rcases List.mem_cons.mp h with rfl | h
          · rw [List.contains_eq_any_beq] at hseen
            obtain ⟨u, hu, heq⟩ := List.any_eq_true.mp hseen
            exact Or.inr ⟨u, Or.inl hu, (Value.beq_comm u v).trans heq⟩
          · exact ih seen h
      · rcases List.mem_cons.mp h with rfl | h
        · exact Or.inl List.mem_cons_self
        · rcases ih (seen ++ [cell]) h with hkept | ⟨u, hu, heq⟩
          · exact Or.inl (List.mem_cons_of_mem _ hkept)
          · refine Or.inr ⟨u, ?_, heq⟩
            rcases hu with hu | hu
            · rcases List.mem_append.mp hu with hu | hu
              · exact Or.inl hu
              · exact Or.inr (List.mem_cons.mpr (Or.inl (List.mem_singleton.mp hu)))
            · exact Or.inr (List.mem_cons_of_mem _ hu)

end Sql

end SheetQuery
