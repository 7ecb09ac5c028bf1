import SheetQuery.Sql.Evaluation

/-!
# Sorting by insertion

The rows that come out of the sort are those that went in, each as often, whatever the comparison.
Comparing elements by a key sorts as comparing the keys themselves does. Elements that are not told
apart keep their order, also where the comparison puts nothing else in order; where it decides on
every pair and its decisions can be chained, every element comes out before those that it may not
follow.

Main statements: `sortBy_perm`, `sortBy_map`, `sortBy_filter` and `sortBy_pairwise`.
-/

namespace SheetQuery.Sql

variable {α : Type} (precedes : α → α → Bool)

theorem insertBackwards_perm (x : α) (ys : List α) :
    (insertBackwards precedes x ys).Perm (x :: ys) := by
  induction ys with
  | nil => exact .refl _
  | cons y ys ih =>
      rw [insertBackwards]
      split
      · exact (ih.cons y).trans (.swap x y ys)
      · exact .refl _

theorem foldl_insertBackwards_perm (xs sorted : List α) :
    (xs.foldl (fun sorted x => insertBackwards precedes x sorted) sorted).Perm (xs ++ sorted) := by
  induction xs generalizing sorted with
  | nil => exact .refl _
  | cons x xs ih =>
      rw [List.foldl_cons]
      -- what was inserted first stands before or among the rest
      exact (ih _).trans (((insertBackwards_perm precedes x sorted).append_left xs).trans
        List.perm_middle)

/-- **Sorting only changes the order.** -/
theorem sortBy_perm (xs : List α) : (sortBy precedes xs).Perm xs := by
  have h := foldl_insertBackwards_perm precedes xs []
  rw [List.append_nil] at h
  exact (List.reverse_perm _).trans h

theorem insertBackwards_map {β : Type} (f : β → α) (x : β) (ys : List β) :
    insertBackwards precedes (f x) (ys.map f) =
      (insertBackwards (fun a b => precedes (f a) (f b)) x ys).map f := by
  induction ys with
  | nil => rfl
  | cons y ys ih =>
      simp only [List.map_cons, insertBackwards]
      split
      · rw [ih, List.map_cons]
      · simp only [List.map_cons]

theorem sortBy_map {β : Type} (f : β → α) (xs : List β) :
    sortBy precedes (xs.map f) = (sortBy (fun a b => precedes (f a) (f b)) xs).map f := by
  have hfold : ∀ sorted : List β,
      (xs.map f).foldl (fun sorted x => insertBackwards precedes x sorted) (sorted.map f) =
        (xs.foldl (fun sorted x => insertBackwards (fun a b => precedes (f a) (f b)) x sorted)
          sorted).map f := by
    induction xs with
    | nil => exact fun _ => rfl
    | cons x xs ih =>
        intro sorted
        rw [List.map_cons, List.foldl_cons, List.foldl_cons, insertBackwards_map]
        exact ih _
  rw [sortBy, sortBy, List.map_reverse]
  exact congrArg List.reverse (hfold [])

/-! ## Elements that are not told apart -/

/-- An element of a class is put in front of all others of the class: what it is moved past, it
precedes, so that is not of the class. -/
theorem filter_insertBackwards {p : α → Bool} {x : α} {ys : List α}
    (h : p x = true → ∀ y ∈ ys, p y = true → precedes x y = false) :
    (insertBackwards precedes x ys).filter p = [x].filter p ++ ys.filter p := by
  induction ys with
  | nil => simp [insertBackwards]
  | cons y ys ih =>
      rw [insertBackwards]
      split
      · next hprecedes =>
          have hrest := ih fun hx z hz => h hx z (List.mem_cons_of_mem y hz)
          cases hx : p x with
          | false =>
              simp only [List.filter_cons, hrest, hx, List.filter_nil, List.nil_append,
                Bool.false_eq_true, if_false]
          | true =>
              have hy : p y = false := Bool.eq_false_iff.mpr fun hy =>
                absurd hprecedes (by simp [h hx y List.mem_cons_self hy])
              simp only [List.filter_cons, hrest, hy, Bool.false_eq_true, if_false]
      · exact List.filter_append [x] (y :: ys)

/-- **Elements of a class in which none precedes another keep their order.** -/
theorem sortBy_filter {p : α → Bool} {xs : List α}
    (h : ∀ x ∈ xs, ∀ y ∈ xs, p x = true → p y = true → precedes x y = false) :
    (sortBy precedes xs).filter p = xs.filter p := by
  have hfold : ∀ rest sorted : List α, (∀ x ∈ rest, x ∈ xs) → (∀ x ∈ sorted, x ∈ xs) →
      (rest.foldl (fun sorted x => insertBackwards precedes x sorted) sorted).filter p =
        (rest.filter p).reverse ++ sorted.filter p := by
    intro rest
    induction rest with
    | nil => exact fun _ _ _ => rfl
    | cons x rest ih =>
        intro sorted hrest hsorted
        obtain ⟨hx, hrest⟩ := List.forall_mem_cons.mp hrest
        have hinserted : ∀ y ∈ insertBackwards precedes x sorted, y ∈ xs := by
          intro y hy
          rcases List.mem_cons.mp ((insertBackwards_perm precedes x sorted).mem_iff.mp hy)
            with rfl | hy
          · exact hx
          · exact hsorted y hy
        rw [List.foldl_cons, ih _ hrest hinserted,
          filter_insertBackwards precedes fun hpx y hy => h x hx y (hsorted y hy) hpx]
        cases hpx : p x <;> simp [hpx]
  have hall := hfold xs [] (fun _ => id) nofun
  rw [List.filter_nil, List.append_nil] at hall
  rw [sortBy, List.filter_reverse, hall, List.reverse_reverse]

/-! ## Elements in order -/

section Order

variable {R : α → α → Prop} {xs : List α}
  (hbefore : ∀ x ∈ xs, ∀ y ∈ xs, precedes x y = true → R x y)
  (hbehind : ∀ x ∈ xs, ∀ y ∈ xs, precedes x y = false → R y x)
  (htrans : ∀ x y z, R x y → R y z → R x z)

include hbefore hbehind htrans

theorem pairwise_insertBackwards {x : α} (hx : x ∈ xs) {sorted : List α}
    (hmem : ∀ y ∈ sorted, y ∈ xs) (h : sorted.Pairwise fun a b => R b a) :
    (insertBackwards precedes x sorted).Pairwise fun a b => R b a := by
  induction sorted with
  | nil => exact List.pairwise_singleton ..
  | cons y ys ih =>
      obtain ⟨hy, hmem⟩ := List.forall_mem_cons.mp hmem
      obtain ⟨hfirst, hrest⟩ := List.pairwise_cons.mp h
      rw [insertBackwards]
      split
      · next hprecedes =>
          refine .cons (fun z hz => ?_) (ih hmem hrest)
          rcases List.mem_cons.mp ((insertBackwards_perm precedes x ys).mem_iff.mp hz) with rfl | hz
          · exact hbefore z hx y hy hprecedes
          · exact hfirst z hz
      · next hstays =>
          have hyx := hbehind x hx y hy (by simpa using hstays)
          refine .cons (fun z hz => ?_) h
          rcases List.mem_cons.mp hz with rfl | hz
          · exact hyx
          · exact htrans z y x (hfirst z hz) hyx

/-- **What is sorted stands in order** as far as the comparison decides on every pair of elements by
a relation that can be chained. -/
theorem sortBy_pairwise : (sortBy precedes xs).Pairwise R := by
  have hfold : ∀ rest sorted : List α, (∀ x ∈ rest, x ∈ xs) → (∀ x ∈ sorted, x ∈ xs) →
      sorted.Pairwise (fun a b => R b a) →
        (rest.foldl (fun sorted x => insertBackwards precedes x sorted) sorted).Pairwise
          fun a b => R b a := by
    intro rest
    induction rest with
    | nil => exact fun _ _ _ h => h
    | cons x rest ih =>
        intro sorted hrest hsorted h
        obtain ⟨hx, hrest⟩ := List.forall_mem_cons.mp hrest
        refine ih _ hrest (fun y hy => ?_)
          (pairwise_insertBackwards precedes hbefore hbehind htrans hx hsorted h)
        rcases List.mem_cons.mp ((insertBackwards_perm precedes x sorted).mem_iff.mp hy)
          with rfl | hy
        · exact hx
        · exact hsorted y hy
  exact List.pairwise_reverse.mpr (hfold xs [] (fun _ => id) nofun .nil)

end Order

end SheetQuery.Sql
