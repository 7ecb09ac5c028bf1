import SheetQuery.Proofs.Value.Ranking

/-!
# The ends of an order

The least and the greatest value are picked in one pass that keeps the best value so far. Where the
values rank among each other, there is one value that may stand before all of them, so that what is
picked does not depend on the order of the pass: it is the first value of any list of the same
values that is in order, or the last one.

Main statement: `of_extremum`.
-/

namespace SheetQuery

open Sql

namespace Direction

/-- The aggregate that gives the value that comes first in the direction. -/
def extremum : Direction → Aggregate
  | ascending => .min
  | descending => .max

/-- The outcome of a comparison with the best value so far that makes another the best one. -/
def wanted : Direction → Ordering
  | ascending => .lt
  | descending => .gt

/-- The end of an ascending list at which the first value of the direction stands. -/
def end? : Direction → List Value → Option Value
  | ascending => List.head?
  | descending => List.getLast?

variable {direction : Direction} {kind : Kind} {a b : Value}

/-- Values that are there are compared as cells are. -/
theorem compare_eq_wanted_iff (ha : a.isNull = false) (hb : b.isNull = false) :
    (Value.compare a b == some direction.wanted) = (compareDirected direction a b == .lt) := by
  have hcells : compareCells a b = (Value.compare a b).getD .eq := by
    rw [compareCells, ha, hb]
  cases direction with
  | ascending =>
      rw [compareDirected, hcells]
      rcases Value.compare a b with _ | _ | _ | _ <;> rfl
  | descending =>
      rw [compareDirected, hcells]
      rcases Value.compare a b with _ | _ | _ | _ <;> rfl

/-- The value is one of the values and may stand before all of them. -/
structure IsFirst (direction : Direction) (v : Value) (values : List Value) : Prop where
  mem : v ∈ values
  inOrder : ∀ w ∈ values, direction.InOrder v w

theorem InOrder.antisymm (h : direction.InOrder a b) (h' : direction.InOrder b a) : a = b := by
  cases direction with
  | ascending => exact Value.AtMost.antisymm h h'
  | descending => exact Value.AtMost.antisymm h' h

theorem IsFirst.unique {values : List Value} (h : direction.IsFirst a values)
    (h' : direction.IsFirst b values) : a = b :=
  (h.inOrder b h'.mem).antisymm (h'.inOrder a h.mem)

theorem IsFirst.of_perm {values values' : List Value} (h : direction.IsFirst a values)
    (hperm : values.Perm values') : direction.IsFirst a values' :=
  ⟨hperm.mem_iff.mp h.mem, fun w hw => h.inOrder w (hperm.mem_iff.mpr hw)⟩

/-- The value at the end of an ascending list is the first one of the direction. -/
theorem isFirst_of_end? {values : List Value} (hrefl : ∀ v ∈ values, Value.AtMost v v)
    (hsorted : values.Pairwise Value.AtMost) (h : direction.end? values = some a) :
    direction.IsFirst a values := by
  cases direction with
  | ascending =>
      obtain ⟨rest, rfl⟩ := List.head?_eq_some_iff.mp h
      refine ⟨List.mem_cons_self, fun w hw => ?_⟩
      rcases List.mem_cons.mp hw with rfl | hw
      · exact hrefl w List.mem_cons_self
      · exact (List.pairwise_cons.mp hsorted).1 w hw
  | descending =>
      obtain ⟨rest, rfl⟩ := List.getLast?_eq_some_iff.mp h
      refine ⟨List.mem_append_right _ List.mem_cons_self, fun w hw => ?_⟩
      rcases List.mem_append.mp hw with hw | hw
      · exact (List.pairwise_append.mp hsorted).2.2 w hw a List.mem_cons_self
      · obtain rfl := List.mem_singleton.mp hw
        exact hrefl w (List.mem_append_right _ List.mem_cons_self)

end Direction

open Value Direction

variable {direction : Direction} {kind : Kind} {values : List Value}

theorem Value.AtMost.refl_of_isRanked {v : Value} (hkind : kind.isRanked = true)
    (hv : IsOfKindOrNull kind v) : AtMost v v := by
  have hself := not_compareDirected_self .ascending v
  exact (inOrder_of_compareDirected hkind hv hv).2 hself

/-- **One pass finds the first value.** By induction on the values still to come: the best one so
far may stand before all that have been seen. -/
theorem Sql.extreme_isFirst (hkind : kind.isRanked = true) {best : Value}
    (h : ∀ v ∈ best :: values, IsOfKindOrNull kind v ∧ v.isNull = false) :
    direction.IsFirst (extreme direction.wanted best values) (best :: values) := by
  induction values generalizing best with
  | nil =>
      obtain ⟨hbest, -⟩ := h best List.mem_cons_self
      refine ⟨List.mem_cons_self, fun w hw => ?_⟩
      obtain rfl := List.mem_singleton.mp hw
      have hself := AtMost.refl_of_isRanked hkind hbest
      cases direction <;> exact hself
  | cons v rest ih =>
      obtain ⟨⟨hbest, hthere⟩, hmore⟩ := List.forall_mem_cons.mp h
      obtain ⟨⟨hv, hvthere⟩, hrest⟩ := List.forall_mem_cons.mp hmore
      have hstep : ((compareDirected direction v best == .lt) = true → direction.InOrder v best) ∧
          ((compareDirected direction v best == .lt) = false → direction.InOrder best v) :=
        inOrder_of_compareDirected hkind hv hbest
      rw [← compare_eq_wanted_iff hvthere hthere] at hstep
      rw [extreme]
      split
      · next hbetter =>
          have hfirst := ih (List.forall_mem_cons.mpr ⟨⟨hv, hvthere⟩, hrest⟩)
          refine ⟨List.mem_cons_of_mem _ hfirst.mem, List.forall_mem_cons.mpr ⟨?_, hfirst.inOrder⟩⟩
          exact (hfirst.inOrder v List.mem_cons_self).trans (hstep.1 hbetter)
      · next hkept =>
          have hfirst := ih (List.forall_mem_cons.mpr ⟨⟨hbest, hthere⟩, hrest⟩)
          have hbefore := hfirst.inOrder best List.mem_cons_self
          refine ⟨?_, List.forall_mem_cons.mpr ⟨hbefore, List.forall_mem_cons.mpr ⟨?_, ?_⟩⟩⟩
          · rcases List.mem_cons.mp hfirst.mem with hmem | hmem
            · rw [hmem]
              exact List.mem_cons_self
            · exact List.mem_cons_of_mem _ (List.mem_cons_of_mem _ hmem)
          · exact hbefore.trans (hstep.2 (by simpa using hkept))
          · exact fun w hw => hfirst.inOrder w (List.mem_cons_of_mem _ hw)

/-- **The extremum of values stands at the end of any list of them that is in order**, and is
missing where there are none. -/
theorem Sql.Aggregate.of_extremum (hkind : kind.isRanked = true)
    (h : ∀ v ∈ values, IsOfKindOrNull kind v ∧ v.isNull = false) {sorted : List Value}
    (hperm : sorted.Perm values) (hsorted : sorted.Pairwise AtMost) (direction : Direction) :
    direction.extremum.of values = .ok ((direction.end? sorted).getD .null) := by
  cases values with
  | nil =>
      obtain rfl := hperm.eq_nil
      cases direction <;> rfl
  | cons best rest =>
      have hpicked : direction.extremum.of (best :: rest) =
          .ok (extreme direction.wanted best rest) := by
        cases direction <;> rfl
      obtain ⟨v, hv⟩ : ∃ v, direction.end? sorted = some v := by
        have hne : sorted ≠ [] := fun hnil => by
          rw [hnil] at hperm
          cases hperm.symm.eq_nil
        cases direction with
        | ascending => exact ⟨_, List.head?_eq_some_head hne⟩
        | descending => exact ⟨_, List.getLast?_eq_some_getLast hne⟩
      have hrefl : ∀ w ∈ sorted, AtMost w w := fun w hw =>
        AtMost.refl_of_isRanked hkind (h w (hperm.mem_iff.mp hw)).1
      have hfirst := (isFirst_of_end? hrefl hsorted hv).of_perm hperm
      rw [hpicked, hv, (extreme_isFirst hkind h).unique hfirst]
      rfl

end SheetQuery
