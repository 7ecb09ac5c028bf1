import SheetQuery.Proofs.Compile.Filtering

/-!
# Filters and their negations

Every predicate that a statement can carry can be carried negated as well. The negation is written
as one and keeps the rows that the predicate leaves out, with one exception: a negated test for a
missing or empty text has a condition of its own, which leaves out nothing but missing cells. So a
row whose text is empty is kept by the test and by its negation.

Main statement: `Filter.exists_complement`.
-/

namespace SheetQuery

open Sql

/-- The predicate tests that column for a missing or empty text, possibly below conversions. -/
def Expr.TestsEmptiness (mapper : Mapper) (shape : ItemShape) (e : Expr) (column : String) : Prop :=
  ∃ target, e.emptinessTarget? = some target ∧ target.Names mapper shape column

namespace Filter

/-! ## The test for emptiness and its negation -/

section Emptiness

variable (columns : List String) (row : List Value) (column : String)

/-- The test holds of the cells that pass it, which are the missing ones and the empty texts. -/
theorem holds_isEmpty : (isEmpty column).condition.holds columns row =
    (cell columns row column).passes .isNullOrEmpty .null := by
  rw [← Value.satisfies_emptyText]
  exact congrArg _ (Bool.bne_false _)

/-- The negated test holds of every cell that is there: it asks for a text other than the empty one
or for any value, and the second takes in the first. -/
theorem holds_isNotEmpty : (isNotEmpty column).condition.holds columns row =
    !(cell columns row column).isNull := by
  show (Value.satisfies .ne (cell columns row column) (.text "") ||
    ((cell columns row column).isNull != true)) = _
  cases cell columns row column with
  | null => rfl
  | _ => exact Bool.or_true _

theorem holds_isEmpty_or_isNotEmpty : ((isEmpty column).condition.holds columns row ||
    (isNotEmpty column).condition.holds columns row) = true := by
  rw [holds_isEmpty, holds_isNotEmpty]
  cases cell columns row column with
  | null => rfl
  | _ => exact Bool.or_true _

theorem holds_isEmpty_and_isNotEmpty : ((isEmpty column).condition.holds columns row &&
    (isNotEmpty column).condition.holds columns row) = true ↔
      cell columns row column = .text "" := by
  rw [holds_isEmpty, holds_isNotEmpty]
  cases cell columns row column with
  | text s =>
      show (s.isEmpty && true) = true ↔ _
      rw [Bool.and_true, String.isEmpty_iff, Value.text.injEq]
  | _ => exact ⟨nofun, nofun⟩

end Emptiness

/-! ## Negated predicates -/

variable {mapper : Mapper} {shape : ItemShape} {e : Expr} {f : Filter}

/-- Conversions around a predicate change nothing. -/
theorem ofExpr_unwrapped (mapper : Mapper) (shape : ItemShape) (e : Expr) :
    ofExpr mapper shape e.unwrapped = ofExpr mapper shape e := by
  fun_induction Expr.unwrapped e with
  | case1 kind e ih => rw [ih, ofExpr]
  | case2 e h => rfl

/-- A test for emptiness that has a filter has the one of a column. -/
theorem eq_isEmpty_of_ofExpr {target : Expr} (ht : e.emptinessTarget? = some target)
    (h : ofExpr mapper shape e = .ok f) :
    ∃ column, target.Names mapper shape column ∧ f = .isEmpty column := by
  obtain ⟨argument, ha⟩ := emptinessTarget?_eq_some_iff.mp ht
  rw [← ofExpr_unwrapped, ha, ofExpr, ofTest] at h
  split at h
  · obtain ⟨column, hcolumn, h⟩ := bind_eq_ok_iff.mp h
    cases h
    exact ⟨column, Expr.names_of_resolveColumn hcolumn, rfl⟩
  · cases h

/-- **What a negated predicate becomes**: a negation, or for a test for emptiness a test of its own.
-/
theorem ofExpr_not_cases (h : ofExpr mapper shape e = .ok f) :
    e.emptinessTarget? = none ∧ ofExpr mapper shape (.not e) = .ok (.not f) ∨
      ∃ column, e.TestsEmptiness mapper shape column ∧ f = .isEmpty column ∧
        ofExpr mapper shape (.not e) = .ok (.isNotEmpty column) := by
  cases ht : e.emptinessTarget? with
  | none =>
      refine Or.inl ⟨rfl, ?_⟩
      rw [ofExpr_not ht, h]
      rfl
  | some target =>
      obtain ⟨column, hnames, rfl⟩ := eq_isEmpty_of_ofExpr ht h
      obtain ⟨argument, ha⟩ := emptinessTarget?_eq_some_iff.mp ht
      refine Or.inr ⟨column, ⟨target, ht, hnames⟩, rfl, ?_⟩
      simp only [ofExpr, ha, Expr.resolveColumn_of_names hnames]
      rfl

/-- **The filter of a negated predicate.** There always is one, over the same columns. Each row is
kept by the predicate or by its negation, and by both where a test for emptiness meets an empty
text, and nowhere else. -/
theorem exists_complement (h : ofExpr mapper shape e = .ok f) :
    ∃ g, ofExpr mapper shape (.not e) = .ok g ∧ g.columns = f.columns ∧ ∀ columns row,
      (f.condition.holds columns row || g.condition.holds columns row) = true ∧
      ((f.condition.holds columns row && g.condition.holds columns row) = true ↔
        ∃ column, e.TestsEmptiness mapper shape column ∧ cell columns row column = .text "") := by
  rcases ofExpr_not_cases h with ⟨hnone, hg⟩ | ⟨column, htests, rfl, hg⟩
  · refine ⟨f.not, hg, rfl, fun columns row => ⟨Bool.or_not_self _, ?_⟩⟩
    show (f.condition.holds columns row && !f.condition.holds columns row) = true ↔ _
    rw [Bool.and_not_self]
    refine ⟨nofun, ?_⟩
    rintro ⟨column, ⟨target, ht, -⟩, -⟩
    rw [hnone] at ht
    cases ht
  · refine ⟨.isNotEmpty column, hg, rfl, fun columns row => ⟨?_, ?_⟩⟩
    · exact holds_isEmpty_or_isNotEmpty columns row column
    · rw [holds_isEmpty_and_isNotEmpty]
      constructor
      · exact fun hcell => ⟨column, htests, hcell⟩
      · rintro ⟨other, ⟨target, ht, hother⟩, hcell⟩
        -- the predicate tests one column only
        obtain ⟨target', ht', hcolumn⟩ := htests
        obtain rfl := Option.some.inj (ht'.symm.trans ht)
        rwa [hcolumn.unique hother]

end Filter

end SheetQuery
