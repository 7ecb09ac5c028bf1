import SheetQuery.Projection
import SheetQuery.Proofs.Filter.Meaning
import SheetQuery.Proofs.Value.Order
import SheetQuery.Sql.Evaluation

/-!
# Filtering and selecting agree

A predicate is evaluated in two ways: as the condition of a statement, on the cells of a row, and as
a selector, on the item made of the row. Neither knows of the other. Where an item answers for its
columns with the cells of its row, the two agree on plain predicates, at any depth: a selector that
is true of the item is a condition that holds of the row, and it never fails there.

Plain predicates leave out what the two see differently by design: inequality with a value, which a
missing cell satisfies only in a selector, tests by pattern, and a negated test on emptiness, which
a condition spells out.

Main statement: `Expr.IsPlain.agrees`.
-/

namespace SheetQuery

open Sql

/-- The name of the column that a reference means. -/
def ColumnRef.columnName : ColumnRef → String
  | .named name => name
  | .positioned index => positionName index

/-- The item answers for every column that can be reached with the cell of the row. -/
def Item.Shows (reaches : ColumnRef → Prop) (columns : List String) (row : List Value)
    (item : Item) : Prop :=
  ∀ c, reaches c → item.column c = .ok (cell columns row c.columnName)

namespace Expr

/-- A column of the main source. -/
def ofColumn (c : ColumnRef) : Expr :=
  .column mainSource c

/-- **Plain predicates** over the columns that can be reached. -/
inductive IsPlain (reaches : ColumnRef → Prop) : Expr → Prop where
  | and {l r : Expr} (hl : IsPlain reaches l) (hr : IsPlain reaches r) :
      IsPlain reaches (.binary .and l r)
  | or {l r : Expr} (hl : IsPlain reaches l) (hr : IsPlain reaches r) :
      IsPlain reaches (.binary .or l r)
  | not {e : Expr} (ht : e.emptinessTarget? = none) (h : IsPlain reaches e) :
      IsPlain reaches (.not e)
  | truth (b : Bool) : IsPlain reaches (.literal (.bool b))
  | columnLiteral {op : Comparison} (hop : op ≠ .ne) {c : ColumnRef} (hc : reaches c) {v : Value}
      (hv : v.isScalar = true) :
      IsPlain reaches (.binary (.compare op) (ofColumn c) (.literal v))
  | literalColumn {op : Comparison} (hop : op ≠ .ne) {c : ColumnRef} (hc : reaches c) {v : Value}
      (hv : v.isScalar = true) :
      IsPlain reaches (.binary (.compare op) (.literal v) (ofColumn c))
  | columnNull (negated : Bool) {c : ColumnRef} (hc : reaches c) :
      IsPlain reaches
        (.binary (.compare (Comparison.nullTest negated)) (ofColumn c) (.literal .null))
  | nullColumn (negated : Bool) {c : ColumnRef} (hc : reaches c) :
      IsPlain reaches
        (.binary (.compare (Comparison.nullTest negated)) (.literal .null) (ofColumn c))
  | isEmpty {c : ColumnRef} (hc : reaches c) :
      IsPlain reaches (.test .isNullOrEmpty (ofColumn c) none)

/-- Filters know every column that can be reached, under a name that is one of the given. -/
structure Resolves (reaches : ColumnRef → Prop) (mapper : Mapper) (shape : ItemShape)
    (columns : List String) : Prop where
  names : ∀ c, reaches c → (ofColumn c).Names mapper shape c.columnName
  listed : ∀ c, reaches c → c.columnName ∈ columns

/-- Plain predicates are selectors. -/
theorem IsPlain.checkSelector {reaches : ColumnRef → Prop} {p : Expr} (h : p.IsPlain reaches) :
    p.checkSelector = .ok () := by
  induction h with
  | and hl hr ihl ihr => simp [Expr.checkSelector, ihl, ihr]
  | or hl hr ihl ihr => simp [Expr.checkSelector, ihl, ihr]
  | not ht h ih => simp [Expr.checkSelector, ih]
  | _ => rfl

/-- The condition is what the predicate asks for, looks at the given columns only, and holds of a
row exactly where the selector is true of an item that shows the row. -/
structure Agrees (reaches : ColumnRef → Prop) (mapper : Mapper) (shape : ItemShape)
    (columns : List String) (p : Expr) (condition : Condition) : Prop where
  asks : p.Asks mapper shape condition
  listed : ∀ name ∈ condition.columns, name ∈ columns
  evaluate : ∀ row item, item.Shows reaches columns row →
    p.evaluate (.main item) = .ok (.bool (condition.holds columns row))

section Agreement

variable {reaches : ColumnRef → Prop} {mapper : Mapper} {shape : ItemShape}
  {columns : List String}

/-! ## Connectives -/

theorem Agrees.and {l r : Expr} {a b : Condition} (ha : l.Agrees reaches mapper shape columns a)
    (hb : r.Agrees reaches mapper shape columns b) :
    (Expr.binary .and l r).Agrees reaches mapper shape columns (.and a b) := by
  refine ⟨.and ha.asks hb.asks, ?_, ?_⟩
  · intro name hn
    exact (List.mem_append.mp hn).elim (ha.listed name) (hb.listed name)
  · intro row item hitem
    simp only [Expr.evaluate, ha.evaluate row item hitem, hb.evaluate row item hitem, ok_bind]
    rfl

theorem Agrees.or {l r : Expr} {a b : Condition} (ha : l.Agrees reaches mapper shape columns a)
    (hb : r.Agrees reaches mapper shape columns b) :
    (Expr.binary .or l r).Agrees reaches mapper shape columns (.or a b) := by
  refine ⟨.or ha.asks hb.asks, ?_, ?_⟩
  · intro name hn
    exact (List.mem_append.mp hn).elim (ha.listed name) (hb.listed name)
  · intro row item hitem
    simp only [Expr.evaluate, ha.evaluate row item hitem, hb.evaluate row item hitem, ok_bind]
    rfl

theorem Agrees.not {e : Expr} {a : Condition} (ht : e.emptinessTarget? = none)
    (ha : e.Agrees reaches mapper shape columns a) :
    (Expr.not e).Agrees reaches mapper shape columns (.not a) := by
  refine ⟨.not ht ha.asks, ha.listed, ?_⟩
  intro row item hitem
  simp only [Expr.evaluate, ha.evaluate row item hitem]
  rfl

theorem Agrees.truth (b : Bool) :
    ∃ condition, (Expr.literal (.bool b)).Agrees reaches mapper shape columns condition := by
  refine ⟨_, .truth b, nofun, ?_⟩
  intro row item hitem
  cases b <;> rfl

/-! ## Columns -/

theorem evaluate_ofColumn {row : List Value} {item : Item} {c : ColumnRef} (hc : reaches c)
    (h : item.Shows reaches columns row) :
    (ofColumn c).evaluate (.main item) = .ok (cell columns row c.columnName) := by
  have hitem : (Bindings.main item).item mainSource = .ok item := rfl
  rw [ofColumn, Expr.evaluate, hitem]
  exact h c hc

/-- What is about one column agrees when it does wherever the column has the value of the cell. -/
theorem Agrees.ofColumn {c : ColumnRef} (hc : reaches c) (hmem : c.columnName ∈ columns)
    {p : Expr} {condition : Condition} (hasks : p.Asks mapper shape condition)
    (honly : ∀ name ∈ condition.columns, name = c.columnName)
    (heval : ∀ row b, (ofColumn c).evaluate b = .ok (cell columns row c.columnName) →
      p.evaluate b = .ok (.bool (condition.holds columns row))) :
    p.Agrees reaches mapper shape columns condition := by
  refine ⟨hasks, ?_, ?_⟩
  · intro name hn
    rw [honly name hn]
    exact hmem
  · intro row item hitem
    exact heval row _ (evaluate_ofColumn hc hitem)

/-! ## Predicates -/

/-- **Agreement.** By induction on the predicate: connectives are the same in both worlds, and each
comparison and test of a column is one fact about comparing two values. -/
theorem IsPlain.agrees {p : Expr} (h : p.IsPlain reaches)
    (hr : Resolves reaches mapper shape columns) :
    ∃ condition, p.Agrees reaches mapper shape columns condition := by
  induction h with
  | and hl hr ihl ihr =>
      obtain ⟨a, ha⟩ := ihl
      obtain ⟨b, hb⟩ := ihr
      exact ⟨.and a b, ha.and hb⟩
  | or hl hr ihl ihr =>
      obtain ⟨a, ha⟩ := ihl
      obtain ⟨b, hb⟩ := ihr
      exact ⟨.or a b, ha.or hb⟩
  | not ht h ih =>
      obtain ⟨a, ha⟩ := ih
      exact ⟨.not a, ha.not ht⟩
  | truth b => exact Agrees.truth b
  | @columnLiteral op hop c hc v hv =>
      have hasks := Asks.columnLiteral op (hr.names c hc) .literal (Value.isNull_of_isScalar hv)
      refine ⟨_, .ofColumn hc (hr.listed c hc) hasks (fun _ => List.mem_singleton.mp) ?_⟩
      intro row b hcell
      simp only [Expr.evaluate, hcell, ok_bind, Value.binary, Value.compares_right hop hv]
      rfl
  | @literalColumn op hop c hc v hv =>
      -- the condition has the column in front, the selector leaves it where it is
      have hasks := Asks.literalColumn op .literal (hr.names c hc) (Value.isNull_of_isScalar hv)
      refine ⟨_, .ofColumn hc (hr.listed c hc) hasks (fun _ => List.mem_singleton.mp) ?_⟩
      intro row b hcell
      simp only [Expr.evaluate, hcell, ok_bind, Value.binary, Value.compares_left hop hv]
      rfl
  | @columnNull negated c hc =>
      have hasks := Asks.columnNull negated (hr.names c hc) .literal
      refine ⟨_, .ofColumn hc (hr.listed c hc) hasks (fun _ => List.mem_singleton.mp) ?_⟩
      intro row b hcell
      simp only [Expr.evaluate, hcell, ok_bind, Value.binary, Value.compares_null_right]
      rfl
  | @nullColumn negated c hc =>
      have hasks := Asks.nullColumn negated .literal (hr.names c hc)
      refine ⟨_, .ofColumn hc (hr.listed c hc) hasks (fun _ => List.mem_singleton.mp) ?_⟩
      intro row b hcell
      simp only [Expr.evaluate, hcell, ok_bind, Value.binary, Value.compares_null_left]
      rfl
  | @isEmpty c hc =>
      refine ⟨_, .ofColumn hc (hr.listed c hc) (.isEmpty none (hr.names c hc)) ?_ ?_⟩
      · intro name hn
        simpa [Condition.columns, Operand.column?] using hn
      · intro row b hcell
        simp only [Expr.evaluate, hcell, ← Value.satisfies_emptyText]
        simp [Condition.holds, Operand.value, Except.map]

end Agreement

end Expr

end SheetQuery
