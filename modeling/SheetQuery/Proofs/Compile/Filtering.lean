import SheetQuery.Proofs.Compile.Intent
import SheetQuery.Proofs.Filter.Agreement
import SheetQuery.Proofs.Sql.Reading

/-!
# Clauses of filters

The predicates of a query become one condition. For plain predicates there always is one; it looks
at the columns of the table only, and it keeps a row exactly when every predicate, taken as a
selector, is true of an item that shows the row.

Main statement: `compile_filters`.
-/

namespace SheetQuery

open Sql

/-! ## Predicates as selectors -/

/-- The predicate, compiled as a selector, is true of the item. -/
def Expr.isTrueOf (p : Expr) (item : Item) : Bool :=
  match (Projector.ofExpr p).bind (·.applyTo item) with
  | .ok v => v.isTruthy
  | .error _ => false

/-- Every predicate is true of the item. -/
def Item.passes (item : Item) (predicates : List Expr) : Bool :=
  predicates.all (·.isTrueOf item)

theorem Projector.ofExpr_eq {p : Expr} (h : p.checkSelector = .ok ()) :
    Projector.ofExpr p = .ok ⟨p, h⟩ := by
  unfold Projector.ofExpr
  split
  · rfl
  · next fault hfault =>
      rw [h] at hfault
      cases hfault

namespace Expr

variable {reaches : ColumnRef → Prop} {mapper : Mapper} {shape : ItemShape}
  {columns : List String}

theorem isTrueOf_of_evaluate {p : Expr} {item : Item} {b : Bool} (hs : p.checkSelector = .ok ())
    (h : p.evaluate (.main item) = .ok (.bool b)) : p.isTrueOf item = b := by
  have happly : (⟨p, hs⟩ : Projector).applyTo item = .ok (.bool b) := h
  rw [isTrueOf, Projector.ofExpr_eq hs]
  show (match (⟨p, hs⟩ : Projector).applyTo item with
    | .ok v => v.isTruthy
    | .error _ => false) = b
  rw [happly]
  rfl

/-- On an item that shows a row, a plain predicate is a truth value. -/
theorem IsPlain.evaluate {p : Expr} (h : p.IsPlain reaches)
    (hr : Resolves reaches mapper shape columns) {row : List Value} {item : Item}
    (hitem : item.Shows reaches columns row) :
    p.evaluate (.main item) = .ok (.bool (p.isTrueOf item)) := by
  obtain ⟨condition, hagrees⟩ := h.agrees hr
  have heval := hagrees.evaluate row item hitem
  rw [isTrueOf_of_evaluate h.checkSelector heval, heval]

theorem IsPlain.foldl_and {first : Expr} {rest : List Expr} (hfirst : first.IsPlain reaches)
    (hrest : ∀ p ∈ rest, p.IsPlain reaches) : (rest.foldl Expr.and first).IsPlain reaches := by
  induction rest generalizing first with
  | nil => exact hfirst
  | cons second rest ih =>
      obtain ⟨hsecond, hrest⟩ := List.forall_mem_cons.mp hrest
      exact ih (.and hfirst hsecond) hrest

/-- A conjunction is true where all its members are. -/
theorem evaluate_foldl_and {b : Bindings} {truth : Expr → Bool} {x : Bool} {first : Expr}
    {rest : List Expr} (hfirst : first.evaluate b = .ok (.bool x))
    (hrest : ∀ p ∈ rest, p.evaluate b = .ok (.bool (truth p))) :
    (rest.foldl Expr.and first).evaluate b = .ok (.bool (x && rest.all truth)) := by
  induction rest generalizing first x with
  | nil => rw [List.foldl_nil, hfirst, List.all_nil, Bool.and_true]
  | cons second rest ih =>
      obtain ⟨hsecond, hrest⟩ := List.forall_mem_cons.mp hrest
      have hboth : (first.and second).evaluate b = .ok (.bool (x && truth second)) := by
        rw [Expr.and, Expr.evaluate, hfirst, hsecond]
        rfl
      rw [List.foldl_cons, ih hboth hrest, List.all_cons, Bool.and_assoc]

end Expr

/-! ## One condition -/

/-- A condition names the columns that its filter does. -/
theorem Filter.mem_columns_condition {f : Filter} {name : String} :
    name ∈ f.condition.columns ↔ name ∈ f.columns := by
  induction f with
  | and l r ihl ihr =>
      show name ∈ l.condition.columns ++ r.condition.columns ↔ name ∈ l.columns ++ r.columns
      rw [List.mem_append, List.mem_append, ihl, ihr]
  | or l r ihl ihr =>
      show name ∈ l.condition.columns ++ r.condition.columns ↔ name ∈ l.columns ++ r.columns
      rw [List.mem_append, List.mem_append, ihl, ihr]
  | not inner ih => exact ih
  | compare column op operand =>
      cases operand with
      | parameter v => exact Iff.rfl
      | column other => exact Iff.rfl
  | isNull column negated => exact Iff.rfl
  | like column pattern => exact Iff.rfl
  | isEmpty column =>
      -- both halves of the test name the column
      show name ∈ [column] ++ [column] ↔ name ∈ [column]
      rw [List.mem_append, or_self]
  | isNotEmpty column =>
      show name ∈ [column] ++ [column] ↔ name ∈ [column]
      rw [List.mem_append, or_self]
  | constant b => exact Iff.rfl

/-- What holds of the columns of a filter holds of those of the condition. -/
theorem Clauses.forall_condition? {c : Clauses} {P : String → Prop}
    (h : ∀ filter, c.filter = some filter → ∀ name ∈ filter.columns, P name) :
    ∀ name ∈ (c.condition?.map Condition.columns).getD [], P name := by
  intro name hname
  unfold condition? at hname
  cases hfilter : c.filter with
  | none =>
      rw [hfilter] at hname
      cases hname
  | some filter =>
      rw [hfilter] at hname
      exact h filter hfilter name (Filter.mem_columns_condition.mp hname)

/-- The clauses keep the row. -/
def Clauses.keeps (c : Clauses) (columns : List String) (row : List Value) : Bool :=
  match c.condition? with
  | some condition => condition.holds columns row
  | none => true

/-- **Clauses that filter whole rows** of a table with these columns by predicates. -/
structure Clauses.Filters (c : Clauses) (reaches : ColumnRef → Prop) (columns : List String)
    (predicates : List Expr) : Prop where
  selection : c.selection = .all
  orderBy : c.orderBy = none
  used : ∀ name ∈ c.columnsUsed, name ∈ columns
  listed : ∀ condition, c.condition? = some condition → ∀ name ∈ condition.columns, name ∈ columns
  keeps : ∀ (row : List Value) (item : Item), item.Shows reaches columns row →
    c.keeps columns row = item.passes predicates

theorem Clauses.filterRows_eq (c : Clauses) (t : ResultSet) :
    filterRows t c.condition? = t.rows.filter (c.keeps t.columns ·) := by
  unfold filterRows keeps
  cases c.condition? with
  | none => exact (List.filter_eq_self.mpr fun _ _ => rfl).symm
  | some condition => rfl

/-- Clauses that filter by columns with names fit to be written can be written. -/
theorem Clauses.Filters.isWritable {c : Clauses} {reaches : ColumnRef → Prop}
    {columns : List String} {predicates : List Expr} (h : c.Filters reaches columns predicates)
    (hcovered : c.IsCovered) (hbracketable : ∀ column ∈ columns, IsBracketable column) :
    c.IsWritable := by
  refine ⟨?_, ?_, ?_⟩
  · rw [h.selection]
    trivial
  · exact fun filter hf column hcolumn =>
      hbracketable column (h.used column (hcovered.filter filter hf column hcolumn))
  · intro column direction ho
    rw [h.orderBy] at ho
    cases ho

/-- The query for all items of a shape that pass the predicates. -/
def Model.filtered (shape : ItemShape) (predicates : List Expr) : Model :=
  { Model.all shape with body := predicates.map .filter }

theorem Model.predicates_filtered (shape : ItemShape) (predicates : List Expr) :
    (Model.filtered shape predicates).predicates = predicates := by
  simp only [Model.predicates, filtered, List.filterMap_map]
  exact List.filterMap_some

/-- Nothing but the condition is compiled. -/
theorem compile_filtered {mapper : Mapper} {shape : ItemShape} {predicates : List Expr}
    {c : Clauses} (h : Clauses.all.withPredicates mapper (Model.filtered shape predicates) = .ok c) :
    compile mapper (Model.filtered shape predicates) = .ok c := by
  refine compile_eq_ok_iff.mpr ⟨?_, c, h, c, ?_, rfl⟩
  · rw [rejectJoins_ok_iff]
    intro clause hclause hjoin
    obtain ⟨p, -, rfl⟩ := List.mem_map.mp hclause
    cases hjoin
  · have hkey : (Model.filtered shape predicates).leadingKey? = none := by
      simp [Model.leadingKey?, Model.filtered, List.findSome?_eq_none_iff]
    rw [Clauses.withOrdering, hkey]

theorem Clauses.withPredicates_cons {c : Clauses} {mapper : Mapper} {m : Model} {first : Expr}
    {rest : List Expr} {filter : Filter} (hp : m.predicates = first :: rest)
    (hf : Filter.ofExpr mapper m.shape (rest.foldl Expr.and first) = .ok filter) :
    c.withPredicates mapper m = .ok { c with
      filter := some filter, columnsUsed := filter.columns.foldl useColumn c.columnsUsed } := by
  unfold withPredicates
  rw [hp]
  exact bind_eq_ok_iff.mpr ⟨filter, hf, rfl⟩

/-- **Plain predicates compile to a filter that agrees with them.** -/
theorem compile_filters {reaches : ColumnRef → Prop} {mapper : Mapper} {shape : ItemShape}
    {columns : List String} (hr : Expr.Resolves reaches mapper shape columns) {predicates : List Expr}
    (hplain : ∀ p ∈ predicates, p.IsPlain reaches) :
    ∃ c, compile mapper (Model.filtered shape predicates) = .ok c ∧
      c.Filters reaches columns predicates := by
  cases predicates with
  | nil => exact ⟨Clauses.all, rfl, rfl, rfl, nofun, nofun, fun _ _ _ => rfl⟩
  | cons first rest =>
      obtain ⟨hfirst, hrest⟩ := List.forall_mem_cons.mp hplain
      -- a conjunction of plain predicates is plain, so it agrees as one predicate
      obtain ⟨condition, hagrees⟩ := (hfirst.foldl_and hrest).agrees hr
      obtain ⟨filter, hfilter, hcondition⟩ := Filter.ofExpr_of_asks hagrees.asks
      have hlisted : ∀ name ∈ filter.columns, name ∈ columns := fun name hn =>
        hagrees.listed name (hcondition ▸ Filter.mem_columns_condition.mpr hn)
      have hcompile := compile_filtered
        (Clauses.withPredicates_cons (Model.predicates_filtered shape (first :: rest)) hfilter)
      refine ⟨_, hcompile, rfl, rfl, ?_, ?_, ?_⟩
      · intro name hn
        rcases mem_foldl_useColumn.mp hn with hn | hn
        · cases hn
        · exact hlisted name hn
      · intro other hother
        obtain rfl : filter.condition = other := Option.some.inj hother
        rw [hcondition]
        exact hagrees.listed
      · intro row item hitem
        have hall := Expr.evaluate_foldl_and (hfirst.evaluate hr hitem)
          fun p hp => (hrest p hp).evaluate hr hitem
        rw [hagrees.evaluate row item hitem, ← hcondition] at hall
        exact Value.bool.inj (Except.ok.inj hall)

end SheetQuery
