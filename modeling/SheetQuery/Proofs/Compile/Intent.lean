import Mathlib.Data.List.Forall2
import SheetQuery.Proofs.Compile.Acceptance

/-!
# What the clauses of a query say

Clauses that compile say what the query asks for: every predicate, joined in the order they were
given; the leading sort key; and the selection of the last operator that sets one. Each step of
compiling touches its own part and leaves the others alone, and every column it brings in joins the
used ones.

Main statements: `asks_of_compile` and `isCovered_of_compile`.
-/

namespace SheetQuery

open Sql

/-! ## Selections -/

/-- The column that the selector is, if it is one. -/
def Model.SelectsColumn (mapper : Mapper) (m : Model) (column : String) : Prop :=
  ∃ selector, m.selector = some selector ∧ selector.Names mapper m.shape column

/-- The selection that an operator sets. -/
inductive Operator.Selects (mapper : Mapper) (m : Model) : Operator → Selection → Prop where
  | take (n : Nat) : Selects mapper m (.take n) (.top n)
  | first : Selects mapper m .first (.top 1)
  | count : Selects mapper m .count .count
  | longCount : Selects mapper m .longCount .count
  | sum {column : String} (h : m.SelectsColumn mapper column) :
      Selects mapper m .sum (.aggregate .sum column)
  | min {column : String} (h : m.SelectsColumn mapper column) :
      Selects mapper m .min (.aggregate .min column)
  | max {column : String} (h : m.SelectsColumn mapper column) :
      Selects mapper m .max (.aggregate .max column)
  | average {column : String} (h : m.SelectsColumn mapper column) :
      Selects mapper m .average (.aggregate .average column)
  | distinct {column : String} (h : m.SelectsColumn mapper column) :
      Selects mapper m .distinct (.distinct column)

/-- The operator is left to the items that come back. -/
inductive Operator.IsLocal : Operator → Prop where
  | skip (n : Nat) : IsLocal (.skip n)
  | last : IsLocal .last
  | reverse : IsLocal .reverse

/-- What the last operator that sets a selection sets, or what there was where none does. -/
inductive LastSelects (mapper : Mapper) (m : Model) (start : Selection)
    (operators : List Operator) : Selection → Prop where
  | kept (h : ∀ operator ∈ operators, operator.IsLocal) :
      LastSelects mapper m start operators start
  | set {before after : List Operator} {operator : Operator} {selection : Selection}
      (h : operators = before ++ operator :: after) (hs : operator.Selects mapper m selection)
      (ha : ∀ operator ∈ after, operator.IsLocal) :
      LastSelects mapper m start operators selection

theorem LastSelects.cons_local {mapper : Mapper} {m : Model} {start selection : Selection}
    {operator : Operator} {rest : List Operator} (h : LastSelects mapper m start rest selection)
    (ho : operator.IsLocal) : LastSelects mapper m start (operator :: rest) selection := by
  cases h with
  | kept hk => exact .kept (List.forall_mem_cons.mpr ⟨ho, hk⟩)
  | set heq hs ha => exact .set (by rw [heq, List.cons_append]) hs ha

theorem LastSelects.cons_set {mapper : Mapper} {m : Model} {start start' selection : Selection}
    {operator : Operator} {rest : List Operator} (h : LastSelects mapper m start rest selection)
    (ho : operator.Selects mapper m start) :
    LastSelects mapper m start' (operator :: rest) selection := by
  cases h with
  | kept hk => exact .set (List.nil_append _).symm ho hk
  | set heq hs ha => exact .set (by rw [heq, List.cons_append]) hs ha

/-- The column that a selection is over. -/
def Sql.Selection.column? : Selection → Option String
  | .distinct column | .aggregate _ column => some column
  | .all | .top _ | .count => none

/-! ## Predicates -/

/-- Conditions joined from the left, the earliest innermost. -/
def Sql.Condition.joined : List Condition → Option Condition
  | [] => none
  | first :: rest => some (rest.foldl .and first)

/-- **The intent of a query**, in the terms of a statement. -/
structure Model.Asks (mapper : Mapper) (m : Model) (selection : Selection)
    (condition : Option Condition) (orderBy : Option (String × Direction)) : Prop where
  selection : LastSelects mapper m .all m.operators selection
  condition : ∃ conditions, List.Forall₂ (Expr.Asks mapper m.shape) m.predicates conditions ∧
    condition = Condition.joined conditions
  orderBy : ∀ column direction, orderBy = some (column, direction) ↔
    ∃ key, m.Leads key ∧ key.key.Names mapper m.shape column ∧ key.direction = direction

/-! ## Used columns -/

theorem mem_useColumn {used : List String} {column name : String} :
    name ∈ useColumn used column ↔ name ∈ used ∨ name = column := by
  unfold useColumn
  split
  · next h =>
      rw [List.contains_iff_mem] at h
      constructor
      · exact Or.inl
      · rintro (h | rfl)
        · exact h
        · assumption
  · simp

theorem mem_foldl_useColumn {names used : List String} {name : String} :
    name ∈ names.foldl useColumn used ↔ name ∈ used ∨ name ∈ names := by
  induction names generalizing used with
  | nil => simp
  | cons column names ih =>
      rw [List.foldl_cons, ih, mem_useColumn, List.mem_cons, or_assoc]

/-- Every column that the clauses name is among the used ones. -/
structure Clauses.IsCovered (c : Clauses) : Prop where
  filter : ∀ filter, c.filter = some filter → ∀ name ∈ filter.columns, name ∈ c.columnsUsed
  orderBy : ∀ column direction, c.orderBy = some (column, direction) → column ∈ c.columnsUsed
  selection : ∀ column, c.selection.column? = some column → column ∈ c.columnsUsed

/-! ## One step of compiling -/

namespace Clauses

variable {mapper : Mapper} {m : Model} {c c' : Clauses}

theorem withPredicates_cases (h : c.withPredicates mapper m = .ok c') :
    m.predicates = [] ∧ c' = c ∨
      ∃ first rest filter, m.predicates = first :: rest ∧
        Filter.ofExpr mapper m.shape (rest.foldl Expr.and first) = .ok filter ∧
        c' = { c with filter := some filter,
                      columnsUsed := filter.columns.foldl useColumn c.columnsUsed } := by
  unfold withPredicates at h
  cases hp : m.predicates with
  | nil =>
      simp only [hp, conjunction?] at h
      cases h
      exact Or.inl ⟨rfl, rfl⟩
  | cons first rest =>
      simp only [hp, conjunction?] at h
      obtain ⟨filter, hf, h⟩ := bind_eq_ok_iff.mp h
      cases h
      exact Or.inr ⟨first, rest, filter, rfl, hf, rfl⟩

theorem withOrdering_cases (h : c.withOrdering mapper m = .ok c') :
    m.leadingKey? = none ∧ c' = c ∨
      ∃ key column, m.leadingKey? = some key ∧ key.key.Names mapper m.shape column ∧
        c' = { c with orderBy := some (column, key.direction),
                      columnsUsed := useColumn c.columnsUsed column } := by
  unfold withOrdering at h
  cases hk : m.leadingKey? with
  | none =>
      simp only [hk] at h
      cases h
      exact Or.inl ⟨rfl, rfl⟩
  | some key =>
      simp only [hk] at h
      obtain ⟨column, hc, h⟩ := bind_eq_ok_iff.mp h
      cases h
      exact Or.inr ⟨key, column, rfl, Expr.names_of_resolveColumn hc, rfl⟩

/-- The clauses with that selection in place of theirs. -/
def selecting (c : Clauses) (selection : Selection) : Clauses :=
  { c with selection := selection,
           columnsUsed := selection.column?.toList.foldl useColumn c.columnsUsed }

theorem overColumn_cases {method : String} {select : String → Selection}
    (h : c.overColumn mapper m method select = .ok c')
    (hs : ∀ column, (select column).column? = some column) :
    ∃ column, m.SelectsColumn mapper column ∧ c' = c.selecting (select column) := by
  unfold overColumn at h
  cases hm : m.selector with
  | none =>
      simp only [hm] at h
      cases h
  | some selector =>
      simp only [hm] at h
      split at h
      · obtain ⟨column, hc, h⟩ := bind_eq_ok_iff.mp h
        cases h
        refine ⟨column, ⟨selector, hm, Expr.names_of_resolveColumn hc⟩, ?_⟩
        simp [selecting, hs]
      · cases h

/-- **Everything an operator can do to the clauses**: nothing, or set the selection. -/
theorem withOperator_cases {operator : Operator}
    (h : withOperator mapper m c operator = .ok c') :
    operator.IsLocal ∧ c' = c ∨
      ∃ selection, operator.Selects mapper m selection ∧ c' = c.selecting selection := by
  cases operator with
  | skip n =>
      cases h
      exact Or.inl ⟨.skip n, rfl⟩
  | last =>
      cases h
      exact Or.inl ⟨.last, rfl⟩
  | reverse =>
      cases h
      exact Or.inl ⟨.reverse, rfl⟩
  | take n =>
      cases h
      exact Or.inr ⟨_, .take n, rfl⟩
  | first =>
      cases h
      exact Or.inr ⟨_, .first, rfl⟩
  | count =>
      cases h
      exact Or.inr ⟨_, .count, rfl⟩
  | longCount =>
      cases h
      exact Or.inr ⟨_, .longCount, rfl⟩
  | sum =>
      obtain ⟨column, hc, rfl⟩ := overColumn_cases h fun _ => rfl
      exact Or.inr ⟨_, .sum hc, rfl⟩
  | min =>
      obtain ⟨column, hc, rfl⟩ := overColumn_cases h fun _ => rfl
      exact Or.inr ⟨_, .min hc, rfl⟩
  | max =>
      obtain ⟨column, hc, rfl⟩ := overColumn_cases h fun _ => rfl
      exact Or.inr ⟨_, .max hc, rfl⟩
  | average =>
      obtain ⟨column, hc, rfl⟩ := overColumn_cases h fun _ => rfl
      exact Or.inr ⟨_, .average hc, rfl⟩
  | distinct =>
      rw [withOperator] at h
      split at h
      · obtain ⟨column, hc, rfl⟩ := overColumn_cases h fun _ => rfl
        exact Or.inr ⟨_, .distinct hc, rfl⟩
      · cases h
  | _ => cases h

/-! ## All steps -/

theorem IsCovered.all : Clauses.all.IsCovered :=
  ⟨nofun, nofun, nofun⟩

theorem IsCovered.withPredicates (hc : c.IsCovered) (h : c.withPredicates mapper m = .ok c') :
    c'.IsCovered := by
  rcases withPredicates_cases h with ⟨-, rfl⟩ | ⟨first, rest, filter, -, -, rfl⟩
  · exact hc
  · refine ⟨?_, ?_, ?_⟩
    · intro f hf name hn
      cases hf
      exact mem_foldl_useColumn.mpr (Or.inr hn)
    · exact fun column direction ho => mem_foldl_useColumn.mpr (Or.inl (hc.orderBy _ _ ho))
    · exact fun column hs => mem_foldl_useColumn.mpr (Or.inl (hc.selection _ hs))

theorem IsCovered.withOrdering (hc : c.IsCovered) (h : c.withOrdering mapper m = .ok c') :
    c'.IsCovered := by
  rcases withOrdering_cases h with ⟨-, rfl⟩ | ⟨key, column, -, -, rfl⟩
  · exact hc
  · refine ⟨?_, ?_, ?_⟩
    · exact fun f hf name hn => mem_useColumn.mpr (Or.inl (hc.filter f hf name hn))
    · intro column direction ho
      cases ho
      exact mem_useColumn.mpr (Or.inr rfl)
    · exact fun column hs => mem_useColumn.mpr (Or.inl (hc.selection _ hs))

theorem IsCovered.selecting (hc : c.IsCovered) (selection : Selection) :
    (c.selecting selection).IsCovered := by
  refine ⟨?_, ?_, ?_⟩
  · exact fun f hf name hn => mem_foldl_useColumn.mpr (Or.inl (hc.filter f hf name hn))
  · exact fun column direction ho => mem_foldl_useColumn.mpr (Or.inl (hc.orderBy _ _ ho))
  · intro column hs
    have hs' : selection.column? = some column := hs
    exact mem_foldl_useColumn.mpr (Or.inr (by simp [hs']))

/-- What a run of operators leaves behind. By induction on the operators, each of which sets the
selection or leaves the clauses as they are. -/
theorem foldlM_withOperator_cases {operators : List Operator}
    (h : operators.foldlM (withOperator mapper m) c = .ok c') :
    LastSelects mapper m c.selection operators c'.selection ∧ c'.filter = c.filter ∧
      c'.orderBy = c.orderBy ∧ (c.IsCovered → c'.IsCovered) := by
  induction operators generalizing c with
  | nil =>
      cases h
      exact ⟨.kept nofun, rfl, rfl, id⟩
  | cons operator rest ih =>
      rw [List.foldlM_cons] at h
      obtain ⟨c₁, h₁, hrest⟩ := bind_eq_ok_iff.mp h
      obtain ⟨hsel, hfilter, horder, hcov⟩ := ih hrest
      rcases withOperator_cases h₁ with ⟨hlocal, rfl⟩ | ⟨selection, hset, rfl⟩
      · exact ⟨hsel.cons_local hlocal, hfilter, horder, hcov⟩
      · exact ⟨hsel.cons_set hset, hfilter, horder, fun hc => hcov (hc.selecting selection)⟩

end Clauses

/-! ## Queries -/

section Queries

variable {mapper : Mapper} {m : Model} {c : Clauses}

/-- A conjunction asks for what its members ask for, joined from the left. -/
theorem Expr.Asks.foldl_and {shape : ItemShape} {first : Expr} {rest : List Expr}
    {condition : Condition} (h : (rest.foldl Expr.and first).Asks mapper shape condition) :
    ∃ a conditions, first.Asks mapper shape a ∧
      List.Forall₂ (Expr.Asks mapper shape) rest conditions ∧
      condition = conditions.foldl .and a := by
  induction rest generalizing first with
  | nil => exact ⟨condition, [], h, .nil, rfl⟩
  | cons second rest ih =>
      obtain ⟨ab, conditions, hab, hrest, rfl⟩ := ih h
      cases hab with
      | @and _ _ a b ha hb => exact ⟨a, b :: conditions, ha, .cons hb hrest, rfl⟩
      | column hn => cases hn

/-- Clauses that compile name no column in secret. -/
theorem isCovered_of_compile (h : compile mapper m = .ok c) : c.IsCovered := by
  obtain ⟨-, filtered, hfilter, ordered, horder, hoperators⟩ := compile_eq_ok_iff.mp h
  exact (Clauses.foldlM_withOperator_cases hoperators).2.2.2
    ((Clauses.IsCovered.all.withPredicates hfilter).withOrdering horder)

/-- **The clauses of a query say what the query asks for.** -/
theorem asks_of_compile (h : compile mapper m = .ok c) :
    m.Asks mapper c.selection (c.filter.map Filter.condition) c.orderBy := by
  obtain ⟨-, filtered, hfilter, ordered, horder, hoperators⟩ := compile_eq_ok_iff.mp h
  obtain ⟨hselection, hf, ho, -⟩ := Clauses.foldlM_withOperator_cases hoperators
  -- each step of compiling fills in a part of its own and keeps the others
  have hordered : ordered.selection = filtered.selection ∧ ordered.filter = filtered.filter := by
    rcases Clauses.withOrdering_cases horder with ⟨-, rfl⟩ | ⟨key, column, -, -, rfl⟩ <;>
      exact ⟨rfl, rfl⟩
  have hfiltered : filtered.selection = .all ∧ filtered.orderBy = none := by
    rcases Clauses.withPredicates_cases hfilter with ⟨-, rfl⟩ | ⟨first, rest, f, -, -, rfl⟩ <;>
      exact ⟨rfl, rfl⟩
  refine ⟨?_, ?_, ?_⟩
  · rwa [hordered.1, hfiltered.1] at hselection
  · rw [hf, hordered.2]
    rcases Clauses.withPredicates_cases hfilter with ⟨hp, rfl⟩ | ⟨first, rest, f, hp, he, rfl⟩
    · rw [hp]
      exact ⟨[], .nil, rfl⟩
    · obtain ⟨a, conditions, ha, hrest, hcondition⟩ := (Filter.asks_of_ofExpr he).foldl_and
      rw [hp]
      exact ⟨a :: conditions, .cons ha hrest, congrArg some hcondition⟩
  · intro column direction
    rw [ho]
    simp only [← Model.leadingKey?_eq_some_iff]
    rcases Clauses.withOrdering_cases horder with ⟨hk, rfl⟩ | ⟨key, name, hk, hn, rfl⟩
    · simp [hfiltered.2, hk]
    · simp only [hk, Option.some.injEq, Prod.mk.injEq, exists_eq_left']
      constructor
      · rintro ⟨rfl, rfl⟩
        exact ⟨hn, rfl⟩
      · rintro ⟨hc, rfl⟩
        exact ⟨hn.unique hc, rfl⟩

end Queries

end SheetQuery
