import SheetQuery.Proofs.Filter.Language
import SheetQuery.Statement

/-!
# Which queries have a statement

A query has clauses exactly when each of its parts is in the query language: no joins, predicates of
the language of predicates, a leading sort key that is a column, operators that statements know, and
a column as selector where an operator works on the selected column. The parts are independent: what
one of them is does not decide whether another is accepted, and the clauses collected so far are
never looked at.

Main statement: `compile_ok_iff`.
-/

namespace SheetQuery

/-- The clause takes a further source into the query. -/
inductive Clause.IsJoin : Clause → Prop where
  | join (join : Join) : IsJoin (.join join)
  | groupJoin (join : Join) : IsJoin (.groupJoin join)

/-- The operator works on the selected column, so the selector has to be one. -/
inductive Operator.NeedsColumn : Operator → Prop where
  | sum : NeedsColumn .sum
  | min : NeedsColumn .min
  | max : NeedsColumn .max
  | average : NeedsColumn .average
  | distinct : NeedsColumn .distinct

/-- The operator has no place in a statement. -/
inductive Operator.IsRefused : Operator → Prop where
  | contains (value : Value) : IsRefused (.contains value)
  | defaultIfEmpty : IsRefused .defaultIfEmpty
  | groupBy (key : Expr) : IsRefused (.groupBy key)
  | union : IsRefused .union
  | intersect : IsRefused .intersect
  | except : IsRefused .except
  | ofType (name : String) : IsRefused (.ofType name)
  | single : IsRefused .single

namespace Model

/-- The key leads the ordering: it is the first of the first `orderBy` clause that has any. -/
def Leads (m : Model) (key : SortKey) : Prop :=
  ∃ before rest after, m.body = before ++ .orderBy (key :: rest) :: after ∧
    ∀ keys, .orderBy keys ∈ before → keys = []

/-- **The query language.** -/
structure IsCompilable (m : Model) : Prop where
  joins : ∀ clause ∈ m.body, ¬ clause.IsJoin
  predicates : ∀ predicate, .filter predicate ∈ m.body → predicate.IsPredicate m.shape
  ordering : ∀ key, m.Leads key → key.key.IsResolvable m.shape
  operators : ∀ operator ∈ m.operators, ¬ operator.IsRefused
  selector : ∀ operator ∈ m.operators, operator.NeedsColumn →
    ∃ selector, m.selector = some selector ∧ selector.IsResolvable m.shape

/-! ## The body -/

theorem mem_predicates_iff {m : Model} {predicate : Expr} :
    predicate ∈ m.predicates ↔ .filter predicate ∈ m.body := by
  simp only [predicates, List.mem_filterMap]
  constructor
  · rintro ⟨clause, hmem, h⟩
    cases clause with
    | filter p =>
        cases h
        exact hmem
    | _ => cases h
  · intro h
    exact ⟨_, h, rfl⟩

theorem leadingKey?_eq_some_iff {m : Model} {key : SortKey} :
    m.leadingKey? = some key ↔ m.Leads key := by
  simp only [leadingKey?, List.findSome?_eq_some_iff, Leads]
  constructor
  · rintro ⟨before, clause, after, hbody, hclause, hbefore⟩
    cases clause with
    | orderBy keys =>
        cases keys with
        | nil => cases hclause
        | cons first rest =>
            cases hclause
            refine ⟨before, rest, after, hbody, ?_⟩
            intro keys hkeys
            exact List.head?_eq_none_iff.mp (hbefore _ hkeys)
    | _ => cases hclause
  · rintro ⟨before, rest, after, hbody, hbefore⟩
    refine ⟨before, _, after, hbody, rfl, ?_⟩
    intro clause hclause
    cases clause with
    | orderBy keys => rw [hbefore keys hclause]; rfl
    | _ => rfl

end Model

theorem rejectJoins_ok_iff {body : List Clause} :
    rejectJoins body = .ok () ↔ ∀ clause ∈ body, ¬ clause.IsJoin := by
  induction body with
  | nil => simp [rejectJoins]
  | cons clause rest ih =>
      simp only [List.mem_cons, forall_eq_or_imp]
      cases clause with
      | filter predicate =>
          rw [rejectJoins, ih]
          exact ⟨fun h => ⟨nofun, h⟩, fun h => h.2⟩
      | orderBy keys =>
          rw [rejectJoins, ih]
          exact ⟨fun h => ⟨nofun, h⟩, fun h => h.2⟩
      | join join => exact ⟨nofun, fun h => absurd (.join join) h.1⟩
      | groupJoin join => exact ⟨nofun, fun h => absurd (.groupJoin join) h.1⟩

/-! ## Predicates and ordering -/

variable {mapper : Mapper} {m : Model} {c : Clauses}

theorem Expr.isPredicate_and_iff {shape : ItemShape} {l r : Expr} :
    (Expr.and l r).IsPredicate shape ↔ l.IsPredicate shape ∧ r.IsPredicate shape := by
  constructor
  · intro h
    cases h with
    | and hl hr => exact ⟨hl, hr⟩
    | column h => cases h
  · rintro ⟨hl, hr⟩
    exact .and hl hr

/-- A conjunction is in the language when each of its members is. -/
theorem Expr.isPredicate_foldl_and_iff {shape : ItemShape} {first : Expr} {rest : List Expr} :
    (rest.foldl Expr.and first).IsPredicate shape ↔
      first.IsPredicate shape ∧ ∀ e ∈ rest, e.IsPredicate shape := by
  induction rest generalizing first with
  | nil => simp
  | cons second rest ih =>
      rw [List.foldl_cons, ih, isPredicate_and_iff, List.forall_mem_cons]
      exact and_assoc

namespace Clauses

theorem withPredicates_ok_iff :
    (∃ c', c.withPredicates mapper m = .ok c') ↔
      ∀ predicate ∈ m.predicates, predicate.IsPredicate m.shape := by
  unfold withPredicates
  cases hp : m.predicates with
  | nil => simp [conjunction?]
  | cons first rest =>
      simp only [conjunction?, List.mem_cons, forall_eq_or_imp]
      rw [← Expr.isPredicate_foldl_and_iff, Expr.isPredicate_iff_ofExpr mapper]
      constructor
      · rintro ⟨c', h⟩
        obtain ⟨f, hf, h⟩ := bind_eq_ok_iff.mp h
        exact ⟨f, hf⟩
      · rintro ⟨f, hf⟩
        exact ⟨_, bind_eq_ok_iff.mpr ⟨f, hf, rfl⟩⟩

theorem withOrdering_ok_iff :
    (∃ c', c.withOrdering mapper m = .ok c') ↔
      ∀ key, m.Leads key → key.key.IsResolvable m.shape := by
  unfold withOrdering
  simp only [← Model.leadingKey?_eq_some_iff]
  cases hk : m.leadingKey? with
  | none => simp
  | some key =>
      simp only [Option.some.injEq, forall_eq', Expr.isResolvable_iff mapper]
      constructor
      · rintro ⟨c', h⟩
        obtain ⟨column, hc, h⟩ := bind_eq_ok_iff.mp h
        exact ⟨column, hc⟩
      · rintro ⟨column, hc⟩
        exact ⟨_, bind_eq_ok_iff.mpr ⟨column, hc, rfl⟩⟩

/-! ## Operators -/

theorem overColumn_ok_iff (method : String) (select : String → Sql.Selection) :
    (∃ c', c.overColumn mapper m method select = .ok c') ↔
      ∃ selector, m.selector = some selector ∧ selector.IsResolvable m.shape := by
  unfold overColumn
  cases hs : m.selector with
  | none => simp [unsupportedOperator]
  | some selector =>
      simp only [Option.some.injEq, exists_eq_left', Expr.isResolvable_iff mapper]
      constructor
      · rintro ⟨c', h⟩
        split at h
        · obtain ⟨column, hc, h⟩ := bind_eq_ok_iff.mp h
          exact ⟨column, hc⟩
        · cases h
      · rintro ⟨column, hc⟩
        rw [if_pos (Expr.names_of_resolveColumn hc).isColumnAccess]
        exact ⟨_, bind_eq_ok_iff.mpr ⟨column, hc, rfl⟩⟩

theorem selectsColumn_of_isResolvable {selector : Expr} (hs : m.selector = some selector)
    (h : selector.IsResolvable m.shape) : selectsColumn m = true := by
  obtain ⟨column, hn⟩ := h.names .empty
  simp [selectsColumn, hs, hn.isColumnAccess]

/-- One operator is accepted or not whatever the clauses are that it changes. -/
theorem withOperator_ok_iff {operator : Operator} :
    (∃ c', withOperator mapper m c operator = .ok c') ↔
      ¬ operator.IsRefused ∧ (operator.NeedsColumn →
        ∃ selector, m.selector = some selector ∧ selector.IsResolvable m.shape) := by
  cases operator with
  | take n => exact ⟨fun _ => ⟨nofun, nofun⟩, fun _ => ⟨_, rfl⟩⟩
  | skip n => exact ⟨fun _ => ⟨nofun, nofun⟩, fun _ => ⟨_, rfl⟩⟩
  | first => exact ⟨fun _ => ⟨nofun, nofun⟩, fun _ => ⟨_, rfl⟩⟩
  | last => exact ⟨fun _ => ⟨nofun, nofun⟩, fun _ => ⟨_, rfl⟩⟩
  | count => exact ⟨fun _ => ⟨nofun, nofun⟩, fun _ => ⟨_, rfl⟩⟩
  | longCount => exact ⟨fun _ => ⟨nofun, nofun⟩, fun _ => ⟨_, rfl⟩⟩
  | reverse => exact ⟨fun _ => ⟨nofun, nofun⟩, fun _ => ⟨_, rfl⟩⟩
  | sum =>
      rw [withOperator, overColumn_ok_iff]
      exact ⟨fun h => ⟨nofun, fun _ => h⟩, fun h => h.2 .sum⟩
  | min =>
      rw [withOperator, overColumn_ok_iff]
      exact ⟨fun h => ⟨nofun, fun _ => h⟩, fun h => h.2 .min⟩
  | max =>
      rw [withOperator, overColumn_ok_iff]
      exact ⟨fun h => ⟨nofun, fun _ => h⟩, fun h => h.2 .max⟩
  | average =>
      rw [withOperator, overColumn_ok_iff]
      exact ⟨fun h => ⟨nofun, fun _ => h⟩, fun h => h.2 .average⟩
  | distinct =>
      -- the only operator that looks at the selector before the selector is resolved
      constructor
      · rintro ⟨c', h⟩
        rw [withOperator] at h
        split at h
        · exact ⟨nofun, fun _ => (overColumn_ok_iff _ _).mp ⟨c', h⟩⟩
        · cases h
      · rintro ⟨-, h⟩
        obtain ⟨selector, hs, hr⟩ := h .distinct
        rw [withOperator, if_pos (selectsColumn_of_isResolvable hs hr), overColumn_ok_iff]
        exact ⟨selector, hs, hr⟩
  | contains value => exact ⟨nofun, fun h => absurd (.contains value) h.1⟩
  | defaultIfEmpty => exact ⟨nofun, fun h => absurd .defaultIfEmpty h.1⟩
  | groupBy key => exact ⟨nofun, fun h => absurd (.groupBy key) h.1⟩
  | union => exact ⟨nofun, fun h => absurd .union h.1⟩
  | intersect => exact ⟨nofun, fun h => absurd .intersect h.1⟩
  | except => exact ⟨nofun, fun h => absurd .except h.1⟩
  | ofType name => exact ⟨nofun, fun h => absurd (.ofType name) h.1⟩
  | single => exact ⟨nofun, fun h => absurd .single h.1⟩

/-- A list of operators is accepted when each of them is. By induction on the list: what one of them
leaves behind does not matter to the next. -/
theorem foldlM_withOperator_ok_iff {operators : List Operator} :
    (∃ c', operators.foldlM (withOperator mapper m) c = .ok c') ↔
      ∀ operator ∈ operators, ¬ operator.IsRefused ∧ (operator.NeedsColumn →
        ∃ selector, m.selector = some selector ∧ selector.IsResolvable m.shape) := by
  induction operators generalizing c with
  | nil => exact ⟨nofun, fun _ => ⟨c, rfl⟩⟩
  | cons operator rest ih =>
      rw [List.forall_mem_cons, ← @withOperator_ok_iff mapper m c operator]
      simp only [List.foldlM_cons, bind_eq_ok_iff]
      constructor
      · rintro ⟨c', c₁, h₁, hrest⟩
        exact ⟨⟨c₁, h₁⟩, ih.mp ⟨c', hrest⟩⟩
      · rintro ⟨⟨c₁, h₁⟩, hrest⟩
        obtain ⟨c', h'⟩ := ih.mpr hrest
        exact ⟨c', c₁, h₁, h'⟩

end Clauses

/-! ## Queries -/

/-- The steps of compiling. -/
theorem compile_eq_ok_iff :
    compile mapper m = .ok c ↔ rejectJoins m.body = .ok () ∧
      ∃ filtered, Clauses.all.withPredicates mapper m = .ok filtered ∧
        ∃ ordered, filtered.withOrdering mapper m = .ok ordered ∧
          m.operators.foldlM (Clauses.withOperator mapper m) ordered = .ok c := by
  simp only [compile, bind_eq_ok_iff]
  exact ⟨fun ⟨_, hjoins, h⟩ => ⟨hjoins, h⟩, fun ⟨hjoins, h⟩ => ⟨(), hjoins, h⟩⟩

/-- **Compiling succeeds exactly on the query language.** -/
theorem compile_ok_iff (mapper : Mapper) (m : Model) :
    (∃ c, compile mapper m = .ok c) ↔ m.IsCompilable := by
  constructor
  · rintro ⟨c, hc⟩
    obtain ⟨hjoins, filtered, hfilter, ordered, horder, hoperators⟩ := compile_eq_ok_iff.mp hc
    have hpredicates := Clauses.withPredicates_ok_iff.mp ⟨filtered, hfilter⟩
    have haccepted := Clauses.foldlM_withOperator_ok_iff.mp ⟨c, hoperators⟩
    exact
      { joins := rejectJoins_ok_iff.mp hjoins
        predicates := fun p hp => hpredicates p (Model.mem_predicates_iff.mpr hp)
        ordering := Clauses.withOrdering_ok_iff.mp ⟨ordered, horder⟩
        operators := fun o ho => (haccepted o ho).1
        selector := fun o ho => (haccepted o ho).2 }
  · intro h
    obtain ⟨filtered, hfilter⟩ := Clauses.withPredicates_ok_iff.mpr
      fun p hp => h.predicates p (Model.mem_predicates_iff.mp hp)
    obtain ⟨ordered, horder⟩ := Clauses.withOrdering_ok_iff.mpr h.ordering
    obtain ⟨c, hoperators⟩ := Clauses.foldlM_withOperator_ok_iff.mpr
      fun o ho => ⟨h.operators o ho, h.selector o ho⟩
    exact ⟨c, compile_eq_ok_iff.mpr
      ⟨rejectJoins_ok_iff.mpr h.joins, filtered, hfilter, ordered, horder, hoperators⟩⟩

end SheetQuery
