import SheetQuery.Proofs.Compile.Intent
import SheetQuery.Proofs.Filter.Slots

/-!
# What a statement does not show

A literal that a query compares a column with, or that it looks for in one, is bound and never
written. Two queries that differ in such literals only are turned down for the same reason, or have
statements with the same text over the same columns, for every table. What such a literal decides is
the parameter of its slot, and nothing else.

Main statement: `compile_redacted_alike`. That a parameter is not found by counting literals is
`param_not_by_literal`.
-/

namespace SheetQuery

/-! ## Redacting queries -/

/-- The key without the values of bound literals. -/
def SortKey.redacted (key : SortKey) : SortKey :=
  { key with key := key.key.redacted }

/-- The join without the values of bound literals. -/
def Join.redacted (join : Join) : Join :=
  { join with outerKey := join.outerKey.redacted, innerKey := join.innerKey.redacted }

/-- The clause without the values of bound literals. -/
def Clause.redacted : Clause → Clause
  | .filter predicate => .filter predicate.redacted
  | .orderBy keys => .orderBy (keys.map SortKey.redacted)
  | .join j => .join j.redacted
  | .groupJoin j => .groupJoin j.redacted

/-- The operator without the values of bound literals. -/
def Operator.redacted : Operator → Operator
  | .groupBy key => .groupBy key.redacted
  | operator => operator

namespace Model

/-- The query without the values of its literals that are operands of comparisons or arguments of
tests on text, wherever they stand in it. -/
def redacted (m : Model) : Model :=
  ⟨m.shape, m.selector.map Expr.redacted, m.body.map Clause.redacted,
    m.operators.map Operator.redacted⟩

/-- The slots of the predicates, in the order they were given. -/
def slots (m : Model) : List Slot :=
  m.predicates.flatMap Expr.slots

theorem predicates_redacted (m : Model) :
    m.redacted.predicates = m.predicates.map Expr.redacted := by
  simp only [predicates, redacted, List.filterMap_map, List.map_filterMap]
  refine List.filterMap_congr fun clause _ => ?_
  cases clause <;> rfl

theorem leadingKey?_redacted (m : Model) :
    m.redacted.leadingKey? = m.leadingKey?.map SortKey.redacted := by
  simp only [leadingKey?, redacted]
  induction m.body with
  | nil => rfl
  | cons clause rest ih =>
      cases clause with
      | orderBy keys =>
          cases keys with
          | nil => exact ih
          | cons key keys => rfl
      | _ => exact ih

theorem slots_redacted (m : Model) : m.redacted.slots = m.slots.map Slot.redacted := by
  rw [slots, predicates_redacted, slots, List.map_flatMap, List.flatMap_map]
  exact List.flatMap_congr fun e _ => e.slots_redacted

end Model

/-- The clauses without the values of their parameters. -/
def Clauses.redacted (c : Clauses) : Clauses :=
  { c with filter := c.filter.map Filter.redacted }

/-! ## Compiling redacted queries -/

theorem rejectJoins_redacted (body : List Clause) :
    rejectJoins (body.map Clause.redacted) = rejectJoins body := by
  induction body with
  | nil => rfl
  | cons clause rest ih => cases clause <;> first | rfl | exact ih

theorem foldl_and_redacted (first : Expr) (rest : List Expr) :
    (rest.map Expr.redacted).foldl Expr.and first.redacted =
      (rest.foldl Expr.and first).redacted := by
  induction rest generalizing first with
  | nil => rfl
  | cons second rest ih =>
      have hand : first.redacted.and second.redacted = (first.and second).redacted := by
        rw [Expr.and, Expr.and, Expr.redacted, Expr.redacted, Expr.redacted, Expr.redactedAt]
        rfl
      rw [List.map_cons, List.foldl_cons, List.foldl_cons, hand, ih]

theorem conjunction?_redacted (predicates : List Expr) :
    conjunction? (predicates.map Expr.redacted) = (conjunction? predicates).map Expr.redacted := by
  cases predicates with
  | nil => rfl
  | cons first rest => exact congrArg some (foldl_and_redacted first rest)

theorem resolveColumn_redacted (mapper : Mapper) (shape : ItemShape) (e : Expr) :
    resolveColumn mapper shape e.redacted = resolveColumn mapper shape e :=
  Expr.resolveColumn_redactedAt .elsewhere e

namespace Clauses

variable {mapper : Mapper} {m : Model} {c c' : Clauses}

theorem redacted_eq_iff : c.redacted = c'.redacted ↔ c.selection = c'.selection ∧
    c.filter.map Filter.redacted = c'.filter.map Filter.redacted ∧ c.orderBy = c'.orderBy ∧
      c.columnsUsed = c'.columnsUsed := by
  rw [redacted, redacted, mk.injEq]

theorem withPredicates_redacted (h : c.redacted = c'.redacted) :
    (c.withPredicates mapper m.redacted).map redacted =
      (c'.withPredicates mapper m).map redacted := by
  unfold withPredicates
  rw [m.predicates_redacted, conjunction?_redacted]
  cases conjunction? m.predicates with
  | none => exact congrArg Except.ok h
  | some predicate =>
      refine map_bind_congr (Filter.ofExpr_redacted predicate) fun f f' hf => ?_
      obtain ⟨hselection, -, horder, hused⟩ := redacted_eq_iff.mp h
      have hcolumns : f.columns = f'.columns := by
        rw [← f.columns_redacted, hf, f'.columns_redacted]
      refine congrArg Except.ok (redacted_eq_iff.mpr ⟨hselection, congrArg some hf, horder, ?_⟩)
      show f.columns.foldl useColumn c.columnsUsed = f'.columns.foldl useColumn c'.columnsUsed
      rw [hcolumns, hused]

/-- Neither the ordering nor an operator looks at the condition. -/
theorem withOrdering_redacted (h : c.redacted = c'.redacted) :
    (c.withOrdering mapper m.redacted).map redacted = (c'.withOrdering mapper m).map redacted := by
  unfold withOrdering
  rw [m.leadingKey?_redacted]
  cases m.leadingKey? with
  | none => exact congrArg Except.ok h
  | some key =>
      show (resolveColumn mapper m.shape key.key.redacted >>= _).map redacted =
        (resolveColumn mapper m.shape key.key >>= _).map redacted
      rw [resolveColumn_redacted]
      cases resolveColumn mapper m.shape key.key with
      | error e => rfl
      | ok column =>
          obtain ⟨hselection, hfilter, -, hused⟩ := redacted_eq_iff.mp h
          exact congrArg Except.ok (redacted_eq_iff.mpr
            ⟨hselection, hfilter, rfl, congrArg (useColumn · column) hused⟩)

theorem overColumn_redacted (h : c.redacted = c'.redacted) (method : String)
    (select : String → Sql.Selection) :
    (c.overColumn mapper m.redacted method select).map redacted =
      (c'.overColumn mapper m method select).map redacted := by
  have hselector : m.redacted.selector = m.selector.map Expr.redacted := rfl
  unfold overColumn
  rw [hselector]
  cases m.selector with
  | none => rfl
  | some selector =>
      simp only [Option.map, Expr.redacted, Expr.isColumnAccess_redactedAt,
        Expr.resolveColumn_redactedAt]
      split
      · show (resolveColumn mapper m.shape selector >>= _).map redacted = _
        cases resolveColumn mapper m.shape selector with
        | error e => rfl
        | ok column =>
            obtain ⟨-, hfilter, horder, hused⟩ := redacted_eq_iff.mp h
            exact congrArg Except.ok (redacted_eq_iff.mpr
              ⟨rfl, hfilter, horder, congrArg (useColumn · column) hused⟩)
      · rfl

theorem selectsColumn_redacted (m : Model) : selectsColumn m.redacted = selectsColumn m := by
  show ((m.selector.map Expr.redacted).map Expr.isColumnAccess).getD false = _
  rw [selectsColumn]
  cases m.selector with
  | none => rfl
  | some selector => exact Expr.isColumnAccess_redactedAt .elsewhere selector

theorem withOperator_redacted (h : c.redacted = c'.redacted) (operator : Operator) :
    (withOperator mapper m.redacted c operator.redacted).map redacted =
      (withOperator mapper m c' operator).map redacted := by
  obtain ⟨hselection, hfilter, horder, hused⟩ := redacted_eq_iff.mp h
  have hset : ∀ selection : Sql.Selection,
      Except.ok ({ c with selection := selection } : Clauses).redacted =
        (.ok ({ c' with selection := selection } : Clauses).redacted : Except QueryError Clauses) :=
    fun selection => congrArg Except.ok (redacted_eq_iff.mpr ⟨rfl, hfilter, horder, hused⟩)
  cases operator with
  | take n => exact hset (.top n)
  | first => exact hset (.top 1)
  | count => exact hset .count
  | longCount => exact hset .count
  | sum => exact overColumn_redacted h _ _
  | min => exact overColumn_redacted h _ _
  | max => exact overColumn_redacted h _ _
  | average => exact overColumn_redacted h _ _
  | distinct =>
      simp only [Operator.redacted, withOperator, selectsColumn_redacted]
      split
      · exact overColumn_redacted h _ _
      · rfl
  | skip n => exact congrArg Except.ok h
  | last => exact congrArg Except.ok h
  | reverse => exact congrArg Except.ok h
  | _ => rfl

theorem foldlM_withOperator_redacted (h : c.redacted = c'.redacted) (operators : List Operator) :
    ((operators.map Operator.redacted).foldlM (withOperator mapper m.redacted) c).map redacted =
      (operators.foldlM (withOperator mapper m) c').map redacted := by
  induction operators generalizing c c' with
  | nil => exact congrArg Except.ok h
  | cons operator rest ih =>
      rw [List.map_cons, List.foldlM_cons, List.foldlM_cons]
      exact map_bind_congr (withOperator_redacted h operator) fun _ _ => ih

/-- The text of clauses does not show their parameters. -/
theorem chars_redacted (c : Clauses) (table : List Char) :
    c.redacted.chars table = c.chars table := by
  have hwhere : c.redacted.whereChars = c.whereChars := by
    unfold whereChars
    cases hfilter : c.filter with
    | none => simp only [redacted, hfilter, Option.map_none]
    | some filter => simp only [redacted, hfilter, Option.map_some, filter.chars_redacted]
  unfold chars
  rw [hwhere]
  simp only [redacted, orderChars]

end Clauses

variable {mapper : Mapper} {m : Model} {c : Clauses}

/-- **Compiling does not look at bound literals**, except that it hands them on as parameters. -/
theorem compile_redacted (mapper : Mapper) (m : Model) :
    (compile mapper m.redacted).map Clauses.redacted =
      (compile mapper m).map Clauses.redacted := by
  show (rejectJoins (m.body.map Clause.redacted) >>= _).map Clauses.redacted = _
  rw [rejectJoins_redacted]
  unfold compile
  cases rejectJoins m.body with
  | error e => rfl
  | ok u =>
      rw [ok_bind, ok_bind]
      refine map_bind_congr (Clauses.withPredicates_redacted rfl) fun c c' h => ?_
      refine map_bind_congr (Clauses.withOrdering_redacted h) fun c c' h => ?_
      exact Clauses.foldlM_withOperator_redacted h m.operators

/-! ## Parameters -/

theorem slots_foldl_and (first : Expr) (rest : List Expr) :
    (rest.foldl Expr.and first).slots = first.slots ++ rest.flatMap Expr.slots := by
  induction rest generalizing first with
  | nil => exact (List.append_nil _).symm
  | cons second rest ih =>
      rw [List.foldl_cons, ih, Expr.and, Expr.slots, List.flatMap_cons, List.append_assoc]

/-- The parameters of a query are those of the slots of its predicates. -/
theorem params_of_compile (h : compile mapper m = .ok c) : c.params = m.slots.map Slot.param := by
  obtain ⟨-, filtered, hfilter, ordered, horder, hrun⟩ := compile_eq_ok_iff.mp h
  have hfinal : c.filter = filtered.filter := by
    rw [(Clauses.foldlM_withOperator_cases hrun).2.1]
    rcases Clauses.withOrdering_cases horder with ⟨-, rfl⟩ | ⟨key, column, -, -, rfl⟩ <;> rfl
  rw [Clauses.params, hfinal, Model.slots]
  rcases Clauses.withPredicates_cases hfilter with ⟨hnone, rfl⟩ | ⟨first, rest, f, hsome, hf, rfl⟩
  · rw [hnone]
    rfl
  · rw [hsome, List.flatMap_cons, ← slots_foldl_and, ← Filter.params_of_ofExpr hf]
    rfl

/-- **Literals are bound and never written.** Two queries that differ in literals that are operands
of comparisons or arguments of tests on text only, and agree on which operands are missing, are
turned down for the same reason, or both have statements: with the same text for every table, over
the same columns, and with as many parameters. Each parameter is the one of the slot in its place,
and the slots of the two queries differ in their literals only. -/
theorem compile_redacted_alike {mapper : Mapper} {m m' : Model} (h : m.redacted = m'.redacted) :
    (∃ e, compile mapper m = .error e ∧ compile mapper m' = .error e) ∨
      ∃ c c', compile mapper m = .ok c ∧ compile mapper m' = .ok c' ∧
        c.columnsUsed = c'.columnsUsed ∧
        (∀ table, (c.render table).sql = (c'.render table).sql ∧
          (c.render table).params = m.slots.map Slot.param ∧
          (c'.render table).params = m'.slots.map Slot.param) ∧
        m.slots.map Slot.redacted = m'.slots.map Slot.redacted := by
  have hsame : (compile mapper m).map Clauses.redacted =
      (compile mapper m').map Clauses.redacted := by
    rw [← compile_redacted, h, compile_redacted]
  have hslots : m.slots.map Slot.redacted = m'.slots.map Slot.redacted := by
    rw [← m.slots_redacted, h, m'.slots_redacted]
  cases hc : compile mapper m with
  | error e =>
      cases hc' : compile mapper m' with
      | error e' =>
          rw [hc, hc'] at hsame
          cases hsame
          exact Or.inl ⟨e, rfl, rfl⟩
      | ok c' =>
          rw [hc, hc'] at hsame
          cases hsame
  | ok c =>
      cases hc' : compile mapper m' with
      | error e' =>
          rw [hc, hc'] at hsame
          cases hsame
      | ok c' =>
          rw [hc, hc'] at hsame
          have hclauses : c.redacted = c'.redacted := Except.ok.inj hsame
          refine Or.inr ⟨c, c', rfl, rfl, (Clauses.redacted_eq_iff.mp hclauses).2.2.2, ?_, hslots⟩
          refine fun table => ⟨?_, params_of_compile hc, params_of_compile hc'⟩
          rw [Clauses.render, Clauses.render, ← c.chars_redacted, hclauses, c'.chars_redacted]

/-- Active people over an age, by a column that is true and one that is compared. -/
def activeOver (age : Int64) : Model where
  shape := .row
  selector := none
  body := [
    .filter (.column mainSource (.named "Active")),
    .filter (.binary (.compare .lt) (.literal (.int age)) (.column mainSource (.named "Age")))]
  operators := []

theorem redacted_activeOver (age age' : Int64) :
    (activeOver age).redacted = (activeOver age').redacted :=
  rfl

theorem compile_redacted_alike_activeOver :
    ∃ c c', compile .empty (activeOver 18) = .ok c ∧ compile .empty (activeOver 65) = .ok c' ∧
      (∀ table, (c.render table).sql = (c'.render table).sql) ∧
      c.params = [.bool true, .int 18] ∧ c'.params = [.bool true, .int 65] := by
  obtain ⟨c₁, hc₁⟩ : ∃ c, compile .empty (activeOver 18) = .ok c := ⟨_, rfl⟩
  rcases compile_redacted_alike (redacted_activeOver 18 65) with
    ⟨e, he, -⟩ | ⟨c, c', hc, hc', -, halike, -⟩
  · cases hc₁.symm.trans he
  · exact ⟨c, c', hc, hc', fun table => (halike table).1, (halike ⟨none, none, none⟩).2.1,
      (halike ⟨none, none, none⟩).2.2⟩

/-- The literals of the slots of a query, from left to right. -/
def Model.boundLiterals (m : Model) : List Value :=
  m.slots.filterMap Slot.literal?

/-- **A parameter is not found by counting literals**: a column that stands alone is compared with
true, and the parameter for that comes in between. Here the second parameters differ, and there is
no second literal that could. -/
theorem param_not_by_literal :
    ¬ ∀ (mapper : Mapper) (m m' : Model) (c c' : Clauses) (k : Nat), m.redacted = m'.redacted →
      compile mapper m = .ok c → compile mapper m' = .ok c' →
        m.boundLiterals[k]? = m'.boundLiterals[k]? → c.params[k]? = c'.params[k]? := by
  intro h
  have hclaimed := h .empty (activeOver 18) (activeOver 65) _ _ 1 rfl rfl rfl rfl
  exact absurd (Value.int.inj (Option.some.inj hclaimed)) (by decide)

end SheetQuery
