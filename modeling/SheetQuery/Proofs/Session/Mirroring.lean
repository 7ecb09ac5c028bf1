import SheetQuery.Proofs.Filter.Respelling
import SheetQuery.Proofs.Session.Refiltering
import SheetQuery.Proofs.Value.Order

/-!
# Literals on the left

A comparison has two sides, and either may be written first. Values compare from both sides alike,
whatever their kinds and whether they compare at all: the order turns around and nothing else. So a
condition keeps the same rows when its comparisons are turned around, and a query that has its
literals on the left brings back what it does with all of them on the right.

Main statement: `selects_mirrored`.
-/

namespace SheetQuery

open Sql

/-! ## Conditions -/

/-- The same condition with some of its comparisons read from the other side. -/
inductive Sql.Condition.Mirrored : Condition → Condition → Prop where
  | same (k : Condition) : Mirrored k k
  | compare (l : Operand) (op : Comparison) (r : Operand) :
      Mirrored (.compare l op r) (.compare r op.flipped l)
  | and {a a' b b' : Condition} (ha : Mirrored a a') (hb : Mirrored b b') :
      Mirrored (.and a b) (.and a' b')
  | or {a a' b b' : Condition} (ha : Mirrored a a') (hb : Mirrored b b') :
      Mirrored (.or a b) (.or a' b')
  | not {a a' : Condition} (h : Mirrored a a') : Mirrored (.not a) (.not a')

namespace Sql.Condition.Mirrored

variable {k k' : Condition}

/-- By induction on the places where the two differ: at a comparison both sides trade places. -/
theorem holds (h : k.Mirrored k') (columns : List String) (row : List Value) :
    k'.holds columns row = k.holds columns row := by
  induction h with
  | same k => rfl
  | compare l op r => exact Value.satisfies_flipped op _ _
  | and ha hb iha ihb => rw [Condition.holds, Condition.holds, iha, ihb]
  | or ha hb iha ihb => rw [Condition.holds, Condition.holds, iha, ihb]
  | not h ih => rw [Condition.holds, Condition.holds, ih]

/-- The columns are the same, though maybe in another order. -/
theorem mem_columns_iff (h : k.Mirrored k') (name : String) :
    name ∈ k'.columns ↔ name ∈ k.columns := by
  induction h with
  | same k => exact Iff.rfl
  | compare l op r =>
      rw [Condition.columns, Condition.columns, List.mem_append, List.mem_append, or_comm]
  | and ha hb iha ihb =>
      rw [Condition.columns, Condition.columns, List.mem_append, List.mem_append, iha, ihb]
  | or ha hb iha ihb =>
      rw [Condition.columns, Condition.columns, List.mem_append, List.mem_append, iha, ihb]
  | not h ih => exact ih

/-- A statement answers the same, faults included. -/
theorem evaluate (h : k.Mirrored k') {s : Statement} (hs : s.condition = some k) (t : ResultSet) :
    Statement.evaluate { s with condition := some k' } t = s.evaluate t := by
  have hnames : checkNames t k'.columns = checkNames t k.columns :=
    checkNames_congr t h.mem_columns_iff
  have hrows : filterRows t (some k') = filterRows t (some k) :=
    List.filter_congr fun row _ => h.holds t.columns row
  unfold Statement.evaluate Statement.sourceRows
  simp only [hs, Option.map_some, Option.getD_some, hnames, hrows]

end Sql.Condition.Mirrored

/-! ## Predicates with a literal on the left -/

namespace Filter

variable {mapper : Mapper} {shape : ItemShape} {l r : Expr} {op : Comparison} {v : Value}
  {f : Filter}

/-- With a literal on the left it does not matter whether there is a column on the right. -/
theorem ofExpr_compare_literal (hl : l.IsLiteral v) :
    ofExpr mapper shape (.binary (.compare op) l r) = .ok f ↔
      ofExpr mapper shape (.binary (.compare op.flipped) r l) = .ok f := by
  rw [ofExpr, ofExpr]
  cases hr : r.isColumnAccess with
  | true =>
      rw [ofComparison_flip op (by rw [hl.not_isColumnAccess, hr]; exact Bool.false_ne_true)]
  | false =>
      unfold ofComparison
      rw [hl.not_isColumnAccess, hr]
      -- refused from either side, as no column is compared
      constructor
      all_goals
        intro h
        cases h

/-- The filter of such a comparison is over the column on its right. It compares as it is written,
the literal with the cell; a missing literal is compared with no cell, but looked for. -/
theorem holds_of_compare_literal (hl : l.IsLiteral v)
    (hf : ofExpr mapper shape (.binary (.compare op) l r) = .ok f) :
    ∃ column, r.Names mapper shape column ∧
      (v.isNull = false → ∀ columns row,
        f.condition.holds columns row = Value.satisfies op v (cell columns row column)) ∧
      (v.isNull = true → ∃ negated, op = Comparison.nullTest negated ∧ ∀ columns row,
        f.condition.holds columns row = ((cell columns row column).isNull != negated)) := by
  rw [ofExpr, ofComparison, if_neg (by rw [hl.not_isColumnAccess]; exact Bool.false_ne_true)] at hf
  split at hf
  · obtain ⟨column, hcolumn, hf⟩ := ofColumnComparison_cases hf
    refine ⟨column, hcolumn, ?_⟩
    rcases hf with ⟨negated, hnull, hop, rfl⟩ | ⟨w, hw, hpresent, rfl⟩ | ⟨b, hb, -⟩
    · obtain rfl := hl.unique hnull
      refine ⟨?_, fun _ => ⟨negated, ?_, fun columns row => rfl⟩⟩
      · intro hpresent
        cases hpresent
      · rw [← Comparison.flipped_flipped op, hop, Comparison.flipped_nullTest]
    · obtain rfl := hl.unique hw
      refine ⟨fun _ columns row => ?_, fun hnull => by rw [hpresent] at hnull; cases hnull⟩
      exact Value.satisfies_flipped op v (cell columns row column)
    · cases hb.isColumnAccess.symm.trans hl.not_isColumnAccess
  · cases hf

end Filter

/-! ## Queries in another spelling -/

/-- The same clause, its predicate maybe in another spelling. -/
inductive Clause.Respelled : Clause → Clause → Prop where
  | same (clause : Clause) : Respelled clause clause
  | filter {p p' : Expr} (h : p.Respelled p') : Respelled (.filter p) (.filter p')

section Bodies

variable {mapper : Mapper} {m : Model} {body body' : List Clause}

theorem rejectJoins_respelled (h : List.Forall₂ Clause.Respelled body body') :
    rejectJoins body' = rejectJoins body := by
  induction h with
  | nil => rfl
  | @cons clause _ _ _ hclause _ ih =>
      cases hclause with
      | same => cases clause <;> first | rfl | exact ih
      | filter hp => exact ih

theorem Model.leadingKey?_respelled (h : List.Forall₂ Clause.Respelled m.body body) :
    ({ m with body := body } : Model).leadingKey? = m.leadingKey? := by
  refine leadingKey?_eq_of_rest ?_
  generalize m.body = body' at h
  induction h with
  | nil => rfl
  | cons hclause _ ih =>
      cases hclause with
      | same => rw [List.filter_cons, List.filter_cons, ih]
      | filter hp => exact ih

theorem Model.predicates_respelled (h : List.Forall₂ Clause.Respelled m.body body) :
    List.Forall₂ Expr.Respelled m.predicates ({ m with body := body } : Model).predicates := by
  unfold predicates
  generalize m.body = body' at h
  induction h with
  | nil => exact .nil
  | @cons clause _ _ _ hclause _ ih =>
      cases hclause with
      | same =>
          cases clause with
          | filter p => exact .cons (.refl p) ih
          | _ => exact ih
      | filter hp => exact .cons hp ih

/-- Conjunctions of predicates in another spelling are in another spelling. -/
theorem Expr.Respelled.foldl_and {first first' : Expr} {rest rest' : List Expr}
    (hfirst : first.Respelled first') (hrest : List.Forall₂ Respelled rest rest') :
    (rest.foldl Expr.and first).Respelled (rest'.foldl Expr.and first') := by
  induction hrest generalizing first first' with
  | nil => exact hfirst
  | cons hsecond _ ih => exact ih (.binary .and hfirst hsecond)

theorem Clauses.withPredicates_respelled (h : List.Forall₂ Clause.Respelled m.body body)
    {c c' : Clauses} : c.withPredicates mapper m = .ok c' ↔
      c.withPredicates mapper { m with body := body } = .ok c' := by
  have hpredicates := Model.predicates_respelled h
  unfold withPredicates
  generalize m.predicates = predicates at hpredicates
  generalize ({ m with body := body } : Model).predicates = predicates' at hpredicates
  cases hpredicates with
  | nil => exact Iff.rfl
  | cons hfirst hrest =>
      have hsame := (Filter.readsAlike_of_respelled mapper m.shape (hfirst.foldl_and hrest)).filter
      simp only [conjunction?, bind_eq_ok_iff, hsame]

/-- What a query compiles to does not hang on the spelling of its predicates. -/
theorem compile_respelled (h : List.Forall₂ Clause.Respelled m.body body) {c : Clauses} :
    compile mapper m = .ok c ↔ compile mapper { m with body := body } = .ok c := by
  have hordering : ∀ d : Clauses,
      d.withOrdering mapper { m with body := body } = d.withOrdering mapper m := by
    intro d
    unfold Clauses.withOrdering
    rw [Model.leadingKey?_respelled h]
  have hoperators : Clauses.withOperator mapper { m with body := body } =
      Clauses.withOperator mapper m := by
    funext d operator
    cases operator <;> rfl
  rw [compile_eq_ok_iff, compile_eq_ok_iff, rejectJoins_respelled h, hoperators]
  simp only [Clauses.withPredicates_respelled h, hordering]

end Bodies

namespace Query

variable {q : Query} {body : List Clause} {line : Line Engine} {ending : Ending}

/-- A query fetches the same with its predicates in another spelling. -/
theorem fetch_respelled (h : List.Forall₂ Clause.Respelled q.model.body body) {f : Fetched} :
    (q.fetch line).1 = .ok f ↔ ((q.withBody body).fetch line).1 = .ok f := by
  have hclauses : ∀ c, q.clauses = .ok c ↔ (q.withBody body).clauses = .ok c :=
    fun c => compile_respelled h
  rw [fetch_ok_iff, fetch_ok_iff]
  simp only [hclauses]
  exact Iff.rfl

/-- A query is finished alike with its predicates in another spelling. -/
theorem finish_respelled (h : List.Forall₂ Clause.Respelled q.model.body body)
    (hruns : ending.runs = true) (a : Answer) :
    (q.finish ending line).1 = .ok a ↔ ((q.withBody body).finish ending line).1 = .ok a := by
  refine finish_agree hruns ?_ a
  rw [ended_withBody]
  exact agreeAt_withBody fun f => fetch_respelled ((q.ended_body ending).symm ▸ h)

end Query

/-- **A comparison selects the same from either side.** Trading two values turns their order around,
and they compare from one side exactly when they do from the other. So a statement has the same
answer with the comparisons of its condition turned around. A predicate with a literal on the left is
accepted with the literal on the right or with neither, and keeps the rows where the literal stands
to the cell as it is written; and a query whose comparisons are turned around, at any depth, is
finished alike in every way that runs it. -/
theorem selects_mirrored :
    (∀ a b : Value, b.compare a = (a.compare b).map Ordering.swap ∧
      (b.compare a = none ↔ a.compare b = none)) ∧
    (∀ (s : Statement) (k k' : Condition), s.condition = some k → k.Mirrored k' →
      ∀ t, Statement.evaluate { s with condition := some k' } t = s.evaluate t) ∧
    (∀ (mapper : Mapper) (shape : ItemShape) (op : Comparison) (l r : Expr) (v : Value) (f : Filter),
      l.IsLiteral v →
        (Filter.ofExpr mapper shape (.binary (.compare op) l r) = .ok f ↔
          Filter.ofExpr mapper shape (.binary (.compare op.flipped) r l) = .ok f) ∧
        (Filter.ofExpr mapper shape (.binary (.compare op) l r) = .ok f →
          ∃ column, r.Names mapper shape column ∧
            (v.isNull = false → ∀ columns row,
              f.condition.holds columns row = Value.satisfies op v (cell columns row column)) ∧
            (v.isNull = true → ∃ negated, op = Comparison.nullTest negated ∧ ∀ columns row,
              f.condition.holds columns row = ((cell columns row column).isNull != negated)))) ∧
    ∀ (q : Query) (body : List Clause), List.Forall₂ Clause.Respelled q.model.body body →
      (∀ c, q.clauses = .ok c ↔ (q.withBody body).clauses = .ok c) ∧
      ∀ (line : Line Engine) (ending : Ending), ending.runs = true → ∀ a,
        (q.finish ending line).1 = .ok a ↔ ((q.withBody body).finish ending line).1 = .ok a := by
  refine ⟨fun a b => ?_, fun s k k' hs h t => h.evaluate hs t,
    fun mapper shape op l r v f hl =>
      ⟨Filter.ofExpr_compare_literal hl, Filter.holds_of_compare_literal hl⟩,
    fun q body h => ⟨fun c => compile_respelled h, fun line ending hruns a =>
      Query.finish_respelled h hruns a⟩⟩
  have hswap := Value.compare_swap a b
  refine ⟨hswap, ?_⟩
  rw [hswap]
  exact Option.map_eq_none_iff

/-- The guests whose age is over 18, with the literal on the left. -/
def overAge : List Clause :=
  [.filter (.binary (.compare .lt) (.literal (.text "18")) (.ofColumn (.named "Age")))]

/-- The guests whose age is over 18, with the literal on the right. -/
def ageOver : List Clause :=
  [.filter (.binary (.compare .gt) (.ofColumn (.named "Age")) (.literal (.text "18")))]

set_option maxRecDepth 1500 in
theorem selects_mirrored_overAge :
    Value.compare (.int 31) (.text "18") = some .gt ∧
      Value.compare (.text "18") (.int 31) = some .lt ∧
      Value.compare (.text "Ann") (.int 18) = none ∧
      Value.compare (.int 18) (.text "Ann") = none ∧
      ((allGuests.withBody ageOver).finish .count guests).1 = .ok (.count 2) ∧
      ((allGuests.withBody overAge).finish .count guests).1 = .ok (.count 2) := by
  obtain ⟨hcompare, -, -, hfinish⟩ := selects_mirrored
  have hgreater : Value.compare (.int 31) (.text "18") = some .gt := by decide +kernel
  have hnone : Value.compare (.text "Ann") (.int 18) = none := by decide +kernel
  have hcount : ((allGuests.withBody overAge).finish .count guests).1 = .ok (.count 2) := by rfl
  have hbody : List.Forall₂ Clause.Respelled (allGuests.withBody overAge).model.body ageOver :=
    .cons (.filter (.flip .lt (by decide))) .nil
  obtain ⟨-, hsame⟩ := hfinish (allGuests.withBody overAge) ageOver hbody
  refine ⟨hgreater, ?_, hnone, (hcompare _ _).2.mpr hnone, (hsame guests .count rfl _).mp hcount,
    hcount⟩
  rw [(hcompare (.int 31) (.text "18")).1, hgreater]
  rfl

end SheetQuery
