import SheetQuery.Proofs.Outcome
import SheetQuery.Statement

/-!
# How compiling fails

A query that has no statement is refused for one of its operators or for one of its expressions.
Nothing else comes up while it is compiled: the source is asked for nothing, so no table and no
column is missed yet, and no value is read.

Main statement: `refuses_compile`.
-/

namespace SheetQuery

open FailsBy

/-- The failure of a query that has no statement. -/
inductive QueryError.IsRefusal : QueryError → Prop where
  | operator (fault : OperatorFault) : IsRefusal (.unsupportedOperator fault)
  | expression (fault : ExpressionFault) : IsRefusal (.unsupportedExpression fault)

/-- The step fails only by refusing something. -/
def Refuses {α : Type} (step : Except QueryError α) : Prop :=
  FailsBy QueryError.IsRefusal step

theorem refuses_unsupported {α : Type} (fault : ExpressionFault) :
    Refuses (unsupported fault : Except QueryError α) :=
  error (.expression fault)

theorem refuses_unsupportedOperator {α : Type} (fault : OperatorFault) :
    Refuses (unsupportedOperator fault : Except QueryError α) :=
  error (.operator fault)

variable {mapper : Mapper} {shape : ItemShape} {m : Model} {c : Clauses}

/-! ## Expressions -/

theorem refuses_checkMainSource (source : Nat) : Refuses (checkMainSource source) := by
  unfold checkMainSource
  split
  · exact ok _
  · exact refuses_unsupported _

theorem refuses_resolveColumn (e : Expr) : Refuses (resolveColumn mapper shape e) := by
  unfold resolveColumn
  split
  · exact (refuses_checkMainSource _).bind fun _ => ok _
  · refine (refuses_checkMainSource _).bind fun _ => ?_
    split
    · exact ok _
    · exact refuses_unsupported _
    · exact refuses_unsupported _
    · exact ok _
  · exact refuses_unsupported _

namespace Filter

theorem refuses_ofOperand (op : Comparison) (e : Expr) :
    Refuses (ofOperand mapper shape op e) := by
  unfold ofOperand
  split
  · exact ok _
  · split
    · exact (refuses_resolveColumn _).map _
    · exact refuses_unsupported _

theorem refuses_ofColumnComparison (access : Expr) (op : Comparison) (other : Expr) :
    Refuses (ofColumnComparison mapper shape access op other) := by
  refine (refuses_resolveColumn access).bind fun column => ?_
  dsimp only
  split
  · split
    · exact ok _
    · exact ok _
    · exact refuses_unsupported _
  · exact (refuses_ofOperand op _).bind fun _ => ok _

theorem refuses_ofComparison (op : Comparison) (left right : Expr) :
    Refuses (ofComparison mapper shape op left right) := by
  unfold ofComparison
  split
  · exact refuses_ofColumnComparison _ _ _
  · split
    · exact refuses_ofColumnComparison _ _ _
    · exact refuses_unsupported _

theorem refuses_argumentText (test : TextTest) (argument : Option Expr) :
    Refuses (argumentText test argument) := by
  unfold argumentText
  split
  · exact ok _
  · exact refuses_unsupported _
  · exact refuses_unsupported _

theorem refuses_ofTest (test : TextTest) (target : Expr) (argument : Option Expr) :
    Refuses (ofTest mapper shape test target argument) := by
  unfold ofTest
  split
  · refine (refuses_resolveColumn target).bind fun column => ?_
    cases test with
    | isNullOrEmpty => exact ok _
    | contains => exact (refuses_argumentText _ argument).bind fun _ => ok _
    | startsWith => exact (refuses_argumentText _ argument).bind fun _ => ok _
    | endsWith => exact (refuses_argumentText _ argument).bind fun _ => ok _
    | equals => exact (refuses_argumentText _ argument).bind fun _ => ok _
  · exact refuses_unsupported _

theorem refuses_ofBareColumn (access : Expr) : Refuses (ofBareColumn mapper shape access) :=
  (refuses_resolveColumn access).map _

/-- By the cases of the function, which go down through conversions, conjunctions, disjunctions and
negations. -/
theorem refuses_ofExpr (e : Expr) : Refuses (ofExpr mapper shape e) := by
  fun_induction ofExpr mapper shape e with
  | case1 kind e ih => exact ih
  | case2 left right ihl ihr => exact ihl.bind fun _ => ihr.bind fun _ => ok _
  | case3 left right ihl ihr => exact ihl.bind fun _ => ihr.bind fun _ => ok _
  | case4 op left right => exact refuses_ofComparison op left right
  | case5 op left right => exact refuses_unsupported _
  | case6 e target argument h => exact (refuses_resolveColumn target).map _
  | case7 e h ih => exact ih.map _
  | case8 test target argument => exact refuses_ofTest test target argument
  | case9 source name => exact refuses_ofBareColumn _
  | case10 source column => exact refuses_ofBareColumn _
  | case11 b => exact ok _
  | case12 e => exact refuses_unsupported _

end Filter

/-! ## Clauses -/

theorem refuses_rejectJoins (body : List Clause) : Refuses (rejectJoins body) := by
  fun_induction rejectJoins body with
  | case1 => exact ok _
  | case2 => exact refuses_unsupportedOperator _
  | case3 => exact refuses_unsupportedOperator _
  | case4 predicate rest ih => exact ih
  | case5 keys rest ih => exact ih

namespace Clauses

theorem refuses_withPredicates : Refuses (c.withPredicates mapper m) := by
  unfold withPredicates
  split
  · exact ok _
  · exact (Filter.refuses_ofExpr _).bind fun _ => ok _

theorem refuses_withOrdering : Refuses (c.withOrdering mapper m) := by
  unfold withOrdering
  split
  · exact ok _
  · exact (refuses_resolveColumn _).bind fun _ => ok _

theorem refuses_overColumn (method : String) (select : String → Sql.Selection) :
    Refuses (c.overColumn mapper m method select) := by
  unfold overColumn
  split
  · split
    · exact (refuses_resolveColumn _).bind fun _ => ok _
    · exact refuses_unsupportedOperator _
  · exact refuses_unsupportedOperator _

theorem refuses_withOperator (operator : Operator) :
    Refuses (withOperator mapper m c operator) := by
  unfold withOperator
  split
  any_goals exact ok _
  any_goals exact refuses_overColumn _ _
  any_goals exact refuses_unsupportedOperator _
  · -- distinct values are those of a column
    split
    · exact refuses_overColumn _ _
    · exact refuses_unsupportedOperator _

theorem refuses_foldlM_withOperator (operators : List Operator) :
    Refuses (operators.foldlM (withOperator mapper m) c) := by
  induction operators generalizing c with
  | nil => exact ok _
  | cons operator rest ih => exact (refuses_withOperator operator).bind fun _ => ih

end Clauses

/-- **Compiling only refuses**: an operator or an expression, whatever the query is. -/
theorem refuses_compile (mapper : Mapper) (m : Model) : Refuses (compile mapper m) :=
  (refuses_rejectJoins m.body).bind fun _ => Clauses.refuses_withPredicates.bind fun _ =>
    Clauses.refuses_withOrdering.bind fun _ => Clauses.refuses_foldlM_withOperator m.operators

end SheetQuery
