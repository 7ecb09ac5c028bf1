import SheetQuery.Proofs.Filter.Meaning

/-!
# Literals behind placeholders

A literal that is compared with something, or that a test on text looks for, leaves a placeholder in
the text of a filter and becomes a parameter. Nothing else of the filter depends on it, and neither
does whether there is a filter at all, except that the missing value is no parameter of a
comparison. So predicates that differ in such literals only have filters that differ in their
parameters only.

Main statement: `Filter.ofExpr_redacted`.
-/

namespace SheetQuery

/-! ## Redacting expressions -/

/-- Where an expression stands in the one around it. -/
inductive Place where
  | operand
  | argument
  | elsewhere

/-- What is left of the value of a literal: of an operand of a comparison, whether it is missing; of
an argument of a test on text, nothing. -/
def Value.redactedAt : Place → Value → Value
  | .operand, v => if v.isNull then .null else .text ""
  | .argument, _ => .text ""
  | .elsewhere, v => v

/-- The place of the operands of an operator. -/
def BinaryOp.place (op : BinaryOp) : Place :=
  if op.isComparison then .operand else .elsewhere

mutual

/-- The expression at a place without the values of its literals that are operands of comparisons or
arguments of tests on text. Conversions leave a literal in its place. -/
def Expr.redactedAt (place : Place) : Expr → Expr
  | .source n => .source n
  | .member n name => .member n name
  | .column n ref => .column n ref
  | .literal value => .literal (value.redactedAt place)
  | .binary op left right =>
    .binary op (left.redactedAt op.place) (right.redactedAt op.place)
  | .not e => .not (e.redactedAt .elsewhere)
  | .test t target none => .test t (target.redactedAt .elsewhere) none
  | .test t target (some argument) =>
    .test t (target.redactedAt .elsewhere) (some (argument.redactedAt .argument))
  | .apply function e => .apply function (e.redactedAt .elsewhere)
  | .convert kind e => .convert kind (e.redactedAt place)
  | .record fields => .record (Expr.redactedFields fields)
  | .subquery => .subquery

/-- The fields of a record, redacted. -/
def Expr.redactedFields : List (String × Expr) → List (String × Expr)
  | [] => []
  | (name, e) :: rest => (name, e.redactedAt .elsewhere) :: Expr.redactedFields rest

end

namespace Expr

/-- An expression on its own, redacted. -/
def redacted (e : Expr) : Expr :=
  e.redactedAt .elsewhere

variable {mapper : Mapper} {shape : ItemShape}

theorem redactedAt_test (place : Place) (test : TextTest) (target : Expr) (argument : Option Expr) :
    (Expr.test test target argument).redactedAt place =
      .test test (target.redactedAt .elsewhere) (argument.map (redactedAt .argument)) := by
  cases argument <;> simp only [redactedAt, Option.map]

theorem unwrapped_redactedAt (place : Place) (e : Expr) :
    (e.redactedAt place).unwrapped = e.unwrapped.redactedAt place := by
  fun_induction unwrapped e with
  | case1 kind e ih => rw [redactedAt, unwrapped_convert, ih]
  | case2 e h =>
      cases e with
      | convert kind e => exact absurd rfl (h kind e)
      | test test target argument => simp only [redactedAt_test, unwrapped]
      | _ => simp only [redactedAt, unwrapped]

/-- Below a conversion a literal is hidden like one that stands by itself. -/
example : ((Expr.convert .text (.literal (.int 18))).redactedAt .operand).unwrapped.isNullLiteral =
    false := by
  decide +kernel

@[simp] theorem kindName_redactedAt (place : Place) (e : Expr) :
    (e.redactedAt place).kindName = e.kindName := by
  cases e with
  | test test target argument =>
      rw [redactedAt_test]
      rfl
  | _ => simp only [redactedAt, kindName]

@[simp] theorem isColumnAccess_redactedAt (place : Place) (e : Expr) :
    (e.redactedAt place).isColumnAccess = e.isColumnAccess := by
  simp only [Expr.isColumnAccess, unwrapped_redactedAt]
  cases e.unwrapped with
  | test test target argument => rw [redactedAt_test]
  | _ => rw [redactedAt]

@[simp] theorem resolveColumn_redactedAt (place : Place) (e : Expr) :
    resolveColumn mapper shape (e.redactedAt place) = resolveColumn mapper shape e := by
  simp only [resolveColumn, unwrapped_redactedAt]
  cases e.unwrapped with
  | test test target argument =>
      rw [redactedAt_test]
      rfl
  | _ => simp only [redactedAt, kindName]

/-- Nothing but a literal is redacted to one. -/
theorem exists_literal_of_redactedAt {place : Place} {e : Expr} {value : Value}
    (h : e.redactedAt place = .literal value) : ∃ v, e = .literal v := by
  cases e with
  | literal v => exact ⟨v, rfl⟩
  | test test target argument =>
      rw [redactedAt_test] at h
      cases h
  | _ =>
      rw [redactedAt] at h
      cases h

/-- A test for emptiness stays one. -/
theorem emptinessTarget?_redactedAt (place : Place) (e : Expr) :
    (e.redactedAt place).emptinessTarget? =
      e.emptinessTarget?.map (redactedAt .elsewhere) := by
  simp only [emptinessTarget?, unwrapped_redactedAt]
  cases e.unwrapped with
  | test test target argument =>
      rw [redactedAt_test]
      cases test <;> rfl
  | _ => simp only [redactedAt, Option.map]

/-- An operand stays the missing value, or another one. -/
theorem isNullLiteral_redactedAt (e : Expr) :
    (e.redactedAt .operand).isNullLiteral = e.isNullLiteral := by
  cases e with
  | literal value =>
      rw [redactedAt]
      cases value <;> rfl
  | test test target argument =>
      rw [redactedAt_test]
      rfl
  | _ => simp only [redactedAt, isNullLiteral]

/-- Zero is hidden, and it is not missing afterwards. -/
example : ((Expr.literal (.int 0)).redactedAt .operand).isNullLiteral = false := by
  decide +kernel

end Expr

/-! ## Redacting filters -/

/-- The operand without the value of a parameter. -/
def FilterOperand.redacted : FilterOperand → FilterOperand
  | .parameter _ => .parameter .null
  | .column name => .column name

namespace Filter

/-- The filter without the values of its parameters. -/
def redacted : Filter → Filter
  | .and left right => .and left.redacted right.redacted
  | .or left right => .or left.redacted right.redacted
  | .not inner => .not inner.redacted
  | .compare column op operand => .compare column op operand.redacted
  | .like column _ => .like column ""
  | f => f

/-- The text of a filter does not show its parameters. -/
theorem chars_redacted (f : Filter) : f.redacted.chars = f.chars := by
  induction f with
  | and l r ihl ihr => simp only [redacted, chars, ihl, ihr]
  | or l r ihl ihr => simp only [redacted, chars, ihl, ihr]
  | not inner ih => simp only [redacted, chars, ih]
  | compare column op operand => cases operand <;> rfl
  | _ => rfl

/-- A condition on adults reads like one on anybody. -/
example : (Filter.compare "Age" .ge (.parameter (.int 18))).redacted.chars =
    "([Age] >= ?)".toList := by
  decide +kernel

theorem columns_redacted (f : Filter) : f.redacted.columns = f.columns := by
  induction f with
  | and l r ihl ihr => simp only [redacted, columns, ihl, ihr]
  | or l r ihl ihr => simp only [redacted, columns, ihl, ihr]
  | not inner ih => simp only [redacted, columns, ih]
  | compare column op operand => cases operand <;> rfl
  | _ => rfl

open SheetQuery.Expr

variable {mapper : Mapper} {shape : ItemShape}

theorem ofOperand_of_not_literal {e : Expr} (h : ¬ ∃ value, e = .literal value) (op : Comparison) :
    ofOperand mapper shape op e =
      if e.isColumnAccess then (resolveColumn mapper shape e).map .column
      else unsupported (.operand e.kindName op) := by
  unfold ofOperand
  split
  · next value => exact absurd ⟨value, rfl⟩ h
  · rfl

theorem ofOperand_redacted (op : Comparison) (e : Expr) :
    (ofOperand mapper shape op (e.redactedAt .operand)).map FilterOperand.redacted =
      (ofOperand mapper shape op e).map FilterOperand.redacted := by
  by_cases hliteral : ∃ value, e = .literal value
  · obtain ⟨value, rfl⟩ := hliteral
    rw [redactedAt]
    rfl
  · have hredacted : ¬ ∃ value, e.redactedAt .operand = .literal value := by
      rintro ⟨value, h⟩
      exact hliteral (exists_literal_of_redactedAt h)
    rw [ofOperand_of_not_literal hliteral, ofOperand_of_not_literal hredacted,
      isColumnAccess_redactedAt, resolveColumn_redactedAt, kindName_redactedAt]

theorem ofColumnComparison_redacted (access other : Expr) (op : Comparison) :
    (ofColumnComparison mapper shape (access.redactedAt .operand) op
        (other.redactedAt .operand)).map redacted =
      (ofColumnComparison mapper shape access op other).map redacted := by
  simp only [ofColumnComparison, resolveColumn_redactedAt, unwrapped_redactedAt,
    isNullLiteral_redactedAt]
  cases resolveColumn mapper shape access with
  | error e => rfl
  | ok column =>
      simp only [ok_bind]
      split
      · rfl
      · refine map_bind_congr (ofOperand_redacted op other.unwrapped) fun a b hab => ?_
        show Except.ok (Filter.compare column op a.redacted) = .ok (.compare column op b.redacted)
        rw [hab]

theorem ofComparison_redacted (op : Comparison) (left right : Expr) :
    (ofComparison mapper shape op (left.redactedAt .operand) (right.redactedAt .operand)).map
        redacted =
      (ofComparison mapper shape op left right).map redacted := by
  simp only [ofComparison, isColumnAccess_redactedAt, kindName_redactedAt]
  split
  · exact ofColumnComparison_redacted left right op
  · split
    · exact ofColumnComparison_redacted right left op.flipped
    · rfl

theorem argumentText_of_not_literal {e : Expr} (h : ¬ ∃ value, e.unwrapped = .literal value)
    (test : TextTest) : argumentText test (some e) =
      unsupported (.nonConstantArgument e.unwrapped.kindName test) := by
  unfold argumentText
  split
  · next value hvalue => exact absurd ⟨value, Option.some.inj hvalue⟩ h
  · next hunwrapped => rw [Option.some.inj hunwrapped]
  · next hnone => cases hnone

/-- Whether a test has a text to look for does not depend on the text. -/
theorem argumentText_redacted (test : TextTest) (argument : Option Expr) :
    (argumentText test (argument.map (redactedAt .argument))).map (fun _ => ()) =
      (argumentText test argument).map fun _ => () := by
  cases argument with
  | none => rfl
  | some e =>
      show (argumentText test (some (e.redactedAt .argument))).map _ = _
      by_cases hliteral : ∃ value, e.unwrapped = .literal value
      · obtain ⟨value, hvalue⟩ := hliteral
        simp only [argumentText, Option.map, unwrapped_redactedAt, hvalue, redactedAt]
        rfl
      · have hredacted : ¬ ∃ value, (e.redactedAt .argument).unwrapped = .literal value := by
          rintro ⟨value, h⟩
          rw [unwrapped_redactedAt] at h
          exact hliteral (exists_literal_of_redactedAt h)
        rw [argumentText_of_not_literal hliteral, argumentText_of_not_literal hredacted,
          unwrapped_redactedAt, kindName_redactedAt]

theorem ofTest_redacted (test : TextTest) (target : Expr) (argument : Option Expr) :
    (ofTest mapper shape test (target.redactedAt .elsewhere)
        (argument.map (redactedAt .argument))).map redacted =
      (ofTest mapper shape test target argument).map redacted := by
  have hmake : ∀ make : String → Filter, (∀ a b, (make a).redacted = (make b).redacted) →
      (argumentText test (argument.map (redactedAt .argument)) >>= fun text =>
        .ok (make text)).map redacted =
      (argumentText test argument >>= fun text => .ok (make text)).map redacted :=
    fun make h => map_bind_congr (argumentText_redacted test argument) fun a b _ =>
      congrArg Except.ok (h a b)
  simp only [ofTest, isColumnAccess_redactedAt, kindName_redactedAt, resolveColumn_redactedAt]
  split
  · cases resolveColumn mapper shape target with
    | error e => rfl
    | ok column =>
        cases test with
        | isNullOrEmpty => rfl
        | contains => exact hmake (fun text => .like column ("%" ++ text ++ "%")) fun _ _ => rfl
        | startsWith => exact hmake (fun text => .like column (text ++ "%")) fun _ _ => rfl
        | endsWith => exact hmake (fun text => .like column ("%" ++ text)) fun _ _ => rfl
        | equals =>
            exact hmake (fun text => .compare column .eq (.parameter (.text text))) fun _ _ => rfl
  · rfl

/-- **Whether a predicate has a filter, and which up to its parameters, does not depend on the
literals that become parameters**; neither does the reason why it has none. -/
theorem ofExpr_redacted (e : Expr) :
    (ofExpr mapper shape e.redacted).map redacted = (ofExpr mapper shape e).map redacted := by
  unfold Expr.redacted
  induction e using ofExpr.induct with
  | case1 kind e ih => rw [redactedAt, ofExpr, ofExpr, ih]
  | case2 l r ihl ihr =>
      rw [redactedAt, ofExpr, ofExpr]
      refine map_bind_congr ihl fun a a' ha => map_bind_congr ihr fun b b' hb => ?_
      exact congrArg Except.ok (congrArg₂ Filter.and ha hb)
  | case3 l r ihl ihr =>
      rw [redactedAt, ofExpr, ofExpr]
      refine map_bind_congr ihl fun a a' ha => map_bind_congr ihr fun b b' hb => ?_
      exact congrArg Except.ok (congrArg₂ Filter.or ha hb)
  | case4 op l r =>
      rw [redactedAt, ofExpr, ofExpr]
      exact ofComparison_redacted op l r
  | case5 op l r => rw [redactedAt, ofExpr, ofExpr]
  | case6 e target argument he =>
      rw [redactedAt]
      simp only [ofExpr, unwrapped_redactedAt, he, redactedAt_test, resolveColumn_redactedAt]
  | case7 e he ih =>
      have hnone := emptinessTarget?_eq_none he
      have hredacted : (e.redactedAt .elsewhere).emptinessTarget? = none := by
        rw [emptinessTarget?_redactedAt, hnone]
        rfl
      rw [redactedAt, ofExpr_not hnone, ofExpr_not hredacted]
      exact map_bind_congr ih fun a b hab => congrArg (Except.ok ∘ Filter.not) hab
  | case8 test target argument =>
      rw [redactedAt_test, ofExpr, ofExpr]
      exact ofTest_redacted test target argument
  | case9 source name => rw [redactedAt]
  | case10 source column => rw [redactedAt]
  | case11 b =>
      rw [redactedAt]
      rfl
  | case12 e hconvert hand hor hcompare harithmetic hnot htest hmember hcolumn =>
      -- what is left has no filter, and the reason names the shape only
      cases e with
      | convert kind e => exact (hconvert kind e rfl).elim
      | binary op l r =>
          cases op with
          | and => exact (hand l r rfl).elim
          | or => exact (hor l r rfl).elim
          | compare op => exact (hcompare op l r rfl).elim
          | arithmetic op => exact (harithmetic op l r rfl).elim
      | not e => exact (hnot e rfl).elim
      | test test target argument => exact (htest test target argument rfl).elim
      | member n name => exact (hmember n name rfl).elim
      | column n ref => exact (hcolumn n ref rfl).elim
      | source n => rw [redactedAt]
      | literal value =>
          rw [redactedAt]
          rfl
      | apply function e =>
          rw [redactedAt]
          rfl
      | record fields =>
          rw [redactedAt]
          rfl
      | subquery => rw [redactedAt]

end Filter

end SheetQuery
