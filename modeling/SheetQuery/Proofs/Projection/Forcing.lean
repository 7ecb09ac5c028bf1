import SheetQuery.Proofs.Compile.Filtering
import SheetQuery.Proofs.Materialize.Cells

/-!
# Operands of selectors are all evaluated

A selector has a value on an item only where each of its parts has one, however deep it stands: also
the right operand of a conjunction whose left one is false already, and of a disjunction whose left
one is true. The truth value that the left operand settles comes out as soon as the right one is
evaluated, whatever its value is; a failure of the right one is the failure of the whole.

Main statements: `Expr.exists_evaluate_part` and `Projector.applyTo_settled`.
-/

namespace SheetQuery

namespace Expr

/-! ## Parts of an expression -/

/-- An expression that stands in another one at any depth, or is the whole of it. -/
inductive IsPartOf (part : Expr) : Expr → Prop where
  | whole : IsPartOf part part
  | left {op : BinaryOp} {l r : Expr} (h : IsPartOf part l) : IsPartOf part (.binary op l r)
  | right {op : BinaryOp} {l r : Expr} (h : IsPartOf part r) : IsPartOf part (.binary op l r)
  | negated {e : Expr} (h : IsPartOf part e) : IsPartOf part (.not e)
  | target {t : TextTest} {e : Expr} {argument : Option Expr} (h : IsPartOf part e) :
      IsPartOf part (.test t e argument)
  | argument {t : TextTest} {target e : Expr} (h : IsPartOf part e) :
      IsPartOf part (.test t target (some e))
  | applied {f : TextFunction} {e : Expr} (h : IsPartOf part e) : IsPartOf part (.apply f e)
  | converted {kind : Kind} {e : Expr} (h : IsPartOf part e) : IsPartOf part (.convert kind e)
  | field {fields : List (String × Expr)} {name : String} {e : Expr} (hfield : (name, e) ∈ fields)
      (h : IsPartOf part e) : IsPartOf part (.record fields)

variable {b : Bindings}

/-- The fields of a record have values only where each of them has one. -/
theorem exists_evaluate_of_mem {fields : List (String × Expr)} {values : List (String × Value)}
    (hvalues : evaluateFields b fields = .ok values) {name : String} {e : Expr}
    (he : (name, e) ∈ fields) : ∃ v, e.evaluate b = .ok v := by
  induction fields generalizing values with
  | nil => cases he
  | cons first rest ih =>
      obtain ⟨firstName, firstValue⟩ := first
      rw [evaluateFields] at hvalues
      obtain ⟨v, hv, hvalues⟩ := bind_eq_ok_iff.mp hvalues
      obtain ⟨vs, hvs, -⟩ := bind_eq_ok_iff.mp hvalues
      cases he with
      | head => exact ⟨v, hv⟩
      | tail _ he => exact ih hvs he

/-- **An expression has a value only where all its parts have one.** -/
theorem exists_evaluate_part {part e : Expr} (hpart : part.IsPartOf e) {v : Value}
    (hv : e.evaluate b = .ok v) : ∃ w, part.evaluate b = .ok w := by
  induction hpart generalizing v with
  | whole => exact ⟨v, hv⟩
  | left _ ih =>
      rw [evaluate] at hv
      obtain ⟨_, hl, -⟩ := bind_eq_ok_iff.mp hv
      exact ih hl
  | right _ ih =>
      rw [evaluate] at hv
      obtain ⟨_, -, hv⟩ := bind_eq_ok_iff.mp hv
      obtain ⟨_, hr, -⟩ := bind_eq_ok_iff.mp hv
      exact ih hr
  | negated _ ih =>
      rw [evaluate] at hv
      obtain ⟨_, he, -⟩ := map_eq_ok_iff.mp hv
      exact ih he
  | @target _ _ argument _ ih =>
      cases argument with
      | none =>
          rw [evaluate] at hv
          obtain ⟨_, he, -⟩ := map_eq_ok_iff.mp hv
          exact ih he
      | some argument =>
          rw [evaluate] at hv
          obtain ⟨_, he, -⟩ := bind_eq_ok_iff.mp hv
          exact ih he
  | argument _ ih =>
      rw [evaluate] at hv
      obtain ⟨_, -, hv⟩ := bind_eq_ok_iff.mp hv
      obtain ⟨_, he, -⟩ := bind_eq_ok_iff.mp hv
      exact ih he
  | applied _ ih =>
      rw [evaluate] at hv
      obtain ⟨_, he, -⟩ := map_eq_ok_iff.mp hv
      exact ih he
  | converted _ ih =>
      rw [evaluate] at hv
      obtain ⟨_, he, -⟩ := bind_eq_ok_iff.mp hv
      exact ih he
  | field hfield _ ih =>
      rw [evaluate] at hv
      obtain ⟨_, hfields, -⟩ := map_eq_ok_iff.mp hv
      obtain ⟨_, he⟩ := exists_evaluate_of_mem hfields hfield
      exact ih he

/-! ## Settled truth values -/

/-- A conjunction with a false left operand is false where the right one has a value, and fails as
the right one does elsewhere. -/
theorem evaluate_and_of_falsy {l r : Expr} {v : Value} (hl : l.evaluate b = .ok v)
    (hv : v.isTruthy = false) :
    (Expr.binary .and l r).evaluate b = (r.evaluate b).map fun _ => .bool false := by
  rw [evaluate, hl, ok_bind]
  cases r.evaluate b with
  | error fault => rfl
  | ok w => simp [Value.binary, hv, Except.map]

/-- A disjunction with a true left operand is true where the right one has a value, and fails as the
right one does elsewhere. -/
theorem evaluate_or_of_truthy {l r : Expr} {v : Value} (hl : l.evaluate b = .ok v)
    (hv : v.isTruthy = true) :
    (Expr.binary .or l r).evaluate b = (r.evaluate b).map fun _ => .bool true := by
  rw [evaluate, hl, ok_bind]
  cases r.evaluate b with
  | error fault => rfl
  | ok w => simp [Value.binary, hv, Except.map]

theorem checkSelector_binary (op : BinaryOp) {l r : Expr} (hl : l.checkSelector = .ok ())
    (hr : r.checkSelector = .ok ()) : (Expr.binary op l r).checkSelector = .ok () := by
  rw [checkSelector, hl, ok_bind, hr]

end Expr

namespace Projector

theorem checkSelector_of_ofExpr {e : Expr} {projector : Projector}
    (h : ofExpr e = .ok projector) : e.checkSelector = .ok () := by
  rw [← selector_of_ofExpr h]
  exact projector.isSelector

theorem applyTo_eq_evaluate {e : Expr} {projector : Projector} (h : ofExpr e = .ok projector)
    (item : Item) : projector.applyTo item = e.evaluate (.main item) := by
  rw [applyTo, apply, selector_of_ofExpr h]

/-- **A settled connective still evaluates its right operand.** Where two selectors compile, so do
their conjunction and their disjunction. On an item whose left operand settles the truth value, it
comes out exactly where the right operand has a value, and its failure is the failure of the
connective; and every selector that the right operand stands in, at any depth, fails where it
fails. -/
theorem applyTo_settled {l r : Expr} {left right : Projector} (hleft : ofExpr l = .ok left)
    (hright : ofExpr r = .ok right) :
    ∃ both either, ofExpr (.binary .and l r) = .ok both ∧
      ofExpr (.binary .or l r) = .ok either ∧ ∀ item,
        (∀ v, left.applyTo item = .ok v →
          (v.isTruthy = false →
            both.applyTo item = (right.applyTo item).map fun _ => .bool false) ∧
          (v.isTruthy = true →
            either.applyTo item = (right.applyTo item).map fun _ => .bool true)) ∧
        ∀ fault, right.applyTo item = .error fault → ∀ e whole, ofExpr e = .ok whole →
          r.IsPartOf e → ∃ fault', whole.applyTo item = .error fault' := by
  have hl := checkSelector_of_ofExpr hleft
  have hr := checkSelector_of_ofExpr hright
  have hboth := ofExpr_eq (Expr.checkSelector_binary .and hl hr)
  have heither := ofExpr_eq (Expr.checkSelector_binary .or hl hr)
  refine ⟨_, _, hboth, heither, fun item => ⟨fun v hv => ⟨?_, ?_⟩, ?_⟩⟩
  · intro hfalsy
    rw [applyTo_eq_evaluate hleft] at hv
    rw [applyTo_eq_evaluate hboth, applyTo_eq_evaluate hright]
    exact Expr.evaluate_and_of_falsy hv hfalsy
  · intro htruthy
    rw [applyTo_eq_evaluate hleft] at hv
    rw [applyTo_eq_evaluate heither, applyTo_eq_evaluate hright]
    exact Expr.evaluate_or_of_truthy hv htruthy
  · intro fault hfault e whole hwhole hpart
    rw [applyTo_eq_evaluate hright] at hfault
    rw [applyTo_eq_evaluate hwhole]
    refine exists_error_iff.mpr fun v hv => ?_
    obtain ⟨w, hw⟩ := Expr.exists_evaluate_part hpart hv
    rw [hfault] at hw
    cases hw

end Projector

/-- The divisor is not zero. -/
def divisorGiven : Expr :=
  .binary (.compare .ne) (.ofColumn (.named "Divisor")) (.literal (.int 0))

/-- Ten by the divisor is more than one. -/
def quotientAboveOne : Expr :=
  .binary (.compare .gt)
    (.binary (.arithmetic .div) (.literal (.int 10)) (.ofColumn (.named "Divisor")))
    (.literal (.int 1))

/-- A row with a divisor. -/
def withDivisor (divisor : Int64) : Item :=
  .row ⟨["Divisor"], [.int divisor]⟩

/-- A quotient in a record, guarded by the test of its divisor. -/
def guardedQuotient : Expr :=
  .record [("Large", .not (.binary .and divisorGiven quotientAboveOne))]

/-- On a zero the guarded quotient fails by its division, and the record around it fails, too. -/
theorem applyTo_settled_divided : ∃ both, Projector.ofExpr
      (.binary .and divisorGiven quotientAboveOne) = .ok both ∧
    both.applyTo (withDivisor 0) = .error (.unsupportedExpression (.arithmetic .div)) ∧
    ∃ whole, Projector.ofExpr guardedQuotient = .ok whole ∧
      ∃ fault, whole.applyTo (withDivisor 0) = .error fault := by
  have hwhole := Projector.ofExpr_eq (p := guardedQuotient) rfl
  have hpart : quotientAboveOne.IsPartOf guardedQuotient :=
    .field (List.mem_singleton_self _) (.negated (.right .whole))
  have hfault : (⟨quotientAboveOne, rfl⟩ : Projector).applyTo (withDivisor 0) =
      .error (.unsupportedExpression (.arithmetic .div)) := rfl
  obtain ⟨both, _, hboth, -, hsettled⟩ := Projector.applyTo_settled
    (Projector.ofExpr_eq (p := divisorGiven) rfl) (Projector.ofExpr_eq (p := quotientAboveOne) rfl)
  obtain ⟨hvalue, hfails⟩ := hsettled (withDivisor 0)
  refine ⟨both, hboth, ?_, _, hwhole, hfails _ hfault _ _ hwhole hpart⟩
  rw [(hvalue (.bool false) rfl).1 rfl, hfault]
  rfl

/-- The left operand does not protect the right one: neither a conjunction nor a disjunction whose
truth value is settled comes out of itself. -/
theorem not_settled_of_left :
    (¬ ∀ (l r : Expr) (left right both : Projector) (item : Item) (v : Value),
      Projector.ofExpr l = .ok left → Projector.ofExpr r = .ok right →
        Projector.ofExpr (.binary .and l r) = .ok both → left.applyTo item = .ok v →
        v.isTruthy = false → both.applyTo item = .ok (.bool false)) ∧
    ¬ ∀ (l r : Expr) (left right either : Projector) (item : Item) (v : Value),
      Projector.ofExpr l = .ok left → Projector.ofExpr r = .ok right →
        Projector.ofExpr (.binary .or l r) = .ok either → left.applyTo item = .ok v →
        v.isTruthy = true → either.applyTo item = .ok (.bool true) := by
  constructor
  · intro h
    have hboth := h divisorGiven quotientAboveOne _ _ _ (withDivisor 0) _ (Projector.ofExpr_eq rfl)
      (Projector.ofExpr_eq rfl) (Projector.ofExpr_eq rfl) rfl rfl
    cases hboth
  · intro h
    have heither := h (.not divisorGiven) quotientAboveOne _ _ _ (withDivisor 0) _
      (Projector.ofExpr_eq rfl) (Projector.ofExpr_eq rfl) (Projector.ofExpr_eq rfl) rfl rfl
    cases heither

end SheetQuery
