import SheetQuery.Proofs.Filter.Redaction

/-!
# Where parameters come from

A predicate has a slot for each parameter of its filter: an operand that is compared with a column,
the argument of a test on text, or a column that stands alone, which is compared with true. The
parameters are those of the slots from left to right. Redacting a predicate leaves it the same slots
without their literals.

Main statements: `Filter.params_of_ofExpr` and `Expr.slots_redacted`.
-/

namespace SheetQuery

/-- The place of a predicate that a parameter comes from: the operand of a comparison, the argument
of a test on text, or a column that stands alone. -/
inductive Slot where
  | operand (value : Value)
  | argument (test : TextTest) (value : Value)
  | flag

/-- The text that a test looks for, as a pattern. -/
def TextTest.pattern : TextTest → String → String
  | .contains, s => "%" ++ s ++ "%"
  | .startsWith, s => s ++ "%"
  | .endsWith, s => "%" ++ s
  | .equals, s | .isNullOrEmpty, s => s

namespace Slot

/-- The parameter in the slot. -/
def param : Slot → Value
  | .operand value => value
  | .argument test value => .text (test.pattern value.display)
  | .flag => .bool true

/-- The literal in the slot. -/
def literal? : Slot → Option Value
  | .operand value | .argument _ value => some value
  | .flag => none

/-- The slot without the value of its literal. -/
def redacted : Slot → Slot
  | .operand _ => .operand (.text "")
  | .argument test _ => .argument test (.text "")
  | .flag => .flag

end Slot

namespace Expr

/-- The slot of an operand, which a missing value has none of. -/
def operandSlots (e : Expr) : List Slot :=
  match e.unwrapped with
  | .literal value => if value.isNull then [] else [.operand value]
  | _ => []

/-- The slot of an argument. -/
def argumentSlots (t : TextTest) (argument : Option Expr) : List Slot :=
  match argument.map unwrapped with
  | some (.literal value) => [.argument t value]
  | _ => []

/-- The slots of a predicate, from left to right. -/
def slots : Expr → List Slot
  | .convert _ e => e.slots
  | .binary .and left right | .binary .or left right => left.slots ++ right.slots
  | .binary (.compare _) left right => left.operandSlots ++ right.operandSlots
  | .not e => e.slots
  | .test .isNullOrEmpty _ _ => []
  | .test t _ argument => argumentSlots t argument
  | .member .. | .column .. => [.flag]
  | _ => []

theorem slots_unwrapped (e : Expr) : e.unwrapped.slots = e.slots := by
  fun_induction unwrapped e with
  | case1 kind e ih => rw [ih, slots]
  | case2 e h => rfl

theorem operandSlots_redactedAt (e : Expr) :
    (e.redactedAt .operand).operandSlots = e.operandSlots.map Slot.redacted := by
  simp only [operandSlots, unwrapped_redactedAt]
  cases e.unwrapped with
  | literal value =>
      rw [redactedAt]
      cases value <;> rfl
  | test t target argument =>
      rw [redactedAt_test]
      rfl
  | _ => simp only [redactedAt, List.map_nil]

theorem argumentSlots_redacted (t : TextTest) (argument : Option Expr) :
    argumentSlots t (argument.map (redactedAt .argument)) =
      (argumentSlots t argument).map Slot.redacted := by
  cases argument with
  | none => rfl
  | some e =>
      simp only [argumentSlots, Option.map, unwrapped_redactedAt]
      cases e.unwrapped with
      | literal value =>
          rw [redactedAt]
          rfl
      | test t target argument =>
          rw [redactedAt_test]
          rfl
      | _ => simp only [redactedAt, List.map_nil]

/-- Redacting an expression redacts its slots. -/
theorem slots_redacted (e : Expr) : e.redacted.slots = e.slots.map Slot.redacted := by
  unfold redacted
  induction e using slots.induct with
  | case1 kind e ih => rw [redactedAt, slots, slots, ih]
  | case2 l r ihl ihr =>
      rw [redactedAt, slots, slots, List.map_append]
      exact congrArg₂ (· ++ ·) ihl ihr
  | case3 l r ihl ihr =>
      rw [redactedAt, slots, slots, List.map_append]
      exact congrArg₂ (· ++ ·) ihl ihr
  | case4 op l r =>
      rw [redactedAt, slots, slots, List.map_append]
      exact congrArg₂ (· ++ ·) (operandSlots_redactedAt l) (operandSlots_redactedAt r)
  | case5 e ih => rw [redactedAt, slots, slots, ih]
  | case6 target argument =>
      rw [redactedAt_test]
      rfl
  | case7 t target argument ht =>
      rw [redactedAt_test, slots, slots, argumentSlots_redacted]
      · exact ht
      · exact ht
  | case8 n name => rw [redactedAt]; rfl
  | case9 n ref => rw [redactedAt]; rfl
  | case10 e hconvert hand hor hcompare hnot hempty htest hmember hcolumn =>
      -- what is left has no slots
      cases e with
      | convert kind e => exact (hconvert kind e rfl).elim
      | binary op l r =>
          cases op with
          | and => exact (hand l r rfl).elim
          | or => exact (hor l r rfl).elim
          | compare op => exact (hcompare op l r rfl).elim
          | arithmetic op =>
              rw [redactedAt]
              rfl
      | not e => exact (hnot e rfl).elim
      | test t target argument => exact (htest t target argument rfl).elim
      | member n name => exact (hmember n name rfl).elim
      | column n ref => exact (hcolumn n ref rfl).elim
      | _ => rw [redactedAt]; rfl

end Expr

namespace Filter

open SheetQuery.Expr

variable {mapper : Mapper} {shape : ItemShape}

theorem operandSlots_of_names {e : Expr} {column : String} (h : e.Names mapper shape column) :
    e.operandSlots = [] := by
  unfold operandSlots
  split
  · next value hvalue =>
      have hnot := (isLiteral_iff.mpr hvalue).not_isColumnAccess
      rw [h.isColumnAccess] at hnot
      cases hnot
  · rfl

theorem operandSlots_of_isLiteral {e : Expr} {value : Value} (h : e.IsLiteral value) :
    e.operandSlots = if value.isNull then [] else [.operand value] := by
  rw [operandSlots, isLiteral_iff.mp h]

theorem params_of_ofColumnComparison {access other : Expr} {op : Comparison} {f : Filter}
    (h : ofColumnComparison mapper shape access op other = .ok f) :
    access.operandSlots = [] ∧ f.params = other.operandSlots.map Slot.param := by
  obtain ⟨column, haccess, hf⟩ := ofColumnComparison_cases h
  refine ⟨operandSlots_of_names haccess, ?_⟩
  rcases hf with ⟨negated, hother, -, rfl⟩ | ⟨v, hother, hv, rfl⟩ | ⟨b, hother, rfl⟩
  · rw [operandSlots_of_isLiteral hother]
    rfl
  · rw [operandSlots_of_isLiteral hother, hv]
    rfl
  · rw [operandSlots_of_names hother]
    rfl

theorem params_of_ofComparison {left right : Expr} {op : Comparison} {f : Filter}
    (h : ofComparison mapper shape op left right = .ok f) :
    f.params = (left.operandSlots ++ right.operandSlots).map Slot.param := by
  unfold ofComparison at h
  split at h
  · obtain ⟨hleft, hf⟩ := params_of_ofColumnComparison h
    rw [hf, hleft, List.nil_append]
  · split at h
    · obtain ⟨hright, hf⟩ := params_of_ofColumnComparison h
      rw [hf, hright, List.append_nil]
    · cases h

theorem params_of_ofTest {test : TextTest} {target : Expr} {argument : Option Expr} {f : Filter}
    (h : ofTest mapper shape test target argument = .ok f) :
    f.params = (Expr.test test target argument).slots.map Slot.param := by
  -- the four tests that look for a text differ in the pattern only
  have hmake : ∀ make : String → Filter,
      (argumentText test argument >>= fun text => .ok (make text)) = .ok f →
        (∀ text, (make text).params = [.text (test.pattern text)]) →
          f.params = (argumentSlots test argument).map Slot.param := by
    intro make h hparams
    obtain ⟨e, v, rfl, hv, rfl⟩ := bind_argumentText_eq_ok h
    rw [argumentSlots, Option.map, isLiteral_iff.mp hv]
    exact hparams v.display
  unfold ofTest at h
  split at h
  · obtain ⟨column, -, h⟩ := bind_eq_ok_iff.mp h
    cases test with
    | isNullOrEmpty =>
        cases h
        rfl
    | contains => exact hmake _ h fun _ => rfl
    | startsWith => exact hmake _ h fun _ => rfl
    | endsWith => exact hmake _ h fun _ => rfl
    | equals => exact hmake _ h fun _ => rfl
  · cases h

/-- **The parameters of a filter are those of the slots of its predicate**, in that order. -/
theorem params_of_ofExpr {e : Expr} {f : Filter} (h : ofExpr mapper shape e = .ok f) :
    f.params = e.slots.map Slot.param := by
  induction e using ofExpr.induct generalizing f with
  | case1 kind e ih =>
      rw [ofExpr] at h
      exact ih h
  | case2 l r ihl ihr =>
      rw [ofExpr] at h
      obtain ⟨a, hl, h⟩ := bind_eq_ok_iff.mp h
      obtain ⟨b, hr, h⟩ := bind_eq_ok_iff.mp h
      cases h
      rw [slots, List.map_append, ← ihl hl, ← ihr hr]
      rfl
  | case3 l r ihl ihr =>
      rw [ofExpr] at h
      obtain ⟨a, hl, h⟩ := bind_eq_ok_iff.mp h
      obtain ⟨b, hr, h⟩ := bind_eq_ok_iff.mp h
      cases h
      rw [slots, List.map_append, ← ihl hl, ← ihr hr]
      rfl
  | case4 op l r =>
      rw [ofExpr] at h
      exact params_of_ofComparison h
  | case5 op l r =>
      rw [ofExpr] at h
      cases h
  | case6 e target argument he =>
      -- a test for emptiness has no slots, and its negation has none either
      simp only [ofExpr, he] at h
      obtain ⟨column, -, rfl⟩ := map_eq_ok_iff.mp h
      rw [slots, ← slots_unwrapped, he]
      rfl
  | case7 e he ih =>
      rw [ofExpr_not (emptinessTarget?_eq_none he)] at h
      obtain ⟨a, hi, rfl⟩ := map_eq_ok_iff.mp h
      rw [slots, ← ih hi]
      rfl
  | case8 test target argument =>
      rw [ofExpr] at h
      exact params_of_ofTest h
  | case9 source name =>
      rw [ofExpr] at h
      obtain ⟨column, -, rfl⟩ := map_eq_ok_iff.mp h
      rfl
  | case10 source column =>
      rw [ofExpr] at h
      obtain ⟨column, -, rfl⟩ := map_eq_ok_iff.mp h
      rfl
  | case11 b =>
      rw [ofExpr] at h
      cases h
      rfl
  | case12 e =>
      rw [ofExpr] at h <;> first | assumption | cases h

end Filter

end SheetQuery
