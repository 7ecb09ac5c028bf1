import SheetQuery.Proofs.Decimal.Words
import SheetQuery.Proofs.Projection.Forcing

/-!
# Calculations with whole numbers

A selector that adds, subtracts, multiplies and divides whole numbers from literals and columns has
its exact value, as long as the exact value of each of its parts is a 64-bit word. Otherwise some
operation on two words has no word as its result, because it leaves the range or divides by zero,
and the selector fails by that operation: it never wraps around, also where a later operation would
lead back into the range.

Main statement: `Projector.applyTo_calculation`.
-/

namespace SheetQuery

open Decimal

namespace Expr

/-! ## Exact values -/

/-- An expression of the four operations over whole numbers, columns and members. -/
inductive IsCalculation : Expr → Prop where
  | literal (i : Int64) : IsCalculation (.literal (.int i))
  | column (c : ColumnRef) : IsCalculation (.column mainSource c)
  | member (name : String) : IsCalculation (.member mainSource name)
  | operation (op : Arithmetic) {l r : Expr} (hl : IsCalculation l) (hr : IsCalculation r) :
      IsCalculation (.binary (.arithmetic op) l r)

/-- The columns and members in an expression are whole numbers on the item. -/
structure HasWholeColumns (e : Expr) (item : Item) : Prop where
  column : ∀ c, (Expr.column mainSource c).IsPartOf e → ∃ i, item.column c = .ok (.int i)
  member : ∀ name, (Expr.member mainSource name).IsPartOf e →
    ∃ i, item.member name = .ok (.int i)

/-- **The exact value of an expression** on an item, whatever its size. Division goes toward zero;
by zero there is none. -/
inductive IsExactly (item : Item) : Expr → Int → Prop where
  | literal (i : Int64) : IsExactly item (.literal (.int i)) i.toInt
  | column {c : ColumnRef} {i : Int64} (h : item.column c = .ok (.int i)) :
      IsExactly item (.column mainSource c) i.toInt
  | member {name : String} {i : Int64} (h : item.member name = .ok (.int i)) :
      IsExactly item (.member mainSource name) i.toInt
  | sum {l r : Expr} {m n : Int} (hl : IsExactly item l m) (hr : IsExactly item r n) :
      IsExactly item (.binary (.arithmetic .add) l r) (m + n)
  | difference {l r : Expr} {m n : Int} (hl : IsExactly item l m) (hr : IsExactly item r n) :
      IsExactly item (.binary (.arithmetic .sub) l r) (m - n)
  | product {l r : Expr} {m n : Int} (hl : IsExactly item l m) (hr : IsExactly item r n) :
      IsExactly item (.binary (.arithmetic .mul) l r) (m * n)
  | quotient {l r : Expr} {m n : Int} (hl : IsExactly item l m) (hr : IsExactly item r n)
      (hn : n ≠ 0) : IsExactly item (.binary (.arithmetic .div) l r) (m.tdiv n)

/-- The exact value is there and is a word. -/
def IsWordOn (item : Item) (e : Expr) : Prop :=
  ∃ n, e.IsExactly item n ∧ IsWord n

variable {item : Item} {e l r part : Expr} {op : Arithmetic} {i j : Int64} {m n k : Int}

/-- There is one exact value at most. -/
theorem IsExactly.unique (h : e.IsExactly item m) (h' : e.IsExactly item n) : m = n := by
  induction h generalizing n with
  | literal i =>
      cases h'
      rfl
  | column hi =>
      cases h' with
      | column hj =>
          cases hi.symm.trans hj
          rfl
  | member hi =>
      cases h' with
      | member hj =>
          cases hi.symm.trans hj
          rfl
  | sum _ _ ihl ihr =>
      cases h' with
      | sum hl hr => rw [ihl hl, ihr hr]
  | difference _ _ ihl ihr =>
      cases h' with
      | difference hl hr => rw [ihl hl, ihr hr]
  | product _ _ ihl ihr =>
      cases h' with
      | product hl hr => rw [ihl hl, ihr hr]
  | quotient _ _ _ ihl ihr =>
      cases h' with
      | quotient hl hr _ => rw [ihl hl, ihr hr]

/-- The exact value of an operation is the exact result on those of its operands. -/
theorem isExactly_operation_iff (hl : l.IsExactly item m) (hr : r.IsExactly item n) :
    (Expr.binary (.arithmetic op) l r).IsExactly item k ↔
      Value.exactArithmetic op m n = some k := by
  constructor
  · intro h
    cases h with
    | sum hl' hr' => rw [hl.unique hl', hr.unique hr', Value.exactArithmetic]
    | difference hl' hr' => rw [hl.unique hl', hr.unique hr', Value.exactArithmetic]
    | product hl' hr' => rw [hl.unique hl', hr.unique hr', Value.exactArithmetic]
    | quotient hl' hr' hzero =>
        rw [hl.unique hl', hr.unique hr', Value.exactArithmetic, if_neg hzero]
  · intro h
    cases op with
    | add =>
        cases h
        exact .sum hl hr
    | sub =>
        cases h
        exact .difference hl hr
    | mul =>
        cases h
        exact .product hl hr
    | div =>
        rw [Value.exactArithmetic] at h
        split at h
        · cases h
        · next hzero =>
            cases h
            exact .quotient hl hr hzero

/-! ## One operation -/

/-- On two whole numbers an operator computes with words. -/
theorem evaluate_operation {b : Bindings} (hl : l.evaluate b = .ok (.int i))
    (hr : r.evaluate b = .ok (.int j)) :
    (Expr.binary (.arithmetic op) l r).evaluate b = Value.wordArithmetic op i j := by
  rw [evaluate, hl, ok_bind, hr, ok_bind]
  cases op <;> rfl

/-- **One operation is exact or fails.** -/
theorem evaluate_operation_exactly (op : Arithmetic) {b : Bindings}
    (hl : l.evaluate b = .ok (.int i)) (hr : r.evaluate b = .ok (.int j))
    (hm : l.IsExactly item i.toInt) (hn : r.IsExactly item j.toInt) :
    (∃ k : Int64, (Expr.binary (.arithmetic op) l r).evaluate b = .ok (.int k) ∧
      (Expr.binary (.arithmetic op) l r).IsExactly item k.toInt) ∨
    (¬ (Expr.binary (.arithmetic op) l r).IsWordOn item ∧
      (Expr.binary (.arithmetic op) l r).evaluate b =
        .error (.unsupportedExpression (.arithmetic op))) := by
  rw [evaluate_operation hl hr, Value.wordArithmetic]
  cases hresult : Value.exactArithmetic op i.toInt j.toInt with
  | none =>
      refine .inr ⟨?_, rfl⟩
      rintro ⟨k, hk, -⟩
      rw [isExactly_operation_iff hm hn, hresult] at hk
      cases hk
  | some k =>
      have hk := (isExactly_operation_iff hm hn).mpr hresult
      by_cases hword : IsWord k
      · obtain ⟨w, hw⟩ := exists_word?_iff.mpr hword
        refine .inl ⟨w, ?_, ?_⟩
        · rw [Option.bind_some, hw]
        · rwa [toInt_of_word? hw]
      · refine .inr ⟨?_, ?_⟩
        · rintro ⟨n, hn', hrange⟩
          rw [hk.unique hn'] at hword
          exact hword hrange
        · rw [Option.bind_some, word?_eq_none hword]
          rfl

/-! ## Whole expressions -/

theorem isPartOf_binary_iff {op : BinaryOp} : part.IsPartOf (.binary op l r) ↔
    part = .binary op l r ∨ part.IsPartOf l ∨ part.IsPartOf r := by
  constructor
  · intro h
    cases h with
    | whole => exact .inl rfl
    | left h => exact .inr (.inl h)
    | right h => exact .inr (.inr h)
  · rintro (rfl | h | h)
    · exact .whole
    · exact .left h
    · exact .right h

theorem HasWholeColumns.left {op : BinaryOp} (h : HasWholeColumns (.binary op l r) item) :
    l.HasWholeColumns item :=
  ⟨fun c hc => h.column c (.left hc), fun name hname => h.member name (.left hname)⟩

theorem HasWholeColumns.right {op : BinaryOp} (h : HasWholeColumns (.binary op l r) item) :
    r.HasWholeColumns item :=
  ⟨fun c hc => h.column c (.right hc), fun name hname => h.member name (.right hname)⟩

/-- What an expression comes to on an item: its exact value, with words all the way, or the failure
of an operation on two words whose result is none. -/
inductive ComesTo (item : Item) (e : Expr) : Except QueryError Value → Prop where
  | exact {i : Int64} (hvalue : e.IsExactly item i.toInt)
      (hparts : ∀ part : Expr, part.IsPartOf e → part.IsWordOn item) : ComesTo item e (.ok (.int i))
  | fault {op : Arithmetic} {l r : Expr}
      (hpart : (Expr.binary (.arithmetic op) l r).IsPartOf e) (hl : l.IsWordOn item)
      (hr : r.IsWordOn item) (hnone : ¬ (Expr.binary (.arithmetic op) l r).IsWordOn item) :
      ComesTo item e (.error (.unsupportedExpression (.arithmetic op)))

/-- An expression without further parts comes to its exact value. -/
theorem ComesTo.leaf (hvalue : e.IsExactly item i.toInt)
    (hself : ∀ part : Expr, part.IsPartOf e → part = e) : ComesTo item e (.ok (.int i)) := by
  refine .exact hvalue fun part hpart => ?_
  rw [hself part hpart]
  exact ⟨_, hvalue, isWord_toInt i⟩

/-- **Every calculation is exact or fails** by one of its operations. -/
theorem IsCalculation.comes (he : e.IsCalculation) (hitem : e.HasWholeColumns item) :
    ComesTo item e (e.evaluate (.main item)) := by
  induction he with
  | literal i =>
      rw [evaluate]
      refine .leaf (.literal i) fun part hpart => ?_
      cases hpart
      rfl
  | column c =>
      obtain ⟨i, hi⟩ := hitem.column c .whole
      have hvalue : (Expr.column mainSource c).evaluate (.main item) = .ok (.int i) := hi
      rw [hvalue]
      refine .leaf (.column hi) fun part hpart => ?_
      cases hpart
      rfl
  | member name =>
      obtain ⟨i, hi⟩ := hitem.member name .whole
      have hvalue : (Expr.member mainSource name).evaluate (.main item) = .ok (.int i) := hi
      rw [hvalue]
      refine .leaf (.member hi) fun part hpart => ?_
      cases hpart
      rfl
  | @operation op l r _ _ ihl ihr =>
      have hleft := ihl hitem.left
      generalize hl : l.evaluate (.main item) = x at hleft
      cases hleft with
      | fault hpart hwords hwords' hnone =>
          rw [evaluate, hl, error_bind]
          exact .fault (.left hpart) hwords hwords' hnone
      | @exact i hi hparts =>
          have hright := ihr hitem.right
          generalize hr : r.evaluate (.main item) = y at hright
          cases hright with
          | fault hpart hwords hwords' hnone =>
              rw [evaluate, hl, ok_bind, hr, error_bind]
              exact .fault (.right hpart) hwords hwords' hnone
          | @exact j hj hparts' =>
              rcases evaluate_operation_exactly op hl hr hi hj with
                ⟨k, hk, hexact⟩ | ⟨hnone, hfault⟩
              · rw [hk]
                refine .exact hexact fun part hpart => ?_
                rcases isPartOf_binary_iff.mp hpart with rfl | hpart | hpart
                · exact ⟨_, hexact, isWord_toInt k⟩
                · exact hparts part hpart
                · exact hparts' part hpart
              · rw [hfault]
                exact .fault .whole (hparts l .whole) (hparts' r .whole) hnone

theorem IsCalculation.checkSelector (he : e.IsCalculation) : e.checkSelector = .ok () := by
  induction he with
  | literal => rfl
  | column => rfl
  | member => rfl
  | operation _ _ _ ihl ihr => exact checkSelector_binary _ ihl ihr

end Expr

/-- **A calculation is exact or fails.** It compiles. On an item whose columns are whole numbers, it
has its exact value where the exact value of each of its parts is there and is a word; otherwise it
fails by an operation on two words whose exact result is no word, or by a division by zero. -/
theorem Projector.applyTo_calculation {e : Expr} (he : e.IsCalculation) :
    ∃ projector, ofExpr e = .ok projector ∧ ∀ item, e.HasWholeColumns item →
      ((∀ part : Expr, part.IsPartOf e → part.IsWordOn item) →
        ∃ i, projector.applyTo item = .ok (.int i) ∧ e.IsExactly item i.toInt) ∧
      ((∃ part : Expr, part.IsPartOf e ∧ ¬ part.IsWordOn item) →
        ∃ op l r, projector.applyTo item = .error (.unsupportedExpression (.arithmetic op)) ∧
          (Expr.binary (.arithmetic op) l r).IsPartOf e ∧ l.IsWordOn item ∧ r.IsWordOn item ∧
          ¬ (Expr.binary (.arithmetic op) l r).IsWordOn item) := by
  have hcompiled := ofExpr_eq he.checkSelector
  refine ⟨_, hcompiled, fun item hitem => ?_⟩
  have hcomes := he.comes hitem
  rw [applyTo_eq_evaluate hcompiled]
  generalize e.evaluate (.main item) = x at hcomes
  cases hcomes with
  | exact hvalue hparts =>
      refine ⟨fun _ => ⟨_, rfl, hvalue⟩, ?_⟩
      rintro ⟨part, hpart, hnone⟩
      exact absurd (hparts part hpart) hnone
  | fault hpart hl hr hnone =>
      exact ⟨fun hall => absurd (hall _ hpart) hnone, fun _ => ⟨_, _, _, rfl, hpart, hl, hr, hnone⟩⟩

/-- A count, one more, and one less again. -/
def upAndDown : Expr :=
  .binary (.arithmetic .sub)
    (.binary (.arithmetic .add) (.ofColumn (.named "Count")) (.literal (.int 1)))
    (.literal (.int 1))

/-- A row with a count. -/
def withCount (count : Int64) : Item :=
  .row ⟨["Count"], [.int count]⟩

theorem isPartOf_upAndDown_iff {part : Expr} : part.IsPartOf upAndDown ↔
    part = upAndDown ∨
      part = .binary (.arithmetic .add) (.ofColumn (.named "Count")) (.literal (.int 1)) ∨
      part = .ofColumn (.named "Count") ∨ part = .literal (.int 1) := by
  have hcolumn : part.IsPartOf (.ofColumn (.named "Count")) ↔ part = .ofColumn (.named "Count") :=
    ⟨fun h => by cases h; rfl, fun h => h ▸ .whole⟩
  have hone : part.IsPartOf (.literal (.int 1)) ↔ part = .literal (.int 1) :=
    ⟨fun h => by cases h; rfl, fun h => h ▸ .whole⟩
  rw [upAndDown, Expr.isPartOf_binary_iff, Expr.isPartOf_binary_iff, hcolumn, hone]
  tauto

theorem hasWholeColumns_upAndDown (count : Int64) :
    upAndDown.HasWholeColumns (withCount count) := by
  constructor
  · intro c hc
    rcases isPartOf_upAndDown_iff.mp hc with h | h | h | h
    · cases h
    · cases h
    · cases h
      exact ⟨count, rfl⟩
    · cases h
  · intro name hname
    rcases isPartOf_upAndDown_iff.mp hname with h | h | h | h <;> cases h

/-- A count in the middle comes back; from the last one there is no way up, though the result would
be a word. -/
theorem applyTo_calculation_upAndDown : ∃ projector, Projector.ofExpr upAndDown = .ok projector ∧
    (∃ i, projector.applyTo (withCount 41) = .ok (.int i) ∧
      upAndDown.IsExactly (withCount 41) i.toInt) ∧
    ∃ op, projector.applyTo (withCount Int64.maxValue) =
      .error (.unsupportedExpression (.arithmetic op)) := by
  obtain ⟨projector, hprojector, hvalues⟩ := Projector.applyTo_calculation
    (e := upAndDown) (.operation _ (.operation _ (.column _) (.literal 1)) (.literal 1))
  have hcount (count : Int64) :
      (Expr.ofColumn (.named "Count")).IsExactly (withCount count) count.toInt := .column rfl
  have hup (count : Int64) := (hcount count).sum (.literal 1)
  refine ⟨projector, hprojector, ?_, ?_⟩
  · refine (hvalues _ (hasWholeColumns_upAndDown 41)).1 fun part hpart => ?_
    rcases isPartOf_upAndDown_iff.mp hpart with rfl | rfl | rfl | rfl
    · exact ⟨_, (hup 41).difference (.literal 1), by decide⟩
    · exact ⟨_, hup 41, by decide⟩
    · exact ⟨_, hcount 41, by decide⟩
    · exact ⟨_, .literal 1, by decide⟩
  · obtain ⟨op, _, _, hfault, -⟩ := (hvalues _ (hasWholeColumns_upAndDown Int64.maxValue)).2
      ⟨_, .left .whole, fun ⟨n, hn, hword⟩ => by
        rw [← (hup Int64.maxValue).unique hn] at hword
        exact absurd hword (by decide)⟩
    exact ⟨op, hfault⟩

end SheetQuery
