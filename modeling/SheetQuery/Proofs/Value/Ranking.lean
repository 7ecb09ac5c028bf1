import SheetQuery.Proofs.Value.Conversion
import SheetQuery.Proofs.Value.Order
import SheetQuery.Sql.Evaluation

/-!
# Values that rank among each other

Whole numbers, texts, truth values and moments have an order of their own each, in which no two
different values are level, and missing values rank before all of them. Over values of one such
kind, some of which may be missing, the comparison of cells says no more and no less than this
order.

Main statements: `Value.isLE_compareCells_iff` and, for both directions,
`Direction.inOrder_of_compareDirected`.
-/

namespace SheetQuery

open Calendar Sql

/-- The kinds whose values all have an order between them. Numbers with a point are left out, of
which some have no place in their order and two are level. -/
def Kind.isRanked : Kind → Bool
  | .integer | .text | .boolean | .dateTime => true
  | .float | .any => false

namespace Value

/-- One value ranks before another or is the same: a missing value before all, numbers by size,
texts as in a dictionary over code points, false before true, moments by time. -/
inductive AtMost : Value → Value → Prop where
  | null (v : Value) : AtMost .null v
  | int {i j : Int64} (h : i.toInt ≤ j.toInt) : AtMost (.int i) (.int j)
  | text {s t : String} (h : s ≤ t) : AtMost (.text s) (.text t)
  | bool {a b : Bool} (h : a = true → b = true) : AtMost (.bool a) (.bool b)
  | dateTime {t u : DateTime} (h : (t.compare u).isLE = true) : AtMost (.dateTime t) (.dateTime u)

/-- The value is missing or of the kind. -/
def IsOfKindOrNull (kind : Kind) (v : Value) : Prop :=
  v = .null ∨ IsOfKind kind v

/-- The values that are there are all of one kind, whose values all have an order. -/
def AreRanked (values : List Value) : Prop :=
  ∃ kind : Kind, kind.isRanked = true ∧ ∀ v ∈ values, IsOfKindOrNull kind v

/-! ## The order of moments -/

instance : Std.TransCmp Date.compare :=
  inferInstanceAs (Std.TransCmp (compareLex (compareOn Date.year)
    (compareLex (compareOn Date.month) (compareOn Date.day))))

instance : Std.TransCmp Clock.compare :=
  inferInstanceAs (Std.TransCmp (compareLex (compareOn Clock.hour)
    (compareLex (compareOn Clock.minute)
      (compareLex (compareOn Clock.second) (compareOn Clock.nanosecond)))))

instance : Std.TransCmp DateTime.compare :=
  letI : Ord Date := ⟨Date.compare⟩
  letI : Ord Clock := ⟨Clock.compare⟩
  have : Std.TransOrd Date := inferInstanceAs (Std.TransCmp Date.compare)
  have : Std.TransOrd Clock := inferInstanceAs (Std.TransCmp Clock.compare)
  inferInstanceAs (Std.TransCmp (compareLex (compareOn DateTime.date) (compareOn DateTime.clock)))

theorem eq_of_compareDateTime {t u : DateTime} (h : t.compare u = .eq) : t = u := by
  obtain ⟨⟨year, month, day, hdate⟩, ⟨hour, minute, second, nanosecond, hclock⟩⟩ := t
  obtain ⟨⟨year', month', day', hdate'⟩, ⟨hour', minute', second', nanosecond', hclock'⟩⟩ := u
  simp only [DateTime.compare, Date.compare, Clock.compare, Ordering.then_eq_eq,
    Std.LawfulEqOrd.compare_eq_iff_eq] at h
  obtain ⟨⟨rfl, rfl, rfl⟩, rfl, rfl, rfl, rfl⟩ := h
  rfl

/-! ## Laws of the order -/

variable {a b c v w : Value} {kind : Kind}

theorem AtMost.trans (h : AtMost a b) (h' : AtMost b c) : AtMost a c := by
  cases h with
  | null => exact .null c
  | int h =>
      cases h' with
      | int h' => exact .int (Int.le_trans h h')
  | text h =>
      cases h' with
      | text h' => exact .text (String.le_trans h h')
  | bool h =>
      cases h' with
      | bool h' => exact .bool fun ha => h' (h ha)
  | dateTime h =>
      cases h' with
      | dateTime h' => exact .dateTime (Std.TransCmp.isLE_trans h h')

theorem AtMost.antisymm (h : AtMost a b) (h' : AtMost b a) : a = b := by
  cases h with
  | null =>
      cases h'
      rfl
  | int h =>
      cases h' with
      | int h' => exact congrArg Value.int (Int64.toInt_inj.mp (Int.le_antisymm h h'))
  | text h =>
      cases h' with
      | text h' => exact congrArg Value.text (String.le_antisymm h h')
  | bool h =>
      cases h' with
      | bool h' => exact congrArg Value.bool (Bool.eq_iff_iff.mpr ⟨h, h'⟩)
  | dateTime h =>
      cases h' with
      | @dateTime u t h' =>
          exact congrArg Value.dateTime (eq_of_compareDateTime (Std.OrientedCmp.isLE_antisymm h h'))

/-! ## Comparing cells -/

/-- Cells compare the other way round from the other side. -/
theorem compareCells_swap (a b : Value) : compareCells b a = (compareCells a b).swap := by
  unfold compareCells
  rw [compare_swap a b]
  cases a.isNull with
  | true => cases b.isNull <;> rfl
  | false =>
      cases b.isNull with
      | true => rfl
      | false => rcases compare a b with _ | _ | _ | _ <;> rfl

theorem isLE_compareText_iff {s t : String} : (compareText s t).isLE = true ↔ s ≤ t :=
  isLE_compareOfLessAndEq String.le_antisymm String.not_le String.le_total

theorem isLE_compareBool_iff {a b : Bool} :
    (compareBool a b).isLE = true ↔ (a = true → b = true) := by
  cases a <;> cases b <;> decide

/-- **Cells of one kind are compared by their order**, and missing ones come first. -/
theorem isLE_compareCells_iff (hkind : kind.isRanked = true) (hv : IsOfKindOrNull kind v)
    (hw : IsOfKindOrNull kind w) : (compareCells v w).isLE = true ↔ AtMost v w := by
  rcases hv with rfl | hv
  · refine ⟨fun _ => .null w, fun _ => ?_⟩
    cases w <;> rfl
  · rcases hw with rfl | hw
    · -- nothing that is there comes before what is missing
      cases hv with
      | any v => cases hkind
      | _ => exact ⟨nofun, nofun⟩
    · cases hv with
      | float x => cases hkind
      | any v => cases hkind
      | integer i =>
          cases hw with
          | integer j => exact ⟨fun h => .int (Std.isLE_compare.mp h),
              fun h => by cases h with | int h => exact Std.isLE_compare.mpr h⟩
      | text s =>
          cases hw with
          | text t => exact ⟨fun h => .text (isLE_compareText_iff.mp h),
              fun h => by cases h with | text h => exact isLE_compareText_iff.mpr h⟩
      | boolean p =>
          cases hw with
          | boolean q => exact ⟨fun h => .bool (isLE_compareBool_iff.mp h),
              fun h => by cases h with | bool h => exact isLE_compareBool_iff.mpr h⟩
      | dateTime t =>
          cases hw with
          | dateTime u => exact ⟨.dateTime, fun h => by cases h with | dateTime h => exact h⟩

/-- A cell that equals a value is that value, which for a number with a point need not be so. -/
theorem eq_of_beq_of_isRanked (hkind : kind.isRanked = true) (hv : IsOfKindOrNull kind v)
    (h : (v == w) = true) : v = w := by
  have hsame : same v w = true := h
  rcases hv with rfl | hv
  · cases w <;> first | rfl | cases hsame
  · cases hv with
    | float x => cases hkind
    | any v => cases hkind
    | integer i =>
        cases w with
        | int j => exact congrArg Value.int (eq_of_beq hsame)
        | _ => cases hsame
    | text s =>
        cases w with
        | text t => exact congrArg Value.text (eq_of_beq hsame)
        | _ => cases hsame
    | boolean p =>
        cases w with
        | bool q => exact congrArg Value.bool (eq_of_beq hsame)
        | _ => cases hsame
    | dateTime t =>
        cases w with
        | dateTime u => exact congrArg Value.dateTime (eq_of_beq hsame)
        | _ => cases hsame

end Value

/-! ## Directions -/

namespace Direction

open Value

variable {direction : Direction} {kind : Kind} {a b c : Value}

/-- One value may stand before another in the direction: missing values come first in an ascending
order and last in a descending one. -/
def InOrder : Direction → Value → Value → Prop
  | ascending, a, b => AtMost a b
  | descending, a, b => AtMost b a

theorem InOrder.trans (h : direction.InOrder a b) (h' : direction.InOrder b c) :
    direction.InOrder a c := by
  cases direction with
  | ascending => exact AtMost.trans h h'
  | descending => exact AtMost.trans h' h

theorem isLE_of_beq_lt (o : Ordering) :
    ((o == .lt) = true → o.isLE = true) ∧ ((o == .lt) = false → o.swap.isLE = true) := by
  cases o <;> decide

/-- What precedes another value in the direction may stand before it, and what does not, behind. -/
theorem inOrder_of_compareDirected (hkind : kind.isRanked = true) (ha : IsOfKindOrNull kind a)
    (hb : IsOfKindOrNull kind b) :
    ((compareDirected direction a b == .lt) = true → direction.InOrder a b) ∧
      ((compareDirected direction a b == .lt) = false → direction.InOrder b a) := by
  have hforward := isLE_compareCells_iff hkind ha hb
  have hback := isLE_compareCells_iff hkind hb ha
  rw [compareCells_swap a b] at hback
  have hlt := isLE_of_beq_lt (compareDirected direction a b)
  cases direction with
  | ascending => exact ⟨fun h => hforward.mp (hlt.1 h), fun h => hback.mp (hlt.2 h)⟩
  | descending =>
      rw [compareDirected, Ordering.swap_swap] at hlt
      exact ⟨fun h => hback.mp (hlt.1 h), fun h => hforward.mp (hlt.2 h)⟩

/-- A value does not precede itself. -/
theorem not_compareDirected_self (direction : Direction) (v : Value) :
    (compareDirected direction v v == .lt) = false := by
  have hself : compareCells v v = .eq := by
    have hswap := compareCells_swap v v
    cases hcells : compareCells v v with
    | eq => rfl
    | _ =>
        rw [hcells] at hswap
        cases hswap
  cases direction with
  | ascending => rw [compareDirected, hself]; rfl
  | descending => rw [compareDirected, hself]; rfl

end Direction

end SheetQuery
