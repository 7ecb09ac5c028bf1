import SheetQuery.Proofs.Backend.Sorting
import SheetQuery.Proofs.Decimal.Summing
import SheetQuery.Proofs.Decimal.Words

/-!
# Sums of a column

The sum of a column is computed in floating-point numbers, row by row. Where all its cells are whole
numbers the outcome is a whole number again, the running sum in numbers of 53 binary digits, and at
most the last word. So it is exact as long as no number on the way has more digits, as is the case
up to `2 ^ 53`, and it need not be exact beyond.

Main statements: `Sql.sumOf_ints` and `Engine.answer_sum`.
-/

namespace SheetQuery

open Sql Decimal

/-! ## Whole numbers -/

namespace Sql

/-- Adding a word keeps a total in bounds: from some size on it is too small to be seen. -/
theorem natAbs_step_le {total : Int} (htotal : total.natAbs ≤ 2 ^ 117) (i : Int64) :
    (nearestBinary (total + nearestBinary i.toInt)).natAbs ≤ 2 ^ 117 ∧
      (total + nearestBinary i.toInt).natAbs < 2 ^ 128 := by
  have hi : i.toInt.natAbs ≤ 2 ^ 63 := by
    have hlow := Int64.le_toInt i
    have hhigh := Int64.toInt_lt i
    omega
  have hword := natAbs_nearestBinary_le (n := i.toInt) (k := 63) (by omega) (by omega)
  exact ⟨natAbs_nearestBinary_le (by omega) (by omega), by omega⟩

/-- **Words are summed to their running sum.** -/
theorem floatSum_ints (integers : List Int64) {total : Int} {x : Float}
    (hx : HasValue total x.toModel.unpack) (htotal : total.natAbs ≤ 2 ^ 117) :
    ∃ y, floatSum x (integers.map .int) = .ok y ∧
      HasValue (runningSum total (integers.map Int64.toInt)) y.toModel.unpack := by
  induction integers generalizing total x with
  | nil => exact ⟨x, rfl, hx⟩
  | cons i rest ih =>
      obtain ⟨hnext, hsmall⟩ := natAbs_step_le htotal i
      have hi : HasValue (nearestBinary i.toInt) (Value.ofWord i).toModel.unpack := by
        refine hasValue_of_isRounded (isRounded_ofInt (natAbs_toInt_lt i)) ?_
        have := natAbs_toInt_lt i
        omega
      exact ih (hasValue_add hx hi hsmall) hnext

/-- The sum of words is the word nearest to their running sum. -/
theorem sumOf_ints (integers : List Int64) :
    sumOf (integers.map .int) =
      .ok (.int (nearestWord (runningSum 0 (integers.map Int64.toInt)))) := by
  have hzero : HasValue 0 (0.0 : Float).toModel.unpack := .zero rfl
  obtain ⟨y, hy, hvalue⟩ := floatSum_ints integers hzero (by decide)
  have hwhole : (integers.map Value.int).all isWhole = true := by
    rw [List.all_map, List.all_eq_true]
    exact fun _ _ => rfl
  rw [sumOf, hy, ok_bind, if_pos hwhole, sumAsWord, wholePart?_of_hasValue hvalue, Option.getD_some]
  rfl

end Sql

/-! ## Statements -/

/-- Over a table with its columns, the sum of a column whose cells are words or empty. -/
theorem Sql.Statement.evaluate_sum {s : Statement} {t : ResultSet} {column : String}
    {integers : List Int64} (hsum : s.selection = .aggregate .sum column)
    (horder : s.orderBy = none)
    (hcondition : ∀ name ∈ (s.condition.map Condition.columns).getD [], name ∈ t.columns)
    (hcolumn : column ∈ t.columns)
    (hcells : ((filterRows t s.condition).map (cell t.columns · column)).filter (!·.isNull) =
      integers.map .int) (hne : integers ≠ []) :
    s.evaluate t = .ok (.single computedColumn
      (.int (nearestWord (runningSum 0 (integers.map Int64.toInt))))) := by
  obtain ⟨i, hi⟩ := exists_position hcolumn
  have hcell : columnCells i (filterRows t s.condition) =
      (filterRows t s.condition).map (cell t.columns · column) :=
    List.map_congr_left fun _ _ => (cell_of_position hi).symm
  have hof : Aggregate.sum.of (integers.map .int) = sumOf (integers.map .int) := by
    obtain ⟨first, rest, rfl⟩ := List.exists_cons_of_ne_nil hne
    rfl
  rw [evaluate, sourceRows, checkNames_eq_ok hcondition, ok_bind, horder, hsum]
  refine bind_eq_ok_iff.mpr ⟨_, rfl, bind_eq_ok_iff.mpr ⟨i, hi, ?_⟩⟩
  rw [hcell, hcells, hof, sumOf_ints, ok_bind]
  rfl

/-! ## The engine -/

/-- **A sum of whole numbers is their running sum.** A text that reads as a statement for the sum of
a column, over a table with its columns, is answered with a whole number where the cells of the
column that are there are whole numbers, one at least: the running sum in numbers of 53 binary
digits, or the end of the range beyond which it lies. It is the sum of these cells where that is a
word and all cells and all sums on the way have no more binary digits. -/
theorem Engine.answer_sum {w : Workbook} {hasHeader : Bool} {statement : Rendered}
    {s : Statement} {column : String} {t : ResultSet} {integers : List Int64}
    (hread : Statement.read? statement.sql.toList statement.params = .ok s)
    (hsum : s.selection = .aggregate .sum column) (horder : s.orderBy = none)
    (ht : w.table s.table hasHeader = .ok t)
    (hcondition : ∀ name ∈ (s.condition.map Condition.columns).getD [], name ∈ t.columns)
    (hcolumn : column ∈ t.columns)
    (hcells : ((filterRows t s.condition).map (cell t.columns · column)).filter (!·.isNull) =
      integers.map .int) (hne : integers ≠ []) :
    ∃ i : Int64, answer w hasHeader statement = .ok (.single computedColumn (.int i)) ∧
      i.toInt = max (-2 ^ 63) (min (runningSum 0 (integers.map Int64.toInt)) (2 ^ 63 - 1)) ∧
      ((∀ i ∈ integers, nearestBinary i.toInt = i.toInt) →
        (∀ first, first <+: integers →
          nearestBinary (first.map Int64.toInt).sum = (first.map Int64.toInt).sum) →
        IsWord (integers.map Int64.toInt).sum → i.toInt = (integers.map Int64.toInt).sum) := by
  refine ⟨_, ?_, toInt_nearestWord _, ?_⟩
  · rw [answer, hread, ok_bind, ht, ok_bind]
    exact Statement.evaluate_sum hsum horder hcondition hcolumn hcells hne
  · intro hnumbers hsums hword
    have hexact : runningSum 0 (integers.map Int64.toInt) = (integers.map Int64.toInt).sum := by
      rw [runningSum_eq_sum (by simpa using hnumbers) ?_, Int.zero_add]
      intro first hfirst
      obtain ⟨before, hbefore, rfl⟩ := List.prefix_map_iff.mp hfirst
      simpa using hsums before hbefore
    rw [hexact]
    exact toInt_nearestWord_of_isWord hword

/-- A worksheet with one column of amounts. -/
def ledger (amounts : List Int64) : Workbook :=
  Workbook.empty.addSheet "Ledger" ["Amount"] (amounts.map fun i => [.int i])

/-- The statement for the sum of the amounts. -/
def sumOfAmounts : Rendered :=
  ⟨"SELECT SUM([Amount]) FROM [Ledger$]", []⟩

theorem read?_sumOfAmounts : Statement.read? sumOfAmounts.sql.toList sumOfAmounts.params =
    .ok ⟨.aggregate .sum "Amount", "Ledger$", none, none⟩ := by
  have hwritable : (⟨.aggregate .sum "Amount", none, none, []⟩ : Clauses).IsWritable :=
    ⟨show IsBracketable "Amount" by decide, nofun, nofun⟩
  have hclause : (⟨some "Ledger", none, none⟩ : Table).clause = bracketed "Ledger$" := rfl
  have hrendered := Clauses.read?_render hwritable hclause (by decide)
  exact hrendered

/-- Small amounts are summed exactly; one with more than 53 binary digits is rounded, and so is a
sum. -/
theorem answer_sum_ledger :
    (∃ i : Int64, Engine.answer (ledger [31, 40, -9]) true sumOfAmounts =
      .ok (.single computedColumn (.int i)) ∧ i.toInt = 62) ∧
    ∃ i : Int64, Engine.answer (ledger [9007199254740993, 1, -1]) true sumOfAmounts =
      .ok (.single computedColumn (.int i)) ∧ i.toInt = 9007199254740991 := by
  constructor
  · have ht : (ledger [31, 40, -9]).table "Ledger$" true =
        .ok ⟨["Amount"], [[.int 31], [.int 40], [.int (-9)]]⟩ := rfl
    have hcells : (([[.int 31], [.int 40], [.int (-9)]] : Grid).map
        (cell ["Amount"] · "Amount")).filter (!·.isNull) = [31, 40, -9].map .int := rfl
    obtain ⟨i, hanswer, -, hexact⟩ := Engine.answer_sum read?_sumOfAmounts rfl rfl ht
      (by decide) (by decide) hcells (by decide)
    have hsum : ([31, 40, -9].map Int64.toInt).sum = 62 := by decide
    have hsmall : ∀ n ∈ [31, 40, -9].map Int64.toInt, n.natAbs ≤ 2 ^ 53 := by decide
    have hsums : ∀ first ∈ List.inits [31, 40, -9],
        (first.map Int64.toInt).sum.natAbs ≤ 2 ^ 53 := by decide
    refine ⟨i, hanswer, (hexact (fun i hi => ?_) (fun first hfirst => ?_) (by decide)).trans hsum⟩
    · exact nearestBinary_of_natAbs_le (hsmall _ (List.mem_map_of_mem hi))
    · exact nearestBinary_of_natAbs_le (hsums first ((List.mem_inits first _).mpr hfirst))
  · have ht : (ledger [9007199254740993, 1, -1]).table "Ledger$" true =
        .ok ⟨["Amount"], [[.int 9007199254740993], [.int 1], [.int (-1)]]⟩ := rfl
    have hcells : (([[.int 9007199254740993], [.int 1], [.int (-1)]] : Grid).map
        (cell ["Amount"] · "Amount")).filter (!·.isNull) =
          [9007199254740993, 1, -1].map .int := rfl
    obtain ⟨i, hanswer, hvalue, -⟩ := Engine.answer_sum read?_sumOfAmounts rfl rfl ht
      (by decide) (by decide) hcells (by decide)
    exact ⟨i, hanswer, hvalue.trans (by decide)⟩

/-- **A sum of whole numbers is not exact**, though it is a word: not even one amount with more than
53 binary digits comes back. -/
theorem answer_sum_inexact :
    ¬ ∀ (w : Workbook) (hasHeader : Bool) (statement : Rendered) (s : Statement) (column : String)
      (t : ResultSet) (integers : List Int64),
        Statement.read? statement.sql.toList statement.params = .ok s →
        s.selection = .aggregate .sum column → s.orderBy = none →
        w.table s.table hasHeader = .ok t →
        (∀ name ∈ (s.condition.map Condition.columns).getD [], name ∈ t.columns) →
        column ∈ t.columns →
        ((filterRows t s.condition).map (cell t.columns · column)).filter (!·.isNull) =
          integers.map .int → integers ≠ [] → IsWord (integers.map Int64.toInt).sum →
        ∃ i : Int64, Engine.answer w hasHeader statement = .ok (.single computedColumn (.int i)) ∧
          i.toInt = (integers.map Int64.toInt).sum := by
  intro h
  obtain ⟨i, hanswer, hi⟩ := h (ledger [9007199254740993]) true sumOfAmounts _ "Amount" _
    [9007199254740993] read?_sumOfAmounts rfl rfl rfl (by decide) (by decide) rfl (by decide)
    (by decide)
  have ht : (ledger [9007199254740993]).table "Ledger$" true =
      .ok ⟨["Amount"], [[.int 9007199254740993]]⟩ := rfl
  have hcells : (([[.int 9007199254740993]] : Grid).map
      (cell ["Amount"] · "Amount")).filter (!·.isNull) = [9007199254740993].map .int := rfl
  have hrounded : Engine.answer (ledger [9007199254740993]) true sumOfAmounts =
      .ok (.single computedColumn
        (.int (nearestWord (runningSum 0 ([9007199254740993].map Int64.toInt))))) := by
    rw [Engine.answer, read?_sumOfAmounts, ok_bind, ht, ok_bind]
    exact Statement.evaluate_sum rfl rfl (by decide) (by decide) hcells (by decide)
  obtain ⟨i, hanswer, hi⟩ := h (ledger [9007199254740993]) true sumOfAmounts _ "Amount" _
    [9007199254740993] read?_sumOfAmounts rfl rfl ht (by decide) (by decide) hcells (by decide)
    (by decide)
  cases hrounded.symm.trans hanswer
  exact absurd hi (by decide)

end SheetQuery
