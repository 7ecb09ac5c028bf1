import SheetQuery.Proofs.Backend.Answers
import SheetQuery.Proofs.Backend.Bounds
import SheetQuery.Proofs.Session.Filtering
import SheetQuery.Proofs.Value.Ranking

/-!
# Rows in the order of a column

An ordering puts the rows that fit the condition in the order of one column. Where the cells of the
column rank among each other, this is a stable sort in both directions: rows with the same cell keep
the order they have in the table also in the descending order, which is not the ascending one turned
round. A number of rows that is asked for cuts the same rows off behind.

Main statements: `sortRows_isSortedBy` and `Engine.answer_ordered`.
-/

namespace SheetQuery

open Sql

/-! ## Sorted rows -/

section Sorted

variable {α : Type}

/-- Elements whose value is missing and elements whose value is there, in the order of a
direction. -/
def Direction.joined : Direction → List α → List α → List α
  | ascending, missing, there => missing ++ there
  | descending, missing, there => there ++ missing

/-- The elements `sorted` are the elements `xs` in the order of their values. -/
structure IsSortedBy (direction : Direction) (value : α → Value) (xs sorted : List α) : Prop where
  /-- Nothing comes in or gets lost. -/
  perm : sorted.Perm xs
  /-- Missing values are first or last. -/
  missing : sorted = direction.joined (xs.filter fun x => (value x).isNull)
    (sorted.filter fun x => !(value x).isNull)
  /-- An element stands before another only where their values may stand so. -/
  inOrder : sorted.Pairwise fun a b => direction.InOrder (value a) (value b)
  /-- Elements of one value stand as they stood. -/
  stable : ∀ v, sorted.filter (value · == v) = xs.filter (value · == v)

/-- Elements of a class that nothing else may stand before come first. -/
theorem eq_append_of_pairwise {p : α → Bool} {xs : List α}
    (h : xs.Pairwise fun a b => p b = true → p a = true) :
    xs = xs.filter p ++ xs.filter (!p ·) := by
  induction xs with
  | nil => rfl
  | cons x xs ih =>
      obtain ⟨hfirst, hrest⟩ := List.pairwise_cons.mp h
      cases hx : p x with
      | true => simpa [hx] using ih hrest
      | false =>
          -- the class is empty from here on
          have hnone : xs.filter p = [] := List.filter_eq_nil_iff.mpr fun y hy hpy =>
            absurd (hfirst y hy hpy) (by simp [hx])
          have hall := ih hrest
          rw [hnone] at hall
          simpa [hx, hnone] using hall

end Sorted

/-- A missing value is first in an ascending order and last in a descending one. -/
theorem Direction.eq_joined {α : Type} {direction : Direction} {value : α → Value} {xs : List α}
    (h : xs.Pairwise fun a b => direction.InOrder (value a) (value b)) :
    xs = direction.joined (xs.filter fun x => (value x).isNull)
      (xs.filter fun x => !(value x).isNull) := by
  cases direction with
  | ascending =>
      refine eq_append_of_pairwise (h.imp ?_)
      intro a b hab hb
      generalize value a = v, value b = w at hab hb
      cases hab <;> first | rfl | cases hb
  | descending =>
      have hclass : xs.Pairwise fun a b =>
          (!(value b).isNull) = true → (!(value a).isNull) = true := by
        refine h.imp ?_
        intro a b hab hb
        generalize value a = v, value b = w at hab hb
        cases hab <;> first | rfl | cases hb
      simpa [joined] using eq_append_of_pairwise hclass

/-- **Rows are sorted by a column whose cells rank among each other.** -/
theorem sortRows_isSortedBy {i : Nat} {direction : Direction} {rows : List (List Value)}
    (h : Value.AreRanked (rows.map (cellAt · i))) :
    IsSortedBy direction (cellAt · i) rows (sortRows i direction rows) := by
  obtain ⟨kind, hkind, hcells⟩ := h
  replace hcells : ∀ row ∈ rows, Value.IsOfKindOrNull kind (cellAt row i) :=
    fun row hrow => hcells _ (List.mem_map_of_mem hrow)
  have hinOrder : (sortRows i direction rows).Pairwise fun a b =>
      direction.InOrder (cellAt a i) (cellAt b i) := by
    refine sortBy_pairwise _ ?_ ?_ fun _ _ _ => Direction.InOrder.trans
    · exact fun a ha b hb =>
        (Direction.inOrder_of_compareDirected hkind (hcells a ha) (hcells b hb)).1
    · exact fun a ha b hb =>
        (Direction.inOrder_of_compareDirected hkind (hcells a ha) (hcells b hb)).2
  have hstable : ∀ v, (sortRows i direction rows).filter (cellAt · i == v) =
      rows.filter (cellAt · i == v) := by
    refine fun v => sortBy_filter _ fun a ha b hb hav hbv => ?_
    rw [Value.eq_of_beq_of_isRanked hkind (hcells a ha) hav,
      Value.eq_of_beq_of_isRanked hkind (hcells b hb) hbv]
    exact Direction.not_compareDirected_self direction v
  refine ⟨sortBy_perm _ _, ?_, hinOrder, hstable⟩
  have hnull : ∀ row : List Value, (cellAt row i).isNull = (cellAt row i == .null) := by
    intro row
    cases cellAt row i <;> rfl
  have hjoined := Direction.eq_joined hinOrder
  simp only [hnull, hstable .null] at hjoined ⊢
  exact hjoined

/-! ## Statements with an ordering -/

namespace Sql.Statement

variable {s : Statement} {t : ResultSet} {column : String} {direction : Direction}

/-- Over a table with its columns, the rows of a statement with an ordering are sorted. -/
theorem exists_sourceRows_ordered (horder : s.orderBy = some (column, direction))
    (hcondition : ∀ name ∈ (s.condition.map Condition.columns).getD [], name ∈ t.columns)
    (hcolumn : column ∈ t.columns)
    (hranked : Value.AreRanked ((filterRows t s.condition).map (cell t.columns · column))) :
    ∃ rows, s.sourceRows t = .ok rows ∧
      IsSortedBy direction (cell t.columns · column) (filterRows t s.condition) rows := by
  obtain ⟨i, hi⟩ := exists_position hcolumn
  have hcell : (cell t.columns · column) = (cellAt · i) := funext fun _ => cell_of_position hi
  rw [hcell] at hranked ⊢
  refine ⟨_, ?_, sortRows_isSortedBy hranked⟩
  rw [sourceRows, checkNames_eq_ok hcondition, ok_bind, horder]
  exact bind_eq_ok_iff.mpr ⟨i, hi, rfl⟩

end Sql.Statement

/-! ## The engine -/

/-- **An ordering is a stable sort.** A text that reads as a statement for whole rows with an
ordering, over a table with its columns, is answered with the rows that fit the condition, sorted by
the column where its cells rank among each other; and the text that asks for the first rows of the
same is answered with as many of these. -/
theorem Engine.answer_ordered {w : Workbook} {hasHeader : Bool} {statement : Rendered}
    {s : Statement} {column : String} {direction : Direction} {t : ResultSet}
    (hread : Statement.read? statement.sql.toList statement.params = .ok s)
    (hall : s.selection = .all) (horder : s.orderBy = some (column, direction))
    (ht : w.table s.table hasHeader = .ok t)
    (hcondition : ∀ name ∈ (s.condition.map Condition.columns).getD [], name ∈ t.columns)
    (hcolumn : column ∈ t.columns)
    (hranked : Value.AreRanked ((filterRows t s.condition).map (cell t.columns · column))) :
    ∃ rows, answer w hasHeader statement = .ok ⟨t.columns, rows⟩ ∧
      IsSortedBy direction (cell t.columns · column) (filterRows t s.condition) rows ∧
      ∀ (n : Nat) (top : Rendered),
        Statement.read? top.sql.toList top.params = .ok { s with selection := .top n } →
          answer w hasHeader top = .ok ⟨t.columns, rows.take n⟩ := by
  obtain ⟨rows, hrows, hsorted⟩ :=
    Statement.exists_sourceRows_ordered horder hcondition hcolumn hranked
  refine ⟨rows, ?_, hsorted, ?_⟩
  · rw [answer, hread, ok_bind, ht, ok_bind, Statement.evaluate, hrows, ok_bind, hall]
    rfl
  · intro n top htop
    have hsame : Statement.sourceRows { s with selection := .top n } t = .ok rows := hrows
    rw [answer, htop, ok_bind]
    simp only [ht, ok_bind, Statement.evaluate, hsame]
    rfl

/-- The ages of the guests rank among each other. -/
theorem areRanked_ages : Value.AreRanked [.int 31, .int 40, .null, .int 9] := by
  refine ⟨.integer, rfl, ?_⟩
  simp only [List.forall_mem_cons, Value.IsOfKindOrNull]
  exact ⟨.inr (.integer 31), .inr (.integer 40), .inl trivial, .inr (.integer 9),
    fun _ h => absurd h List.not_mem_nil⟩

/-- The guests by age, the oldest first. -/
theorem answer_ordered_guests : ∃ rows,
    Engine.answer guests.backend.workbook true ⟨"SELECT * FROM [Guests$] ORDER BY [Age] DESC", []⟩ =
        .ok ⟨["Name", "Age"], rows⟩ ∧
      IsSortedBy .descending (cell ["Name", "Age"] · "Age") [[.text "Ann", .int 31],
        [.text "", .int 40], [.text "Bob", .null], [.text "Cid", .int 9]] rows := by
  have hread : Statement.read? "SELECT * FROM [Guests$] ORDER BY [Age] DESC".toList [] =
      .ok ⟨.all, "Guests$", none, some ("Age", .descending)⟩ := by
    have hwritable : (⟨.all, none, some ("Age", .descending), []⟩ : Clauses).IsWritable := by
      refine ⟨trivial, nofun, ?_⟩
      rintro column direction ⟨⟩
      decide
    have hclause : (⟨some "Guests", none, none⟩ : Table).clause = bracketed "Guests$" := rfl
    have hrendered := Clauses.read?_render hwritable hclause (by decide)
    exact hrendered
  have hreadRendered : Statement.read?
      (⟨"SELECT * FROM [Guests$] ORDER BY [Age] DESC", []⟩ : Rendered).sql.toList
      (⟨"SELECT * FROM [Guests$] ORDER BY [Age] DESC", []⟩ : Rendered).params =
        .ok ⟨.all, "Guests$", none, some ("Age", .descending)⟩ := hread
  obtain ⟨rows, hanswer, hsorted, -⟩ := Engine.answer_ordered hreadRendered rfl rfl
    reads_guests.shown (by decide) (by decide) (by exact areRanked_ages)
  exact ⟨rows, hanswer, hsorted⟩

end SheetQuery
