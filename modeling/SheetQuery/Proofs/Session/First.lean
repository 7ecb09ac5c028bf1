import SheetQuery.Proofs.Session.Covering
import SheetQuery.Proofs.Session.Paging

/-!
# The first item

Asked for its first item, a query sends for one row, and that is all its skips and reversals have to
work on: a skip leaves nothing of it, a reversal does nothing to it. So the first item is the head
of what the source is asked for, or nothing, whatever the list under the same operators starts with.

Main statement: `firstItem?_of_items`. That the first item is not the head of the list is
`firstItem?_ne_head?`.
-/

namespace SheetQuery

open Sql

namespace Paging

/-- The operator leaves nothing of a single item. -/
def drops : Paging → Bool
  | .skip n => n != 0
  | _ => false

theorem isLocal_of_drops {o : Paging} (h : o.drops = true) : o.isLocal = true := by
  cases o with
  | take n => cases h
  | skip n => rfl
  | reverse => rfl

theorem any_drops_local (operators : List Paging) :
    (operators.filter isLocal).any drops = operators.any drops := by
  rw [List.any_filter]
  congr 1
  funext o
  cases hdrops : o.drops with
  | true => rw [isLocal_of_drops hdrops, Bool.true_and]
  | false => exact Bool.and_false _

theorem inOrder_nil {α : Type} (operators : List Paging) :
    inOrder operators ([] : List α) = [] := by
  induction operators with
  | nil => rfl
  | cons o rest ih =>
      rw [inOrder, List.foldl_cons]
      have hstep : o.apply ([] : List α) = [] := by
        cases o with
        | take n => exact List.take_nil
        | skip n => exact List.drop_nil
        | reverse => rfl
      rw [hstep]
      exact ih

/-- Operators on a single item keep it or drop it. By induction on the operators: after each there
is the one item still, or none. -/
theorem inOrder_singleton {α : Type} {operators : List Paging}
    (hlocal : ∀ o ∈ operators, o.isLocal = true) (item : α) :
    inOrder operators [item] = if operators.any drops then [] else [item] := by
  induction operators with
  | nil => rfl
  | cons o rest ih =>
      obtain ⟨ho, hrest⟩ := List.forall_mem_cons.mp hlocal
      have hkept := ih hrest
      rw [inOrder, List.foldl_cons, List.any_cons]
      cases o with
      | take n => cases ho
      | skip n =>
          cases n with
          | zero => exact hkept
          | succ n =>
              have hnone : (skip (n + 1)).apply [item] = [] := List.drop_nil
              rw [hnone]
              exact inOrder_nil rest
      | reverse => exact hkept

theorem head?_inOrder_take {α : Type} {operators : List Paging}
    (hlocal : ∀ o ∈ operators, o.isLocal = true) (items : List α) :
    (inOrder operators (items.take 1)).head? =
      if operators.any drops then none else items.head? := by
  cases items with
  | nil =>
      rw [List.take_nil, inOrder_nil]
      exact (ite_self _).symm
  | cons item rest =>
      rw [List.take_succ_cons, List.take_zero, inOrder_singleton hlocal]
      split <;> rfl

/-- What asks the source for rows is what is not local, so the local operators may go. -/
theorem lastCount?_filter (operators : List Paging) :
    lastCount? (operators.filter (!·.isLocal)) = lastCount? operators := by
  unfold lastCount?
  induction operators with
  | nil => rfl
  | cons o rest ih =>
      cases o with
      | take n =>
          rw [List.filter_cons_of_pos (by rfl)]
          simp only [List.filterMap_cons, count?, List.getLast?_cons, ih]
      | skip n =>
          rw [List.filter_cons_of_neg (by simp [isLocal])]
          exact ih
      | reverse =>
          rw [List.filter_cons_of_neg (by simp [isLocal])]
          exact ih

end Paging

/-! ## Fetching one row -/

theorem Sql.Selection.length_tokens_le {selection : Selection}
    (h : selection.isWholeRow = true) (n : Nat) :
    selection.tokens.length ≤ (Selection.top n).tokens.length := by
  cases selection with
  | all => exact Nat.le_add_left ..
  | top k => exact Nat.le_refl _
  | _ => cases h

/-- Where any rows are asked for, the first of them is the answer to the question for one. -/
theorem Source.Brings.first {s : Source} {w : Workbook} {body : Clauses} {f : Fetched}
    {count : Option Nat} (hall : body.selection = .all) (hcount : count ≠ some 0)
    (h : s.Brings w (body.limited count) f) :
    s.Brings w { body with selection := .top 1 }
      ⟨f.table, ⟨f.result.columns, f.result.rows.take 1⟩⟩ := by
  have hwhole : (body.limited count).selection.isWholeRow = true := by
    cases count with
    | none =>
        rw [Clauses.limited, hall]
        rfl
    | some n => rfl
  have hname : ∀ column, (body.limited count).selection.column? = some column →
      IsBracketable column := by
    rw [Selection.column?_of_isWholeRow hwhole]
    nofun
  have hone : (Selection.top 1).IsWritable := show 1 < 2 ^ 63 by decide
  obtain ⟨whole, -, hselect, hanswer⟩ := Engine.answer_selecting
    (Engine.isWritable_of_answer hname h.answer) hone (Selection.length_tokens_le hwhole 1) h.answer
  have hfirst : f.result.columns = whole.columns ∧ f.result.rows.take 1 = whole.rows.take 1 := by
    cases count with
    | none =>
        rw [Clauses.limited, hall] at hselect
        rw [← Except.ok.inj hselect]
        exact ⟨rfl, rfl⟩
    | some n =>
        have hn : min 1 n = 1 := by
          have : n ≠ 0 := fun hzero => hcount (congrArg some hzero)
          omega
        rw [← Except.ok.inj hselect, List.take_take, hn]
        exact ⟨rfl, rfl⟩
  refine ⟨h.table, ?_, ?_⟩
  · rw [hfirst.1, hfirst.2]
    cases count <;> exact hanswer
  · have hused := h.used
    rw [checkUsed, if_pos hwhole] at hused
    cases count <;> exact hused

namespace Query

variable {q : Query} {operators : List Paging} {line : Line Engine}

theorem paged_eq_under (hq : q.model.operators = []) (operators : List Paging) :
    q.paged operators = q.under (operators.map Paging.operator) := by
  rw [paged_eq, hq, List.nil_append]
  rfl

/-- Paging operators on top of a query only limit the number of its rows. -/
theorem clauses_paged {c : Clauses} (hq : q.model.operators = [])
    (h : (q.paged operators).clauses = .ok c) :
    ∃ body, q.clauses = .ok body ∧ body.selection = .all ∧
      c = body.limited (Paging.lastCount? operators) := by
  rw [paged_eq_under hq] at h
  obtain ⟨body, hall, hbody⟩ := exists_body_of_compile h
  refine ⟨body, ?_, hall, ?_⟩
  · have hnone : q.under [] = q := by
      rw [← hq]
      rfl
    have hbare : (q.under []).clauses = .ok body := hbody []
    rwa [hnone] at hbare
  · have hrun := (hbody (operators.map Paging.operator)).symm.trans h
    rw [Clauses.foldlM_paging] at hrun
    exact (Except.ok.inj hrun).symm

/-- Under paging operators and then asked for its first item, a query has the clauses that it has on
its own, for one row. -/
theorem clauses_first {c : Clauses} (hq : q.model.operators = []) (hc : q.clauses = .ok c)
    (operators : List Paging) :
    ((q.paged operators).withOperator .first).clauses = .ok { c with selection := .top 1 } := by
  obtain ⟨-, hpaged⟩ := compile_paging hq hc operators
  rw [paged_eq_under hq]
  refine (compile_withOperator q.source.mapper _ _).trans ?_
  have hlimited : compile q.source.mapper (q.under (operators.map Paging.operator)).model =
      .ok (c.limited (Paging.lastCount? operators)) := hpaged
  rw [hlimited, ok_bind]
  cases Paging.lastCount? operators <;> rfl

theorem onItems_first {α : Type} (hq : q.model.operators = []) (items : List α) :
    ((q.paged operators).withOperator .first).model.onItems items =
      Paging.inOrder (operators.filter Paging.isLocal) items := by
  rw [paged_eq_under hq, ← Paging.foldl_onItems]
  exact List.foldl_concat ..

/-- What is found for the first item is the first of what is found. -/
theorem Finds.first {w : Workbook} {c : Clauses} {f : Fetched} {found : List Item}
    (hq : q.model.operators = []) (htake : Paging.lastCount? operators ≠ some 0)
    (h : (q.paged operators).Finds w c f found) :
    ∃ c' f', ((q.paged operators).withOperator .first).Finds w c' f' (found.take 1) := by
  obtain ⟨body, hbody, hall, rfl⟩ := clauses_paged hq h.clauses
  exact ⟨_, _, clauses_first hq hbody operators, h.brings.first hall htake,
    Materializer.materialize_take 1 h.made⟩

/-- What is found does not hang on the operators that are left to the items. -/
theorem Finds.takes {w : Workbook} {c : Clauses} {f : Fetched} {found : List Item}
    (hq : q.model.operators = []) (h : (q.paged operators).Finds w c f found) :
    (q.paged (operators.filter (!·.isLocal))).Finds w c f found := by
  obtain ⟨body, hbody, -, rfl⟩ := clauses_paged hq h.clauses
  obtain ⟨-, htakes⟩ := compile_paging hq hbody (operators.filter (!·.isLocal))
  rw [Paging.lastCount?_filter] at htakes
  rw [paged_eq_under hq] at h ⊢
  exact ⟨htakes, h.brings, h.made⟩

/-! ## The first item -/

theorem firstItem_of_ok {first : Option Item} (h : (q.firstItem? line).1 = .ok first) :
    (q.firstItem line).1 = orEmpty first := by
  rw [firstItem, Action.run_bind]
  rcases hrun : q.firstItem? line with ⟨_ | found, next⟩
  · rw [hrun] at h
    cases h
  · rw [hrun] at h
    cases h
    rfl

/-- **The first item under paging operators.** Where a query, its last `take` not for nothing, gives
a list, its first item is the head of what the takes alone leave, unless it skips any: then there is
none. A reversal does not matter. -/
theorem firstItem?_of_items (hq : q.model.operators = []) {line line' : Line Engine}
    (hview : line'.view = line.view) {items : List Item}
    (h : ((q.paged operators).items line).1 = .ok items)
    (htake : Paging.lastCount? operators ≠ some 0) :
    ∃ asked, ((q.paged (operators.filter (!·.isLocal))).items line').1 = .ok asked ∧
      items = Paging.inOrder (operators.filter Paging.isLocal) asked ∧
      ((q.paged operators).firstItem? line').1 =
        .ok (if operators.any Paging.drops then none else asked.head?) ∧
      ((q.paged operators).firstItem line').1 =
        orEmpty (if operators.any Paging.drops then none else asked.head?) := by
  obtain ⟨hworkbook, hpending⟩ := Prod.mk.inj hview
  obtain ⟨hnone, c, f, found, hfinds, hitems⟩ := items_ok_iff.mp h
  have honItems : ∀ operators (items : List Item), (q.paged operators).model.onItems items =
      Paging.inOrder (operators.filter Paging.isLocal) items := fun operators items => by
    rw [paged_eq_under hq]
    exact Paging.foldl_onItems operators items
  have hasked : ((q.paged (operators.filter (!·.isLocal))).items line').1 = .ok found := by
    refine items_ok_iff.mpr ⟨hpending.trans hnone, c, f, found, hworkbook ▸ hfinds.takes hq, ?_⟩
    rw [honItems, List.filter_filter, List.filter_eq_nil_iff.mpr (by simp)]
    rfl
  have hfirst : ((q.paged operators).firstItem? line').1 =
      .ok (if operators.any Paging.drops then none else found.head?) := by
    obtain ⟨c', f', hone⟩ := hfinds.first hq htake
    have hitem := items_ok_iff.mpr
      ⟨hpending.trans hnone, c', f', found.take 1, hworkbook ▸ hone, onItems_first hq _⟩
    rw [← Paging.any_drops_local,
      ← Paging.head?_inOrder_take fun o ho => (List.mem_filter.mp ho).2]
    exact Action.bind_ok_iff.mpr ⟨_, hitem, rfl⟩
  exact ⟨found, hasked, hitems.symm.trans (honItems operators found), hfirst,
    firstItem_of_ok hfirst⟩

end Query

theorem firstItem?_of_items_skipped :
    ((allRows.paged [.skip 1, .take 2]).items oneToThree).1 = .ok [.headerless [.int 2]] ∧
      ((allRows.paged [.skip 1, .take 2]).firstItem? oneToThree).1 = .ok none ∧
      ((allRows.paged [.skip 1, .take 2]).firstItem oneToThree).1 = .error .emptySequence := by
  have hitems : ((allRows.paged [.skip 1, .take 2]).items oneToThree).1 =
      .ok [.headerless [.int 2]] := rfl
  obtain ⟨asked, -, -, hfirst, hitem⟩ := Query.firstItem?_of_items rfl rfl hitems (by decide)
  exact ⟨hitems, hfirst, hitem⟩

/-- **The first item is not the head of the list**: a skip works on the one row that was asked for.
-/
theorem firstItem?_ne_head? :
    ¬ ∀ (q : Query) (line : Line Engine) (items : List Item) (operators : List Paging),
      q.model.operators = [] → ((q.paged operators).items line).1 = .ok items →
        ((q.paged operators).firstItem? line).1 = .ok items.head? ∧
          (((q.paged operators).firstItem line).1 = .error .emptySequence ↔ items = []) := by
  intro h
  obtain ⟨-, hempty⟩ := h allRows oneToThree [.headerless [.int 2], .headerless [.int 3]] [.skip 1]
    rfl rfl
  exact absurd (hempty.mp rfl) (List.cons_ne_nil _ _)

end SheetQuery
