import SheetQuery.Proofs.Compile.Intent
import SheetQuery.Proofs.Session.Running
import SheetQuery.Proofs.Sql.Selecting

/-!
# Paging

Taking goes with the statement, skipping and reversing wait for the items that come back. A
statement has one place for the number of rows, so the last `take` alone counts, and it counts before
any skip or reversal, wherever it was declared. What is left happens in the order of declaration.

Main statement: `items_paged`. That this is not the order of declaration throughout is
`paged_out_of_order`.
-/

namespace SheetQuery

/-- The operators that choose among the items by their places. -/
inductive Paging where
  | take (n : Nat)
  | skip (n : Nat)
  | reverse

namespace Paging

/-- The operator of a query. -/
def operator : Paging → Operator
  | .take n => .take n
  | .skip n => .skip n
  | .reverse => .reverse

/-- What an operator means on its own. -/
def apply {α : Type} : Paging → List α → List α
  | .take n, items => items.take n
  | .skip n, items => items.drop n
  | .reverse, items => items.reverse

/-- The operators one after the other, in the order of declaration. -/
def inOrder {α : Type} (operators : List Paging) (items : List α) : List α :=
  operators.foldl (fun items operator => operator.apply items) items

/-- The number of a `take`. -/
def count? : Paging → Option Nat
  | .take n => some n
  | _ => none

/-- The operator is not left to the source. -/
def isLocal : Paging → Bool
  | .take _ => false
  | _ => true

/-- The number of the last `take`. -/
def lastCount? (operators : List Paging) : Option Nat :=
  (operators.filterMap count?).getLast?

/-- The items that the source is asked for. -/
def asked {α : Type} (operators : List Paging) (items : List α) : List α :=
  match lastCount? operators with
  | some n => items.take n
  | none => items

/-- What a query gives: the skips and reversals, in the order of declaration, of the items that the
source is asked for. -/
def result {α : Type} (operators : List Paging) (items : List α) : List α :=
  inOrder (operators.filter isLocal) (asked operators items)

theorem lastCount?_take (n : Nat) (rest : List Paging) :
    lastCount? (.take n :: rest) = some ((lastCount? rest).getD n) := by
  simp only [lastCount?, List.filterMap_cons, count?, List.getLast?_cons]

theorem lastCount?_cons_local {o : Paging} (h : o.isLocal = true) (rest : List Paging) :
    lastCount? (o :: rest) = lastCount? rest := by
  cases o with
  | take n => cases h
  | skip n => rfl
  | reverse => rfl

/-- A count is that of some `take`. -/
theorem take_mem_of_lastCount? {operators : List Paging} {n : Nat}
    (h : lastCount? operators = some n) : .take n ∈ operators := by
  obtain ⟨o, ho, hcount⟩ := List.mem_filterMap.mp (List.mem_of_getLast? h)
  cases o with
  | take m =>
      cases hcount
      exact ho
  | skip m => cases hcount
  | reverse => cases hcount

theorem foldl_onItems {α : Type} (operators : List Paging) (items : List α) :
    (operators.map operator).foldl (fun items operator => operator.onItems items) items =
      inOrder (operators.filter isLocal) items := by
  induction operators generalizing items with
  | nil => rfl
  | cons o rest ih =>
      rw [List.map_cons, List.foldl_cons, ih]
      cases o with
      | take n => rfl
      | skip n => rfl
      | reverse => rfl

end Paging

/-! ## Compiling -/

namespace Clauses

variable {mapper : Mapper} {m : Model}

/-- The clauses that ask for that many rows, where a number is given. -/
def limited (c : Clauses) : Option Nat → Clauses
  | some n => { c with selection := .top n }
  | none => c

/-- Paging operators set the number of rows and nothing else. By induction on the operators: a later
`take` overwrites an earlier one. -/
theorem foldlM_paging (operators : List Paging) (c : Clauses) :
    (operators.map Paging.operator).foldlM (withOperator mapper m) c =
      .ok (c.limited (Paging.lastCount? operators)) := by
  induction operators generalizing c with
  | nil => rfl
  | cons o rest ih =>
      rw [List.map_cons, List.foldlM_cons]
      cases o with
      | take n =>
          -- what this one sets is gone where a later one follows
          rw [Paging.operator, withOperator, ok_bind, ih, Paging.lastCount?_take]
          cases Paging.lastCount? rest <;> rfl
      | skip n => rw [Paging.operator, withOperator, ok_bind, ih, Paging.lastCount?_cons_local rfl]
      | reverse => rw [Paging.operator, withOperator, ok_bind, ih, Paging.lastCount?_cons_local rfl]

end Clauses

/-- A query without operators selects whole rows, and paging it only limits their number. -/
theorem compile_paging {mapper : Mapper} {m : Model} {c : Clauses} (hm : m.operators = [])
    (h : compile mapper m = .ok c) (operators : List Paging) :
    c.selection = .all ∧
      compile mapper { m with operators := operators.map Paging.operator } =
        .ok (c.limited (Paging.lastCount? operators)) := by
  have hselection := (asks_of_compile h).selection
  obtain ⟨hjoins, filtered, hfilter, ordered, horder, hrun⟩ := compile_eq_ok_iff.mp h
  rw [hm] at hrun hselection
  cases hrun
  refine ⟨?_, compile_eq_ok_iff.mpr
    ⟨hjoins, filtered, hfilter, c, horder, Clauses.foldlM_paging operators c⟩⟩
  generalize c.selection = selection at hselection
  cases hselection with
  | kept hk => rfl
  | set heq hs ha => simp at heq

/-! ## Items -/

/-- The first rows make the first items. -/
theorem Materializer.materialize_take {m : Materializer} {type : ItemType} {columns : List String}
    {rows : List (List Value)} {found : List Item} (n : Nat)
    (h : m.materialize type columns rows = .ok (.items found)) :
    m.materialize type columns (rows.take n) = .ok (.items (found.take n)) := by
  unfold materialize at h ⊢
  split at h
  · cases h
  · next hscalar =>
      rw [if_neg hscalar]
      -- the checks look at the columns, and each item at its own row
      obtain ⟨items, hitems, heq⟩ := map_eq_ok_iff.mp h
      cases heq
      refine map_eq_ok_iff.mpr ⟨found.take n, ?_, rfl⟩
      cases type with
      | row =>
          obtain ⟨made, hmade, rfl⟩ := map_eq_ok_iff.mp hitems
          obtain ⟨u, hu, rfl⟩ := map_eq_ok_iff.mp hmade
          refine map_eq_ok_iff.mpr ⟨_, map_eq_ok_iff.mpr ⟨u, hu, rfl⟩, ?_⟩
          simp only [List.map_take]
      | headerless =>
          cases hitems
          simp only [items, List.map_take]
      | record t =>
          obtain ⟨made, hmade, rfl⟩ := map_eq_ok_iff.mp hitems
          obtain ⟨u, hu, hrecords⟩ := bind_eq_ok_iff.mp hmade
          refine map_eq_ok_iff.mpr ⟨made.take n, bind_eq_ok_iff.mpr ⟨u, hu, ?_⟩, ?_⟩
          · exact mapM_eq_ok_iff.mpr (List.forall₂_take n (mapM_eq_ok_iff.mp hrecords))
          · rw [List.map_take]

namespace Query

/-- The query with paging operators more. -/
def paged (q : Query) (operators : List Paging) : Query :=
  operators.foldl (fun q operator => q.withOperator operator.operator) q

theorem paged_eq (q : Query) (operators : List Paging) :
    q.paged operators = { q with model := { q.model with
      operators := q.model.operators ++ operators.map Paging.operator } } := by
  unfold paged
  induction operators generalizing q with
  | nil => simp
  | cons o rest ih =>
      rw [List.foldl_cons, ih]
      simp [withOperator, Model.withOperator]

/-- What a paged query finds: the items that the source is asked for. -/
theorem Finds.paged {q : Query} {w : Workbook} {c : Clauses} {f : Fetched} {found : List Item}
    (hq : q.model.operators = []) {operators : List Paging}
    (hbound : ∀ n, .take n ∈ operators → n < 2 ^ 63) (h : q.Finds w c f found) :
    ∃ c' f', (q.paged operators).Finds w c' f' (Paging.asked operators found) := by
  obtain ⟨hall, hcompile⟩ := compile_paging hq h.clauses operators
  rw [paged_eq, hq, List.nil_append]
  unfold Paging.asked
  cases hcount : Paging.lastCount? operators with
  | none =>
      rw [hcount] at hcompile
      exact ⟨c, f, hcompile, h.brings, h.made⟩
  | some n =>
      rw [hcount] at hcompile
      have hn := hbound n (Paging.take_mem_of_lastCount? hcount)
      have hanswer := Engine.answer_top hn hall h.brings.answer
      have hused := h.brings.used
      refine ⟨_, ⟨f.table, ⟨f.result.columns, f.result.rows.take n⟩⟩, hcompile,
        ⟨h.brings.table, hanswer, ?_⟩, Materializer.materialize_take n h.made⟩
      unfold Source.checkUsed at hused ⊢
      rw [hall] at hused
      exact hused

end Query

/-- **Paging.** A query that gives items without operators gives, with paging operators, the skips
and reversals in the order of declaration of what the last `take` leaves. Both queries may run at
different times, as long as the workbook is the same and no failure is set up. -/
theorem items_paged {q : Query} (hq : q.model.operators = []) {line line' : Line Engine}
    (hview : line'.view = line.view) {items : List Item} (hitems : (q.items line).1 = .ok items)
    {operators : List Paging} (hbound : ∀ n, .take n ∈ operators → n < 2 ^ 63) :
    ((q.paged operators).items line').1 = .ok (Paging.result operators items) := by
  obtain ⟨hworkbook, hpending⟩ := Prod.mk.inj hview
  obtain ⟨hnone, c, f, found, hfinds, rfl⟩ := Query.items_ok_iff.mp hitems
  obtain ⟨c', f', hpaged⟩ := hfinds.paged hq hbound
  refine Query.items_ok_iff.mpr ⟨hpending.trans hnone, c', f', _, hworkbook ▸ hpaged, ?_⟩
  rw [Query.paged_eq]
  simp only [Model.onItems, hq, List.nil_append, List.foldl_nil, Paging.foldl_onItems]
  rfl

/-- A worksheet of three rows. -/
def oneToThree : Line Engine :=
  .ofBackend (.ofWorkbook (Workbook.empty.addGrid "Sheet1" [[.int 1], [.int 2], [.int 3]]))

/-- All rows of the worksheet. -/
def allRows : Query :=
  ⟨⟨"numbers.xls", .worksheet none, false, .empty, .standard⟩, .headerless, .all .headerless⟩

theorem items_paged_oneToThree :
    (allRows.items oneToThree).1 =
        .ok [.headerless [.int 1], .headerless [.int 2], .headerless [.int 3]] ∧
      ((allRows.paged [.reverse, .take 3, .skip 1, .take 2]).items oneToThree).1 =
        .ok [.headerless [.int 1]] := by
  have hitems : (allRows.items oneToThree).1 =
      .ok [.headerless [.int 1], .headerless [.int 2], .headerless [.int 3]] := rfl
  refine ⟨hitems, items_paged rfl rfl hitems ?_⟩
  intro n hn
  have hn' : n = 3 ∨ n = 2 := by simpa using hn
  omega

/-- **Paging operators do not compose in the order of declaration**: a `take` behind a skip still
counts first. -/
theorem paged_out_of_order :
    ¬ ∀ (q : Query) (line : Line Engine) (items : List Item) (operators : List Paging),
      q.model.operators = [] → (q.items line).1 = .ok items →
        (∀ n, .take n ∈ operators → n < 2 ^ 63) →
          ((q.paged operators).items line).1 = .ok (Paging.inOrder operators items) := by
  intro h
  have hbound : ∀ n, .take n ∈ [Paging.skip 1, Paging.take 2] → n < 2 ^ 63 := by
    intro n hn
    have hn' : n = 2 := by simpa using hn
    omega
  have hclaimed := h allRows oneToThree
    [.headerless [.int 1], .headerless [.int 2], .headerless [.int 3]] [.skip 1, .take 2] rfl rfl
    hbound
  have hfound : ((allRows.paged [.skip 1, .take 2]).items oneToThree).1 =
      .ok [.headerless [.int 2]] := rfl
  rw [hfound] at hclaimed
  have hlength := congrArg (fun r => r.toOption.map List.length) hclaimed
  exact absurd hlength (by decide)

end SheetQuery
