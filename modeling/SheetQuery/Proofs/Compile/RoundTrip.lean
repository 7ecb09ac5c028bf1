import SheetQuery.Proofs.Compile.Intent
import SheetQuery.Proofs.Sql.Reading

/-!
# From a query to a statement and back

A query leaves as text and parameters and is read again behind the connection. What is read there
is what the query asks for: nothing of it is lost in the text, nothing of one part slips into
another, and every parameter comes to stand where its literal stood. Brackets are the only danger,
since a name in brackets knows no escape.

Main statement: `read_render`.
-/

namespace SheetQuery

open Sql

/-! ## Tables -/

/-- Before the only closing bracket, a dollar sign is dropped where it comes last. -/
theorem dropClosingDollar_append {s : List Char} (hs : ']' ∉ s) : dropClosingDollar (s ++ [']']) =
    (if s.getLast? = some '$' then s.dropLast else s) ++ [']'] := by
  induction s with
  | nil => rfl
  | cons c s ih =>
      rw [List.mem_cons, not_or] at hs
      cases s with
      | nil =>
          by_cases hdollar : c = '$'
          · rw [hdollar]
            rfl
          · rw [List.cons_append, dropClosingDollar]
            · simp [hdollar, dropClosingDollar]
            · rintro rest rfl -
              exact hdollar rfl
      | cons d s =>
          rw [List.cons_append, dropClosingDollar, ih hs.2, List.getLast?_cons_cons]
          · split <;> rfl
          · -- the dollar sign would have the closing bracket behind it
            rintro rest - hrest
            cases hrest
            exact hs.2 List.mem_cons_self

/-- The clause of a table is its reference in brackets, for a comma-separated file without a dollar
sign at its end. -/
theorem Table.clause_eq {t : Table} (h : ']' ∉ t.reference) :
    t.clause = bracketed (String.ofList
      (if isCsvName (t.worksheet.getD "").toList ∧ t.reference.getLast? = some '$' then
        t.reference.dropLast
      else t.reference)) := by
  unfold clause bracketed
  dsimp only
  rw [String.toList_ofList]
  by_cases hcsv : isCsvName (t.worksheet.getD "").toList
  · rw [if_pos hcsv]
    show '[' :: dropClosingDollar (t.reference ++ [']']) = _
    rw [dropClosingDollar_append h]
    simp [hcsv]
  · rw [if_neg hcsv]
    simp [hcsv]

/-- The clause of a table is a name in brackets, with or without the dollar sign. -/
theorem Table.clause_eq_bracketed (t : Table) (h : ']' ∉ t.reference) :
    ∃ name, t.clause = bracketed name ∧ IsBracketable name := by
  refine ⟨_, clause_eq h, ?_⟩
  rw [IsBracketable, String.toList_ofList]
  split
  · exact fun hmem => h ((List.dropLast_sublist _).subset hmem)
  · exact h

/-! ## Statements -/

/-- Clauses whose used columns fit between brackets can be written where their selection can. -/
theorem Clauses.IsCovered.isWritable {c : Clauses} (h : c.IsCovered)
    (hcolumns : ∀ name ∈ c.columnsUsed, IsBracketable name)
    (hselection : c.selection.IsWritable) : c.IsWritable :=
  ⟨hselection, fun filter hf name hn => hcolumns name (h.filter filter hf name hn),
    fun column direction ho => hcolumns column (h.orderBy column direction ho)⟩

/-- Clauses that compile can be written where their names and numbers can. -/
theorem isWritable_of_compile {mapper : Mapper} {m : Model} {c : Clauses}
    (hc : compile mapper m = .ok c) (hcolumns : ∀ name ∈ c.columnsUsed, IsBracketable name)
    (htake : ∀ n, .take n ∈ m.operators → n < 2 ^ 63) : c.IsWritable := by
  have hcov := isCovered_of_compile hc
  refine hcov.isWritable hcolumns ?_
  have hselection := (asks_of_compile hc).selection
  have hcolumn := hcov.selection
  cases hs : c.selection with
  | all => trivial
  | count => trivial
  | top n =>
      rw [hs] at hselection
      cases hselection with
      | set heq hset ha =>
          cases hset with
          | take n => exact htake n (by simp [heq])
          -- the first item is asked for as one row
          | first => exact Nat.one_lt_two_pow (by decide)
  | distinct column => exact hcolumns column (hcolumn column (by rw [hs]; rfl))
  | aggregate f column => exact hcolumns column (hcolumn column (by rw [hs]; rfl))

/-- Writable clauses aimed at a table are read again part by part. -/
theorem Clauses.read?_render {c : Clauses} (hc : c.IsWritable) {table : Table} {name : String}
    (hclause : table.clause = bracketed name) (hname : IsBracketable name) :
    Statement.read? (c.render table).sql.toList (c.render table).params =
      .ok ⟨c.selection, name, c.condition?, c.orderBy⟩ := by
  have htokens := (Clauses.yields_tokens hc hname).ofChars?_eq
  simp only [Statement.read?, render, String.toList_ofList, hclause, htokens, ok_bind]
  exact ofTokens?_tokens hc.selection name

/-- **Round trip.** The text of a compiled query is read as a statement over the same table that
says what the query asks for. -/
theorem read_render {mapper : Mapper} {m : Model} {c : Clauses} (table : Table)
    (hc : compile mapper m = .ok c) (hcolumns : ∀ name ∈ c.columnsUsed, IsBracketable name)
    (htable : ']' ∉ table.reference) (htake : ∀ n, .take n ∈ m.operators → n < 2 ^ 63) :
    ∃ s, Statement.read? (c.render table).sql.toList (c.render table).params = .ok s ∧
      bracketed s.table = table.clause ∧ s.orderBy = c.orderBy ∧
      m.Asks mapper s.selection s.condition s.orderBy := by
  obtain ⟨name, hclause, hname⟩ := table.clause_eq_bracketed htable
  have hread := Clauses.read?_render (isWritable_of_compile hc hcolumns htake) hclause hname
  exact ⟨_, hread, hclause.symm, rfl, asks_of_compile hc⟩

/-- A query whose comparison has its column on the right and whose test stands below a negation. -/
def adultsElsewhere : Model where
  shape := .row
  selector := none
  body := [
    .filter (.binary (.compare .le) (.literal (.int 18)) (.column mainSource (.named "Age"))),
    .filter (.not (.test .contains (.column mainSource (.named "City"))
      (some (.literal (.text "Paris"))))),
    .orderBy [⟨.column mainSource (.named "Name"), .descending⟩]]
  operators := [.take 2, .reverse]

theorem read_render_adultsElsewhere :
    ∃ c, compile .empty adultsElsewhere = .ok c ∧
      ∃ s, Statement.read? (c.render ⟨some "People", none, none⟩).sql.toList
          (c.render ⟨some "People", none, none⟩).params = .ok s ∧
        bracketed s.table = "[People$]".toList ∧ s.orderBy = c.orderBy ∧
        adultsElsewhere.Asks .empty s.selection s.condition s.orderBy := by
  have htake : ∀ n, .take n ∈ adultsElsewhere.operators → n < 2 ^ 63 := by
    intro n hn
    have h2 : n = 2 := by simpa [adultsElsewhere] using hn
    omega
  exact ⟨_, rfl, read_render ⟨some "People", none, none⟩ rfl (by decide) (by decide) htake⟩

end SheetQuery
