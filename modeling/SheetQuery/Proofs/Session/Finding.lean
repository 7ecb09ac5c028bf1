import SheetQuery.Proofs.Backend.Rectangles
import SheetQuery.Proofs.Session.Arranging
import SheetQuery.Proofs.Session.Blaming
import SheetQuery.Proofs.Session.Failing

/-!
# Ranges that are found

The ends of a range are checked when a query is made, by their shape alone, and read when it is run.
The check lets through what the workbook then reads, in machine words and without a step that leaves
them, but for rows of zeros: these have the shape, and name no row. A query over any other range that
was let through finds it, on a worksheet that is there; whatever way it is finished in and whatever
it fails with, it is not that an object could not be found.

Main statement: `Query.finish_range`. A row of zeros is shown by `Query.fetch_range_zero`.
-/

namespace SheetQuery

open Sql CellPosition

/-! ## Missing objects -/

/-- The failure passes on that an object could not be found. -/
inductive QueryError.IsMissing : QueryError → Prop where
  | table (table file : String) (valid : List String) (reference : String) :
      IsMissing (.invalidTableReference table file valid (Fault.unknownTable reference).message)
  | driver (reference : String) : IsMissing (.driver (Fault.unknownTable reference).message)

/-- The words for rows in place of a value, or the other way round, begin otherwise. -/
theorem QueryError.IsOfItems.not_isMissing {e : QueryError} (h : e.IsOfItems) : ¬e.IsMissing := by
  intro hmissing
  cases hmissing with
  | table => cases h
  | driver reference =>
      have hhead := (Fault.unknownTable reference).head?_message
      generalize (Fault.unknownTable reference).message = message at h hhead
      cases h with
      | rows v => cases hhead.symm.trans (head?_append (head?_append rfl))
      | single n => cases hhead.symm.trans (head?_append (head?_append rfl))

variable {w : Workbook} {s : Source} {c : Clauses} {table : Table} {name start stop : String}
  {t : ResultSet}

/-- A table that is there is not missed, whatever the clauses are. -/
theorem Engine.missesNoTable_answer (hreads : s.Reads w table name t)
    (hcolumn : ∀ column, c.selection.column? = some column → IsBracketable column) :
    MissesNoTable (answer w s.hasHeader (c.render table)) := by
  rw [answer_over hreads hcolumn]
  exact (Statement.missesNoTable_read? _ _).bind fun statement =>
    Statement.missesNoTable_evaluate _ t

/-- **A query over a table that is there misses no object.** -/
theorem Query.not_isMissing_of_fetch {q : Query} {line : Line Engine}
    (hreads : q.source.Reads line.backend.workbook table name t)
    (hpending : line.backend.pendingFailure = none) (hfits : q.SelectedFits) {e : QueryError}
    (h : (q.fetch line).1 = .error e) : ¬e.IsMissing := by
  -- a message of the engine is that of a fault in answering
  have hmessage : ∀ c resolved reference, q.clauses = .ok c →
      q.source.resolve (q.source.listed line.backend.workbook) = .ok resolved →
      line.backend.reply q.source.hasHeader (c.render resolved) ≠
        .error (Fault.unknownTable reference).message := by
    intro c resolved reference hc hresolve hreply
    obtain rfl := Except.ok.inj (hreads.resolved.symm.trans hresolve)
    rcases Engine.reply_error_cases hreply with hset | ⟨-, fault, hanswer, hwords⟩
    · cases hpending.symm.trans hset
    · obtain ⟨missed, rfl⟩ := Fault.eq_unknownTable_of_message hwords.symm
      exact Engine.missesNoTable_answer hreads (fun column => hfits c column hc) _ hanswer missed rfl
  rcases q.failsBy_fetch line e h with hrefusal | ⟨c, hc, hfails⟩
  · rintro ⟨⟩ <;> cases hrefusal
  · rintro ⟨⟩
    · cases hfails with
      | table hresolve hreply => exact hmessage c _ _ hc hresolve hreply
    · cases hfails with
      | driver hresolve hreply => exact hmessage c _ _ hc hresolve hreply

/-- However the query is finished. -/
theorem Query.not_isMissing_of_finish {q : Query} {ending : Ending} (hruns : ending.runs = true)
    {line : Line Engine} (hreads : q.source.Reads line.backend.workbook table name t)
    (hpending : line.backend.pendingFailure = none) (hfits : (q.ended ending).SelectedFits)
    {e : QueryError} (h : (q.finish ending line).1 = .error e) : ¬e.IsMissing := by
  cases q.failsBy_finish hruns line e h with
  | fetch hfetch => exact not_isMissing_of_fetch (q := q.ended ending) hreads hpending hfits hfetch
  | items hitems => exact hitems.not_isMissing
  | repeated => nofun

/-! ## Ranges -/

namespace Source

theorem isCellReference_of_checkCellReference {endpoint : RangeEnd} {value : String}
    (h : checkCellReference endpoint value = .ok ()) : isCellReference value.toList = true := by
  unfold checkCellReference at h
  split at h
  · assumption
  · cases h

/-- A source that passed its checks has ends of ranges that are references of cells. -/
theorem isCellReference_of_check (h : s.check = .ok ()) (hrange : s.table.range? = some (start, stop)) :
    isCellReference start.toList = true ∧ isCellReference stop.toList = true := by
  have hends : s.checkRange = .ok () := by
    cases hfile : s.file.isEmpty with
    | true =>
        simp only [check, hfile] at h
        cases h
    | false =>
        simp only [check, hfile] at h
        obtain ⟨⟨⟩, hends, -⟩ := bind_eq_ok_iff.mp h
        exact hends
  unfold checkRange at hends
  rw [hrange] at hends
  dsimp only at hends
  obtain ⟨⟨⟩, hstart, hends⟩ := bind_eq_ok_iff.mp hends
  obtain ⟨⟨⟩, hstop, -⟩ := bind_eq_ok_iff.mp hends
  exact ⟨isCellReference_of_checkCellReference hstart, isCellReference_of_checkCellReference hstop⟩

/-- **A range on a worksheet that is there is read**, where its ends name rows. -/
theorem reads_range (hrange : s.table.range? = some (start, stop))
    (hname : s.worksheetName (s.listed w) = .ok (some name))
    (hthere : (w.sheet? name).isSome = true) (hbracketable : IsBracketable name)
    (hstart : isCellReference start.toList = true) (hstop : isCellReference stop.toList = true)
    (hrow : 1 ≤ rowRank start.toList) (hrow' : 1 ≤ rowRank stop.toList) :
    ∃ t, s.Reads w ⟨some name, none, some (start, stop)⟩ (Workbook.rectangleName name start stop)
      t := by
  obtain ⟨grid, hgrid⟩ := Workbook.exists_grid_rectangle hthere hstart hstop hrow hrow'
  obtain ⟨hclause, hfits⟩ := Workbook.clause_rectangle hbracketable hstart hstop
  have hresolved : s.resolve (s.listed w) = .ok ⟨some name, none, some (start, stop)⟩ := by
    have hnone : s.table.namedRange? = none := by
      cases htable : s.table <;> rw [htable] at hrange <;> first | rfl | cases hrange
    rw [resolve, hname, hrange, hnone]
    rfl
  exact ⟨_, hresolved, hclause, hfits, map_eq_ok_iff.mpr ⟨grid, hgrid, rfl⟩⟩

end Source

namespace Query

/-- **A range that was let through is found.** Reading either of its ends goes on in machine words
without leaving them, and gives the position of the cell, unless the row is made of zeros. Where both
have rows, a query over a worksheet that is there does not fail for an object that could not be
found, whatever the query is and however it is finished. -/
theorem finish_range {q : Query} {start stop : String} (hcheck : q.source.check = .ok ())
    (hrange : q.source.table.range? = some (start, stop)) :
    (∀ endpoint ∈ [start, stop],
      readIn? rowLimit endpoint.toList = some (read? endpoint.toList) ∧
        read? endpoint.toList = if 1 ≤ rowRank endpoint.toList then
          some ⟨rowRank endpoint.toList - 1, columnRank endpoint.toList - 1⟩ else none) ∧
      ∀ (line : Line Engine) (name : String) (ending : Ending), ending.runs = true →
        line.backend.pendingFailure = none →
          q.source.worksheetName (q.source.listed line.backend.workbook) = .ok (some name) →
            (line.backend.workbook.sheet? name).isSome = true →
              IsBracketable name → (q.ended ending).SelectedFits →
                1 ≤ rowRank start.toList → 1 ≤ rowRank stop.toList →
                  ∀ e, (q.finish ending line).1 = .error e → ¬e.IsMissing := by
  obtain ⟨hstart, hstop⟩ := Source.isCellReference_of_check hcheck hrange
  constructor
  · intro endpoint hendpoint
    have haccepted : isCellReference endpoint.toList = true := by
      rcases List.mem_pair.mp hendpoint with rfl | rfl
      · exact hstart
      · exact hstop
    exact ⟨readIn?_of_isCellReference haccepted (by decide), read?_eq_of_isCellReference haccepted⟩
  · intro line name ending hruns hpending hname hthere hbracketable hfits hrow hrow' e he
    obtain ⟨t, hreads⟩ :=
      Source.reads_range hrange hname hthere hbracketable hstart hstop hrow hrow'
    exact not_isMissing_of_finish hruns hreads hpending hfits he

/-- The guests of age in two columns, of which the workbook has one, on rows that are more than it
has. -/
def agedInRange : Query :=
  { guestBook (.range none "a01" "B0000009") with
    model := ⟨.row, none, [.filter (.binary (.compare .ge) (.column mainSource (.named "Age"))
      (.literal (.int 18)))], []⟩ }

theorem finish_range_agedInRange :
    readIn? rowLimit "B0000009".toList = some (some ⟨8, 1⟩) ∧
      (agedInRange.finish .count (onlySheet "Sheet1")).1 =
        .error (.invalidColumnReference "Age" ["Name", "F2"]) ∧
      ¬(QueryError.invalidColumnReference "Age" ["Name", "F2"]).IsMissing := by
  have hfails : (agedInRange.finish .count (onlySheet "Sheet1")).1.map (fun _ => ()) =
      .error (.invalidColumnReference "Age" ["Name", "F2"]) := by decide +kernel
  have hfinish : (agedInRange.finish .count (onlySheet "Sheet1")).1 =
      .error (.invalidColumnReference "Age" ["Name", "F2"]) := map_eq_error_iff.mp hfails
  have hfits : (agedInRange.ended .count).SelectedFits := selectedFits_of_no_column rfl rfl
  have hcheck : agedInRange.source.check = .ok () := rfl
  have hrange : agedInRange.source.table.range? = some ("a01", "B0000009") := rfl
  obtain ⟨hends, hfound⟩ := finish_range hcheck hrange
  obtain ⟨hwords, hread⟩ := hends "B0000009" (by decide)
  have hposition : read? "B0000009".toList = some ⟨8, 1⟩ := hread.trans (by decide)
  exact ⟨hwords.trans (congrArg some hposition), hfinish,
    hfound (onlySheet "Sheet1") "Sheet1" .count rfl rfl rfl rfl (by decide) hfits (by decide)
      (by decide) _ hfinish⟩

set_option maxRecDepth 4000 in
/-- **A row of zeros is let through and not found**, on a worksheet that is there: the worksheet is
blamed. -/
theorem fetch_range_zero :
    (guestBook (.range none "A0" "B2")).source.check = .ok () ∧
      ((onlySheet "Sheet1").backend.workbook.sheet? "Sheet1").isSome = true ∧
      read? "A0".toList = none ∧
      ((guestBook (.range none "A0" "B2")).fetch (onlySheet "Sheet1")).1 =
        .error (.invalidTableReference "Sheet1" "guests.xls" ["Sheet1"]
          (Fault.unknownTable "Sheet1$A0:B2").message) :=
  ⟨rfl, rfl, rfl, rfl⟩

end Query

end SheetQuery
