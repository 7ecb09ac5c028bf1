import SheetQuery.Proofs.Materialize.Arranging
import SheetQuery.Proofs.Materialize.Casting
import SheetQuery.Proofs.Session.Agreeing
import SheetQuery.Proofs.Session.Covering

/-!
# Records over columns in another order

The columns of a worksheet change places, alike in its header and in its rows. Every query for
records is then finished as it was: the text of its statement is the same, the workbook looks its
columns up by their names, and so do the records. It has to be that worksheet which is read, though.
A closing bracket in the name of the worksheet or of the aggregated column ends a name early, and
what stands behind it may aim the statement at a part of the worksheet, as `aimed_elsewhere` shows.

Main statement: `Query.finish_arranged`.
-/

namespace SheetQuery

open Sql

/-! ## The table that is read -/

/-- A statement is read with its selection and over the table that its clause names, whatever other
names it has. -/
theorem Engine.aim_of_read? {c : Clauses} {table : Table} {name : String} {s : Statement}
    (hc : c.selection.IsWritable) (hclause : table.clause = bracketed name)
    (hname : IsBracketable name)
    (h : Statement.read? ("SELECT ".toList ++ (c.selection.chars ++ (" FROM ".toList ++
      source c table))) c.params = .ok s) : s.selection = c.selection ∧ s.table = name := by
  obtain ⟨tokens, t, htokens, ht, rfl⟩ := (Statement.read?_ok_iff hc).mp h
  rw [source, hclause, yields_name hname] at htokens
  obtain ⟨behind, -, rfl⟩ := map_eq_ok_iff.mp htokens
  obtain ⟨c₁, hfrom, ht⟩ := bind_eq_ok_iff.mp ht
  rw [Cursor.keyword_token] at hfrom
  cases hfrom
  obtain ⟨⟨first, c₂⟩, hfirst, ht⟩ := bind_eq_ok_iff.mp ht
  cases hfirst
  obtain ⟨⟨condition, c₃⟩, -, ht⟩ := bind_eq_ok_iff.mp ht
  obtain ⟨⟨orderBy, c₄⟩, -, ht⟩ := bind_eq_ok_iff.mp ht
  obtain ⟨u, -, ht⟩ := bind_eq_ok_iff.mp ht
  cases ht
  exact ⟨rfl, String.ofList_toList⟩

/-- Over a table that is there, what is read as a statement is evaluated over it, with the selection
that was meant. -/
theorem Engine.answer_over {s : Source} {w : Workbook} {c : Clauses} {table : Table} {name : String}
    {t : ResultSet} (hreads : s.Reads w table name t)
    (hcolumn : ∀ column, c.selection.column? = some column → IsBracketable column) :
    answer w s.hasHeader (c.render table) =
      (Statement.read? (c.render table).sql.toList (c.render table).params).bind fun statement =>
        { statement with selection := c.selection }.evaluate t := by
  unfold answer
  cases hread : Statement.read? (c.render table).sql.toList (c.render table).params with
  | error fault => rfl
  | ok statement =>
      rw [Clauses.render, String.toList_ofList, Clauses.chars_eq] at hread
      have hwritable := Selection.isWritable_of_read? hcolumn hread
      obtain ⟨hselection, rfl⟩ :=
        aim_of_read? hwritable hreads.clause hreads.isBracketable hread
      rw [ok_bind, hreads.shown, ← hselection]
      rfl

namespace Source

/-- **A tidy worksheet is read** as a whole, under its header. -/
structure ReadsTidy (s : Source) (w : Workbook) (sheet : String) (header : List Value)
    (rows : Grid) : Prop where
  whole : ∃ choice, s.table = .worksheet choice
  hasHeader : s.hasHeader = true
  named : s.worksheetName (s.listed w) = .ok (some sheet)
  shown : w.sheet? sheet = some (header :: rows)
  tidy : Grid.IsTidy header rows

variable {s : Source} {w : Workbook} {c : Clauses} {sheet : String} {header : List Value}
  {rows : Grid} {order : List Nat}

theorem listed_arranged (s : Source) (w : Workbook) (sheet : String) (order : List Nat) :
    s.listed (w.arranged sheet order) = s.listed w := by
  rw [listed, listed, w.tableNames_arranged]

theorem ReadsTidy.resolve (h : s.ReadsTidy w sheet header rows) :
    s.resolve (s.listed w) = .ok ⟨some sheet, none, none⟩ := by
  obtain ⟨choice, hwhole⟩ := h.whole
  rw [Source.resolve, h.named, hwhole]
  rfl

section Arranged

variable (h : s.ReadsTidy w sheet header rows) (hsheet : IsBracketable sheet)
  (horder : order.Perm (List.range header.length))
  (hcolumn : ∀ column, c.selection.column? = some column → IsBracketable column)

include h hsheet horder hcolumn

/-- **The answers have the same cells under the same names.** -/
theorem ReadsTidy.answer_arranged :
    Matched ResultSet.SameCells
      (Engine.answer w s.hasHeader (c.render ⟨some sheet, none, none⟩))
      (Engine.answer (w.arranged sheet order) s.hasHeader (c.render ⟨some sheet, none, none⟩)) := by
  rw [Engine.answer_read, Engine.answer_read]
  cases hread : Statement.read? ("SELECT ".toList ++ (c.selection.chars ++ (" FROM ".toList ++
      Engine.source c ⟨some sheet, none, none⟩))) c.params with
  | error fault => exact .error _ fault fault
  | ok statement =>
      obtain ⟨name, hclause, hname, hreference⟩ := Table.exists_clause_worksheet hsheet
      have hwritable := Selection.isWritable_of_read? hcolumn hread
      obtain ⟨-, rfl⟩ := Engine.aim_of_read? hwritable hclause hname hread
      obtain ⟨t, t', ht, ht', hsame⟩ :=
        w.exists_tables_arranged h.shown h.tidy horder hreference
      rw [h.hasHeader, ok_bind, ok_bind, ht, ht']
      exact hsame.evaluate statement

end Arranged

/-- What is brought back hangs on where the table is found and on the answer, of which the check
takes the names. -/
theorem Brings.of_columns_perm {w' : Workbook} {f : Fetched} {r : ResultSet}
    (hbrings : s.Brings w c f) (hlisted : s.listed w' = s.listed w)
    (hanswer : Engine.answer w' s.hasHeader (c.render f.table) = .ok r)
    (hperm : r.columns.Perm f.result.columns) : s.Brings w' c ⟨f.table, r⟩ where
  table := hlisted ▸ hbrings.table
  answer := hanswer
  used := checkUsed_ok_iff.mpr fun hwhole _ hname =>
    hperm.mem_iff.mpr (mem_of_checkUsed hwhole hbrings.used hname)

end Source

/-- Fetched from the same table, with the same cells under the same names. -/
def Fetched.Alike (f f' : Fetched) : Prop :=
  f'.table = f.table ∧ f.result.SameCells f'.result

/-! ## Queries -/

namespace Query

open SheetQuery.Action

variable {q : Query} {line line' : Line Engine} {ending : Ending} {sheet : String}
  {header : List Value} {rows : Grid} {order : List Nat}

/-- The name of the column that the query has the workbook select fits between brackets. -/
def SelectedFits (q : Query) : Prop :=
  ∀ c column, q.clauses = .ok c → c.selection.column? = some column → IsBracketable column

theorem selectedFits_of_no_column {c : Clauses} (hc : q.clauses = .ok c)
    (hnone : c.selection.column? = none) : q.SelectedFits := by
  intro c' column hc' hcolumn
  obtain rfl := Except.ok.inj (hc.symm.trans hc')
  cases hnone.symm.trans hcolumn

section Arranged

variable (hview : line'.view =
    (line.backend.workbook.arranged sheet order, line.backend.pendingFailure))
  (horder : order.Perm (List.range header.length)) (hsheet : IsBracketable sheet)

include hview horder hsheet

/-- What is fetched has the same cells under the same names. -/
theorem fetch_arranged (h : q.source.ReadsTidy line.backend.workbook sheet header rows)
    (hfits : q.SelectedFits) :
    Matched Fetched.Alike (q.fetch line).1 (q.fetch line').1 := by
  obtain ⟨hworkbook, hpending⟩ := Prod.mk.inj hview
  have hlisted := q.source.listed_arranged line.backend.workbook sheet order
  have hanswers : ∀ c, q.clauses = .ok c → Matched ResultSet.SameCells _ _ := fun c hc =>
    h.answer_arranged hsheet horder fun column => hfits c column hc
  constructor
  · intro f hf
    obtain ⟨hnone, c, hc, hbrings⟩ := fetch_ok_iff.mp hf
    have htable : f.table = ⟨some sheet, none, none⟩ :=
      Except.ok.inj (hbrings.table.symm.trans h.resolve)
    obtain ⟨r, hr, hsame⟩ := (hanswers c hc).1 f.result (htable ▸ hbrings.answer)
    refine ⟨⟨f.table, r⟩, fetch_ok_iff.mpr ⟨hpending ▸ hnone, c, hc, ?_⟩, rfl, hsame⟩
    rw [hworkbook]
    exact hbrings.of_columns_perm hlisted (htable ▸ hr) hsame.columns_perm
  · intro f hf
    obtain ⟨hnone, c, hc, hbrings⟩ := fetch_ok_iff.mp hf
    rw [hworkbook] at hbrings
    have htable : f.table = ⟨some sheet, none, none⟩ :=
      Except.ok.inj (hbrings.table.symm.trans (hlisted ▸ h.resolve))
    obtain ⟨r, hr, hsame⟩ := (hanswers c hc).2 f.result (htable ▸ hbrings.answer)
    refine ⟨⟨f.table, r⟩, fetch_ok_iff.mpr ⟨hpending ▸ hnone, c, hc, ?_⟩, rfl, hsame⟩
    exact hbrings.of_columns_perm hlisted.symm (htable ▸ hr) hsame.columns_perm.symm

/-- The records that are made of it, or the computed value, are the same. -/
theorem materialized_arranged {t : RecordType} (htype : q.type = .record t)
    (h : q.source.ReadsTidy line.backend.workbook sheet header rows) (hfits : q.SelectedFits) :
    Action.AgreeAt q.materialized line q.materialized line' := by
  have hfetched := fetch_arranged hview horder hsheet h hfits
  intro made
  rw [materialized_ok_iff, materialized_ok_iff, htype]
  constructor
  · rintro ⟨f, hf, hmade⟩
    obtain ⟨f', hf', htable, hsame⟩ := hfetched.1 f hf
    exact ⟨f', hf', htable ▸ (Materializer.materialize_sameCells hsame).mp hmade⟩
  · rintro ⟨f', hf', hmade⟩
    obtain ⟨f, hf, htable, hsame⟩ := hfetched.2 f' hf'
    exact ⟨f, hf, (Materializer.materialize_sameCells hsame).mpr (htable ▸ hmade)⟩

end Arranged

/-- Finishing a query does not make its values distinct. -/
theorem hasDistinct_ended (q : Query) (ending : Ending) :
    (q.ended ending).model.hasDistinct = q.model.hasDistinct := by
  have hadded : ∀ operator, ending.operator? = some operator → operator.isDistinct = false := by
    intro operator hoperator
    cases ending with
    | aggregate function =>
        cases hoperator
        cases function <;> rfl
    | _ => cases hoperator <;> rfl
  unfold ended Model.ended
  split
  · next operator hoperator =>
      simp [Model.withOperator, Model.hasDistinct, hadded operator hoperator]
  · rfl

/-- **Where the columns of a worksheet stand does not matter to its records.** With the columns of a
tidy worksheet in another order, every query for records without different values is finished in
every way exactly when it is over the worksheet as it is, and with the same answer. -/
theorem finish_arranged {t : RecordType} (htype : q.type = .record t)
    (hdistinct : q.model.hasDistinct = false)
    (h : q.source.ReadsTidy line.backend.workbook sheet header rows)
    (horder : order.Perm (List.range header.length))
    (hview : line'.view =
      (line.backend.workbook.arranged sheet order, line.backend.pendingFailure))
    (hsheet : IsBracketable sheet) (hfits : (q.ended ending).SelectedFits) (a : Answer) :
    (q.finish ending line).1 = .ok a ↔ (q.finish ending line').1 = .ok a := by
  have hruns : ending.runs = true →
      ((q.finish ending line).1 = .ok a ↔ (q.finish ending line').1 = .ok a) := by
    intro hruns
    refine finish_agree hruns ?_ a
    constructor
    · rfl
    · rfl
    · exact materialized_arranged hview horder hsheet htype h hfits
    · intro hended
      rw [hasDistinct_ended, hdistinct] at hended
      cases hended
  obtain ⟨hworkbook, -⟩ := Prod.mk.inj hview
  cases ending with
  | statement =>
      simp only [finish, map_ok_iff, statement_ok_iff, hworkbook, Source.listed_arranged]
  | clauses => exact Iff.rfl
  | unrun => exact Iff.rfl
  | _ => exact hruns rfl

end Query

/-- Guests with their ages. -/
def agedGuests : Workbook :=
  Workbook.empty.addGrid "Sheet1" [[.text "Name", .text "Years"], [.text "Ann", .int 31],
    [.text "Bob", .int 9], [.text "Cid", .int 18]]

/-- The guests of age by name, but for the first. -/
def laterAdults : Query :=
  ⟨⟨"guests.xls", .worksheet none, true, ⟨[("Age", "Years")], []⟩, .standard⟩,
    .record Materializer.guestType,
    ⟨.record "Guest", none,
      [.filter (.binary (.compare .ge) (.member mainSource "Age") (.literal (.int 18))),
        .orderBy [⟨.member mainSource "Name", .ascending⟩]], [.skip 1]⟩⟩

theorem finish_arranged_laterAdults :
    (laterAdults.finish .items (.ofBackend (Engine.ofWorkbook agedGuests))).1 =
        .ok (.items [.record ⟨Materializer.guestType, [.text "Cid", .int 18]⟩]) ∧
      (laterAdults.finish .items
        (.ofBackend (Engine.ofWorkbook (agedGuests.arranged "Sheet1" [1, 0])))).1 =
          .ok (.items [.record ⟨Materializer.guestType, [.text "Cid", .int 18]⟩]) := by
  have hitems : (laterAdults.finish .items (.ofBackend (Engine.ofWorkbook agedGuests))).1 =
      .ok (.items [.record ⟨Materializer.guestType, [.text "Cid", .int 18]⟩]) := rfl
  have hreads : laterAdults.source.ReadsTidy agedGuests "Sheet1" [.text "Name", .text "Years"]
      [[.text "Ann", .int 31], [.text "Bob", .int 9], [.text "Cid", .int 18]] :=
    ⟨⟨none, rfl⟩, rfl, rfl, rfl, by decide, by decide, by decide⟩
  have hfits : (laterAdults.ended .items).SelectedFits := by
    rintro c column hc hcolumn
    cases hc
    cases hcolumn
  exact ⟨hitems, (Query.finish_arranged rfl rfl hreads (by decide) rfl (by decide) hfits _).mp
    hitems⟩

/-- People whose names stand in columns with closing brackets and quotation marks in their names. -/
def oddPeople : Query :=
  ⟨⟨"people.xls", .worksheet none, true,
      ⟨[("Name", "A]) FROM [Sheet1$A1:A2] WHERE [A] <> 'x"), ("CEO", "' ORDER BY [A")], []⟩,
      .standard⟩,
    .record (((RecordType.named "Person").field "Name" ⟨.text, false⟩).field "CEO" ⟨.text, false⟩),
    ⟨.record "Person", some (.member mainSource "Name"),
      [.orderBy [⟨.member mainSource "CEO", .ascending⟩]], []⟩⟩

/-- Two columns, of which the first is a part of the worksheet. -/
def twoColumns : Workbook :=
  Workbook.empty.addGrid "Sheet1" [[.text "A", .text "B"], [.text "y", .text "z"]]

/-- **A name with a closing bracket aims the statement elsewhere**: at the first column of the
worksheet, whichever that is. -/
theorem aimed_elsewhere :
    ¬ ∀ (q : Query) (t : RecordType) (line line' : Line Engine) (sheet : String)
      (header : List Value) (rows : Grid) (order : List Nat) (ending : Ending) (a : Answer),
        q.IsTyped → q.type = .record t → t.check = .ok () → q.model.hasDistinct = false →
          q.source.ReadsTidy line.backend.workbook sheet header rows →
            order.Perm (List.range header.length) →
              line'.view = (line.backend.workbook.arranged sheet order,
                line.backend.pendingFailure) →
                ((q.finish ending line).1 = .ok a ↔ (q.finish ending line').1 = .ok a) := by
  intro h
  have hreads : oddPeople.source.ReadsTidy twoColumns "Sheet1" [.text "A", .text "B"]
      [[.text "y", .text "z"]] := ⟨⟨none, rfl⟩, rfl, rfl, rfl, by decide, by decide, by decide⟩
  have hfirst : (oddPeople.finish (.aggregate .min)
      (.ofBackend (Engine.ofWorkbook twoColumns))).1.isOk = true := by decide +kernel
  have hsecond : (oddPeople.finish (.aggregate .min)
      (.ofBackend (Engine.ofWorkbook (twoColumns.arranged "Sheet1" [1, 0])))).1.isOk = false := by
    decide +kernel
  cases ha : (oddPeople.finish (.aggregate .min)
      (.ofBackend (Engine.ofWorkbook twoColumns))).1 with
  | error e =>
      rw [ha] at hfirst
      cases hfirst
  | ok a =>
      have hclaimed := h oddPeople _ (.ofBackend (Engine.ofWorkbook twoColumns))
        (.ofBackend (Engine.ofWorkbook (twoColumns.arranged "Sheet1" [1, 0]))) _ _ _ [1, 0]
        (.aggregate .min) a ⟨rfl, rfl⟩ rfl rfl rfl hreads (by decide) rfl
      rw [hclaimed.mp ha] at hsecond
      cases hsecond

end SheetQuery
