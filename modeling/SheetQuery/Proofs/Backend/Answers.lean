import SheetQuery.Proofs.Compile.RoundTrip
import SheetQuery.Proofs.Session.Running
import SheetQuery.Proofs.Workbook.Tables

/-!
# Answers of a workbook

A statement reaches the workbook as text, and there only the reference between the brackets says
what is read. Where the names of the clauses and the reference fit between brackets, the answer is
that of the statement that was meant, over the table behind the reference. A worksheet that is there
always has a table, also one of a comma-separated file, whose reference goes without the dollar
sign.

Main statements: `Engine.answer_eq` and `Source.reads_worksheet`.
-/

namespace SheetQuery

open Sql

/-- The workbook has, behind the reference of the source, this table. -/
structure Source.Reads (s : Source) (w : Workbook) (table : Table) (name : String) (t : ResultSet) :
    Prop where
  resolved : s.resolve (s.listed w) = .ok table
  clause : table.clause = bracketed name
  isBracketable : IsBracketable name
  shown : w.table name s.hasHeader = .ok t

/-- The workbook reads the statement that was meant, whether there is a table for it or not. -/
theorem Engine.answer_of_isWritable {w : Workbook} {hasHeader : Bool} {c : Clauses} {table : Table}
    {name : String} (hc : c.IsWritable) (hclause : table.clause = bracketed name)
    (hname : IsBracketable name) :
    answer w hasHeader (c.render table) = w.table name hasHeader >>=
      Statement.evaluate ⟨c.selection, name, c.condition?, c.orderBy⟩ := by
  unfold answer
  rw [Clauses.read?_render hc hclause hname, ok_bind]

/-- **The answer to a statement** is that of the clauses it was rendered from. -/
theorem Engine.answer_eq {w : Workbook} {hasHeader : Bool} {c : Clauses} {table : Table}
    {name : String} {t : ResultSet} (hc : c.IsWritable) (hclause : table.clause = bracketed name)
    (hname : IsBracketable name) (ht : w.table name hasHeader = .ok t) :
    answer w hasHeader (c.render table) =
      Statement.evaluate ⟨c.selection, name, c.condition?, c.orderBy⟩ t := by
  rw [answer_of_isWritable hc hclause hname, ht, ok_bind]

/-! ## Whole rows -/

theorem checkNames_eq_ok {table : ResultSet} {names : List String}
    (h : ∀ name ∈ names, name ∈ table.columns) : checkNames table names = .ok () :=
  if_pos (List.all_eq_true.mpr fun name hname => List.contains_iff_mem.mpr (h name hname))

/-- Over a table with its columns, a condition without an ordering selects the rows it holds of. -/
theorem Sql.Statement.evaluate_all {name : String} {condition : Option Condition} {t : ResultSet}
    (h : ∀ k, condition = some k → ∀ column ∈ k.columns, column ∈ t.columns) :
    Statement.evaluate ⟨.all, name, condition, none⟩ t =
      .ok ⟨t.columns, filterRows t condition⟩ := by
  have hnames : checkNames t ((condition.map Condition.columns).getD []) = .ok () := by
    cases condition with
    | none => exact checkNames_eq_ok nofun
    | some k => exact checkNames_eq_ok (h k rfl)
  exact bind_eq_ok_iff.mpr ⟨_, bind_eq_ok_iff.mpr ⟨(), hnames, rfl⟩, rfl⟩

/-- The text that asks for all rows is answered with the table as it is. -/
theorem Engine.answer_all {w : Workbook} {hasHeader : Bool} {table : Table} {name : String}
    {t : ResultSet} (hclause : table.clause = bracketed name) (hname : IsBracketable name)
    (ht : w.table name hasHeader = .ok t) :
    answer w hasHeader (Clauses.all.render table) = .ok t := by
  have hwritable : Clauses.all.IsWritable := ⟨trivial, nofun, nofun⟩
  have hevaluate : Statement.evaluate ⟨.all, name, none, none⟩ t = .ok t :=
    Statement.evaluate_all nofun
  exact (answer_eq hwritable hclause hname ht).trans hevaluate

theorem firstUnknown?_eq_none {used known : List String} (h : ∀ name ∈ used, name ∈ known) :
    firstUnknown? used known = none := by
  rw [firstUnknown?, List.find?_eq_none]
  intro name hname
  simpa using h name hname

theorem Source.checkUsed_eq_ok {c : Clauses} {columns : List String}
    (h : ∀ name ∈ c.columnsUsed, name ∈ columns) : checkUsed c columns = .ok () := by
  unfold checkUsed
  rw [firstUnknown?_eq_none h]
  split <;> rfl

/-! ## Worksheets -/

/-- The reference of a whole worksheet is its name, with a dollar sign unless the name is that of a
comma-separated file. -/
theorem Table.clause_worksheet {sheet : String} (h : IsBracketable sheet) :
    (⟨some sheet, none, none⟩ : Table).clause =
      bracketed (if isCsvName sheet.toList then sheet else sheet.push '$') := by
  have hreference : (⟨some sheet, none, none⟩ : Table).reference = sheet.toList ++ ['$'] := rfl
  have hfits : ']' ∉ (⟨some sheet, none, none⟩ : Table).reference := by
    rw [hreference, List.mem_append, not_or]
    exact ⟨h, by decide⟩
  rw [clause_eq hfits, hreference, List.getLast?_concat, List.dropLast_concat]
  by_cases hcsv : isCsvName sheet.toList
  · simp [hcsv]
  · simp [hcsv, bracketed]

/-- So its reference is one of two names, and fits between brackets as the name of the worksheet
does. -/
theorem Table.exists_clause_worksheet {sheet : String} (h : IsBracketable sheet) :
    ∃ name, (⟨some sheet, none, none⟩ : Table).clause = bracketed name ∧ IsBracketable name ∧
      (name = sheet ∨ name = sheet.push '$') := by
  have hclause := clause_worksheet h
  split at hclause
  · exact ⟨sheet, hclause, h, Or.inl rfl⟩
  · exact ⟨sheet.push '$', hclause, by simpa [IsBracketable] using h, Or.inr rfl⟩

/-- **A worksheet that is there is read**, whatever the source asks for it by. -/
theorem Source.reads_worksheet {s : Source} {w : Workbook} {choice : Option Worksheet}
    {sheet : String} (hwhole : s.table = .worksheet choice)
    (hname : s.worksheetName (s.listed w) = .ok (some sheet))
    (hsheet : (w.sheet? sheet).isSome = true) (hbracketable : IsBracketable sheet) :
    ∃ table name t, s.Reads w table name t := by
  obtain ⟨grid, hgrid⟩ := Option.isSome_iff_exists.mp hsheet
  have hresolved : s.resolve (s.listed w) = .ok ⟨some sheet, none, none⟩ := by
    rw [resolve, hname, hwhole]
    rfl
  obtain ⟨reference, hclause, hfits, rfl | rfl⟩ := Table.exists_clause_worksheet hbracketable
  · refine ⟨_, _, _, hresolved, hclause, hfits, map_eq_ok_iff.mpr ⟨grid, ?_, rfl⟩⟩
    rw [Workbook.grid, hgrid]
  · exact ⟨_, _, _, hresolved, hclause, hfits,
      map_eq_ok_iff.mpr ⟨_, Workbook.grid_push hgrid, rfl⟩⟩

end SheetQuery
