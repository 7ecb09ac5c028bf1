import SheetQuery.Proofs.Session.Complement
import SheetQuery.Proofs.Session.Diagnosis

/-!
# Names in statements

A name stands in a statement between brackets and as it is, whatever quotation marks, keywords,
placeholders or opening brackets it has in it. Only a closing bracket ends it. So a statement whose
names have none can be read in one way: over the table it is aimed at, with the columns that the
query was found to use and the condition that it asks for. In particular a query that is counted
compares columns of the table only. A name with a closing bracket in it can say anything, as
`counted_without_column` shows.

Main statement: `Query.read_as_named`.
-/

namespace SheetQuery

open Sql

namespace Clauses

variable {c : Clauses} {table : Table} {s : Statement}

/-- Clauses whose statement is read can be written, as far as their names can. -/
theorem IsCovered.isWritable_of_read? (hcovered : c.IsCovered)
    (hcolumns : ∀ name ∈ c.columnsUsed, IsBracketable name)
    (h : Statement.read? (c.render table).sql.toList (c.render table).params = .ok s) :
    c.IsWritable := by
  rw [render, String.toList_ofList, chars_eq] at h
  refine hcovered.isWritable hcolumns (Selection.isWritable_of_read? ?_ h)
  exact fun column hselection => hcolumns column (hcovered.selection column hselection)

/-- There is one way to read a statement whose names fit between brackets. -/
theorem IsCovered.eq_of_read? (hcovered : c.IsCovered)
    (hcolumns : ∀ name ∈ c.columnsUsed, IsBracketable name) (htable : ']' ∉ table.reference)
    (h : Statement.read? (c.render table).sql.toList (c.render table).params = .ok s) :
    ∃ name, table.clause = bracketed name ∧ s = ⟨c.selection, name, c.condition?, c.orderBy⟩ := by
  obtain ⟨name, hclause, hname⟩ := table.clause_eq_bracketed htable
  have hwritable := hcovered.isWritable_of_read? hcolumns h
  rw [read?_render hwritable hclause hname] at h
  exact ⟨name, hclause, (Except.ok.inj h).symm⟩

end Clauses

/-! ## Columns of predicates -/

/-- Joined conditions name the columns of each of them. -/
theorem Sql.Condition.subset_columns_foldl_and {first : Condition} {rest : List Condition} :
    ∀ k ∈ first :: rest, k.columns ⊆ (rest.foldl Condition.and first).columns := by
  induction rest generalizing first with
  | nil =>
      intro k hk
      rw [List.mem_singleton.mp hk]
      exact List.Subset.refl _
  | cons second rest ih =>
      intro k hk
      rcases List.mem_cons.mp hk with rfl | hk
      · exact List.Subset.trans (List.subset_append_left _ _)
          (ih (.and k second) List.mem_cons_self)
      · rcases List.mem_cons.mp hk with rfl | hk
        · exact List.Subset.trans (List.subset_append_right _ _)
            (ih (.and first k) List.mem_cons_self)
        · exact ih k (List.mem_cons_of_mem _ hk)

/-- The columns of what a predicate asks for are named in what the query asks for. -/
theorem Model.Asks.columns_subset {mapper : Mapper} {m : Model} {selection : Selection}
    {condition : Option Condition} {orderBy : Option (String × Direction)}
    (h : m.Asks mapper selection condition orderBy) {predicate : Expr} {k : Condition}
    (hmem : predicate ∈ m.predicates) (hasks : predicate.Asks mapper m.shape k) :
    k.columns ⊆ (condition.map Condition.columns).getD [] := by
  obtain ⟨conditions, hconditions, rfl⟩ := h.condition
  obtain ⟨asked, hk, hasked⟩ := exists_of_mem_left hconditions hmem
  obtain rfl := hasks.unique hasked
  cases conditions with
  | nil => cases hk
  | cons first rest => exact Condition.subset_columns_foldl_and k hk

/-- A comparison for equality asks for something that names its column. -/
theorem Expr.Names.exists_asks_eq {mapper : Mapper} {shape : ItemShape} {access : Expr}
    {column : String} (h : access.Names mapper shape column) (v : Value) :
    ∃ k, (Expr.binary (.compare .eq) access (.literal v)).Asks mapper shape k ∧
      column ∈ k.columns := by
  cases v with
  | null => exact ⟨_, .columnNull false h .literal, List.mem_cons_self⟩
  | _ => exact ⟨_, .columnLiteral .eq h .literal rfl, List.mem_cons_self⟩

/-! ## Queries -/

namespace Query

variable {q : Query} {c : Clauses} {line : Line Engine} {table : Table} {name : String}
  {t : ResultSet}

/-- A count is answered over a table with all columns that choose the rows of the query. -/
theorem named_mem_of_count (hc : q.clauses = .ok c)
    (hcolumns : ∀ column ∈ c.columnsUsed, IsBracketable column)
    (hreads : q.source.Reads line.backend.workbook table name t) {n : Nat}
    (hcount : (q.count line).1 = .ok n) :
    ∀ column ∈ (⟨.count, name, c.condition?, c.orderBy⟩ : Statement).named,
      column ∈ t.columns := by
  obtain ⟨c₁, f, -, -, hc₁, hcounting, hfetch, -⟩ := exists_fetch_of_count hcount
  obtain rfl := Except.ok.inj (hc₁.symm.trans hc)
  obtain ⟨-, c₂, hc₂, hbrings⟩ := fetch_ok_iff.mp hfetch
  obtain rfl := Except.ok.inj (hc₂.symm.trans hcounting)
  obtain rfl : f.table = table := Except.ok.inj (hbrings.table.symm.trans hreads.resolved)
  have hwritable : ({ c₁ with selection := .count } : Clauses).IsWritable :=
    (isCovered_of_compile hcounting).isWritable hcolumns trivial
  intro column hnamed
  by_contra hunknown
  have hmissing := Source.answer_missing hreads hwritable hnamed hunknown
  cases hmissing.symm.trans hbrings.answer

/-- **Names in a statement are names.** What is read of a query whose names are free of closing
brackets is the table it is aimed at, no column beside those it was found to use, and the condition
and the ordering it asks for. So where a query is counted, the table has each column that one of its
predicates compares with a value. -/
theorem read_as_named (hc : q.clauses = .ok c)
    (hcolumns : ∀ column ∈ c.columnsUsed, IsBracketable column) :
    (∀ (table : Table) (s : Statement), ']' ∉ table.reference →
      Statement.read? (c.render table).sql.toList (c.render table).params = .ok s →
        bracketed s.table = table.clause ∧ (∀ column ∈ s.named, column ∈ c.columnsUsed) ∧
          s.condition = c.condition? ∧
          q.model.Asks q.source.mapper s.selection s.condition s.orderBy) ∧
      ∀ (line : Line Engine) (table : Table) (name : String) (t : ResultSet) (n : Nat),
        q.source.Reads line.backend.workbook table name t → (q.count line).1 = .ok n →
          ∀ (access : Expr) (column : String) (v : Value),
            access.Names q.source.mapper q.model.shape column →
              .binary (.compare .eq) access (.literal v) ∈ q.model.predicates →
                column ∈ t.columns := by
  have hcovered := isCovered_of_compile hc
  have hasks := asks_of_compile hc
  refine ⟨fun table s htable hread => ?_, fun line table name t n hreads hcount access column v
    hnames hmem => ?_⟩
  · obtain ⟨name, hclause, rfl⟩ := hcovered.eq_of_read? hcolumns htable hread
    exact ⟨hclause.symm, fun column => hcovered.named, rfl, hasks⟩
  · obtain ⟨k, hk, hcolumn⟩ := hnames.exists_asks_eq v
    have hnamed := hasks.columns_subset hmem hk hcolumn
    exact named_mem_of_count hc hcolumns hreads hcount column (List.mem_append_left _ hnamed)

end Query

/-- A worksheet whose column has an opening bracket, a placeholder, a keyword and a quotation mark
in its name. -/
def oddlyNamed : Line Engine :=
  .ofBackend (.ofWorkbook (Workbook.empty.addSheet "Guests" ["[Name = ? OR 'x"]
    [[.text "Ann"], [.text "Bob"]]))

/-- The rows of the worksheet of guests that have this value in the column of that name. -/
def guestsWith (column : String) (v : Value) : Query :=
  allGuests.filtered [.binary (.compare .eq) (.ofColumn (.named column)) (.literal v)]

theorem read_as_named_oddlyNamed :
    ((guestsWith "[Name = ? OR 'x" (.text "Ann")).count oddlyNamed).1 = .ok 1 ∧
      "[Name = ? OR 'x" ∈ ["[Name = ? OR 'x"] ∧
      ∃ c s, (guestsWith "[Name = ? OR 'x" (.text "Ann")).clauses = .ok c ∧
        Statement.read? (c.render ⟨some "Guests", none, none⟩).sql.toList
          (c.render ⟨some "Guests", none, none⟩).params = .ok s ∧
        bracketed s.table = "[Guests$]".toList ∧
        ∀ column ∈ s.named, column ∈ ["[Name = ? OR 'x"] := by
  obtain ⟨c, hc, hused⟩ : ∃ c, (guestsWith "[Name = ? OR 'x" (.text "Ann")).clauses = .ok c ∧
      c.columnsUsed = ["[Name = ? OR 'x"] := ⟨_, rfl, rfl⟩
  have hcolumns : ∀ column ∈ c.columnsUsed, IsBracketable column := by
    rw [hused]
    decide
  obtain ⟨hread, hcounted⟩ := Query.read_as_named hc hcolumns
  have hreads : (guestsWith "[Name = ? OR 'x" (.text "Ann")).source.Reads
      oddlyNamed.backend.workbook ⟨some "Guests", none, none⟩ "Guests$"
      ⟨["[Name = ? OR 'x"], [[.text "Ann"], [.text "Bob"]]⟩ := ⟨rfl, rfl, by decide, rfl⟩
  have hcount : ((guestsWith "[Name = ? OR 'x" (.text "Ann")).count oddlyNamed).1 = .ok 1 := rfl
  have hwritable := isWritable_of_compile hc hcolumns nofun
  have hstatement := Clauses.read?_render hwritable hreads.clause hreads.isBracketable
  obtain ⟨htable, hnamed, -⟩ := hread _ _ (by decide) hstatement
  exact ⟨hcount, hcounted _ _ _ _ _ hreads hcount _ _ _ (.named _ nofun) List.mem_cons_self,
    c, _, hc, hstatement, htable, hused ▸ hnamed⟩

/-- **A name with a closing bracket says what it wants**: the comparison of a column that is not
there is counted as one of two columns that are. -/
theorem counted_without_column :
    ¬ ∀ (q : Query) (line : Line Engine) (table : Table) (name : String) (t : ResultSet) (n : Nat)
      (column : String) (v : Value), q.source.Reads line.backend.workbook table name t →
        .binary (.compare .eq) (.ofColumn (.named column)) (.literal v) ∈ q.model.predicates →
          (q.count line).1 = .ok n → column ∈ t.columns := by
  intro h
  have hclaimed := h (guestsWith "Name] = 'x') OR ([Age" (.int 31)) guests _ _ _ 1
    "Name] = 'x') OR ([Age" (.int 31) reads_guests List.mem_cons_self rfl
  exact absurd hclaimed (by decide)

end SheetQuery
