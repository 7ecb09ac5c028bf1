import SheetQuery.Proofs.Backend.Answers
import SheetQuery.Proofs.Compile.Filtering
import SheetQuery.Proofs.Session.Finishing
import SheetQuery.Proofs.Sql.Selecting

/-!
# Unknown columns

A column that the table lacks stops a statement wherever it is named: in the condition, in the
ordering or in what is selected. The workbook itself says only that something is missing. Which
column that is comes out afterwards, when the columns of the table are asked for over the same
connection: the first one used that is not among them is to blame, and all of them are listed.

The one way around is a table whose name occurs in the words of the workbook. Then the message is
taken to mean the table.

Main statement: `Query.finish_unknown_column`.
-/

namespace SheetQuery

open Sql

/-! ## Statements -/

/-- The columns that a statement names. -/
def Sql.Statement.named (s : Statement) : List String :=
  (s.condition.map Condition.columns).getD [] ++
    (s.orderBy.toList.map Prod.fst ++ s.selection.column?.toList)

theorem checkNames_cases (table : ResultSet) (names : List String) :
    checkNames table names = .ok () ∧ (∀ name ∈ names, name ∈ table.columns) ∨
      checkNames table names = .error .missingParameter := by
  unfold checkNames
  split
  · next hall =>
      refine Or.inl ⟨rfl, ?_⟩
      intro name hname
      exact List.contains_iff_mem.mp (List.all_eq_true.mp hall name hname)
  · exact Or.inr rfl

theorem position_cases (table : ResultSet) (name : String) :
    (∃ i, position table name = .ok i) ∧ name ∈ table.columns ∨
      position table name = .error .missingParameter := by
  unfold position
  cases h : table.position? name with
  | none => exact Or.inr rfl
  | some i =>
      obtain ⟨hlt, hname, -⟩ := List.findIdx?_eq_some_iff_getElem.mp h
      have heq : table.columns[i] = name := by simpa using hname
      exact Or.inl ⟨⟨i, rfl⟩, heq ▸ List.getElem_mem hlt⟩

namespace Sql.Statement

/-- The rows of a statement are there, with the columns that choose and order them, or something is
missing. -/
theorem sourceRows_cases (s : Statement) (table : ResultSet) :
    (∃ rows, s.sourceRows table = .ok rows ∧
        (∀ name ∈ (s.condition.map Condition.columns).getD [], name ∈ table.columns) ∧
        ∀ name ∈ s.orderBy.toList.map Prod.fst, name ∈ table.columns) ∨
      s.sourceRows table = .error .missingParameter := by
  unfold sourceRows
  rcases checkNames_cases table ((s.condition.map Condition.columns).getD []) with
    ⟨hcheck, hnames⟩ | hcheck
  · rw [hcheck, ok_bind]
    cases s.orderBy with
    | none => exact Or.inl ⟨_, rfl, hnames, nofun⟩
    | some ordering =>
        obtain ⟨key, direction⟩ := ordering
        rcases position_cases table key with ⟨⟨i, hi⟩, hkey⟩ | hmissing
        · refine Or.inl ⟨sortRows i direction (filterRows table s.condition), ?_, hnames, ?_⟩
          · simp only [hi]
            rfl
          · simpa using hkey
        · refine Or.inr ?_
          simp only [hmissing]
          rfl
  · rw [hcheck]
    exact Or.inr rfl

theorem select_cases (table : ResultSet) (rows : List (List Value)) (selection : Selection) :
    (∀ name ∈ selection.column?.toList, name ∈ table.columns) ∨
      select table rows selection = .error .missingParameter := by
  have hcolumn : ∀ column, (∀ name ∈ (some column).toList, name ∈ table.columns) ∨
      position table column = .error .missingParameter := by
    intro column
    rcases position_cases table column with ⟨-, hmem⟩ | hmissing
    · exact Or.inl (by simpa using hmem)
    · exact Or.inr hmissing
  cases selection with
  | all => exact Or.inl nofun
  | top n => exact Or.inl nofun
  | count => exact Or.inl nofun
  | distinct column =>
      refine (hcolumn column).imp id ?_
      intro hmissing
      rw [select, hmissing]
      rfl
  | aggregate function column =>
      refine (hcolumn column).imp id ?_
      intro hmissing
      rw [select, hmissing]
      rfl

/-- **A statement with an unknown column fails**, wherever it names the column, and says only that
something is missing. -/
theorem evaluate_missing {s : Statement} {table : ResultSet} {column : String}
    (hnamed : column ∈ s.named) (hunknown : column ∉ table.columns) :
    s.evaluate table = .error .missingParameter := by
  unfold evaluate
  rcases s.sourceRows_cases table with ⟨rows, hrows, hnames, hkeys⟩ | hmissing
  · rw [hrows, ok_bind]
    rcases select_cases table rows s.selection with hcolumns | hmissing
    · rcases List.mem_append.mp hnamed with hmem | hmem
      · exact absurd (hnames column hmem) hunknown
      · rcases List.mem_append.mp hmem with hmem | hmem
        · exact absurd (hkeys column hmem) hunknown
        · exact absurd (hcolumns column hmem) hunknown
    · exact hmissing
  · rw [hmissing]
    rfl

end Sql.Statement

/-! ## Fetching -/

/-- The columns that a statement names are among those that its clauses were found to use. -/
theorem Clauses.IsCovered.named {c : Clauses} (h : c.IsCovered) {name column : String}
    (hnamed : column ∈ (⟨c.selection, name, c.condition?, c.orderBy⟩ : Statement).named) :
    column ∈ c.columnsUsed := by
  rcases List.mem_append.mp hnamed with hmem | hmem
  · unfold condition? at hmem
    cases hfilter : c.filter with
    | none =>
        rw [hfilter] at hmem
        cases hmem
    | some filter =>
        rw [hfilter] at hmem
        exact h.filter filter hfilter column (Filter.mem_columns_condition.mp hmem)
  · rcases List.mem_append.mp hmem with hmem | hmem
    · obtain ⟨⟨key, direction⟩, hkey, rfl⟩ := List.mem_map.mp hmem
      exact h.orderBy key direction (Option.mem_toList.mp hkey)
    · exact h.selection column (Option.mem_toList.mp hmem)

/-- The first name that is not known has only known ones before it. -/
theorem firstUnknown?_split {used known : List String} {column : String} (hused : column ∈ used)
    (hunknown : column ∉ known) :
    ∃ before first after, used = before ++ first :: after ∧ (∀ name ∈ before, name ∈ known) ∧
      first ∉ known ∧ firstUnknown? used known = some first := by
  unfold firstUnknown?
  cases hfind : used.find? (!known.contains ·) with
  | none =>
      have hknown := List.find?_eq_none.mp hfind column hused
      exact absurd (by simpa using hknown) hunknown
  | some first =>
      obtain ⟨hfirst, before, after, hsplit, hbefore⟩ := List.find?_eq_some_iff_append.mp hfind
      refine ⟨before, first, after, hsplit, ?_, by simpa using hfirst, rfl⟩
      intro name hname
      simpa using hbefore name hname

theorem Engine.reply_of_answer {e : Engine} (hpending : e.pendingFailure = none) {hasHeader : Bool}
    {statement : Rendered} {r : ResultSet} (h : answer e.workbook hasHeader statement = .ok r) :
    e.reply hasHeader statement = .ok ⟨r, none⟩ := by
  simp only [reply, hpending, h]

theorem Engine.reply_of_fault {e : Engine} (hpending : e.pendingFailure = none) {hasHeader : Bool}
    {statement : Rendered} {fault : Fault} (h : answer e.workbook hasHeader statement = .error fault) :
    e.reply hasHeader statement = .error fault.message := by
  simp only [reply, hpending, h]

namespace Source

variable {s : Source} {line : Line Engine} {table : Table} {name : String} {t : ResultSet}

/-- The columns of a table that is there can be had over an open connection. -/
theorem columnNames_run (hreads : s.Reads line.backend.workbook table name t)
    (hpending : line.backend.pendingFailure = none) :
    (Action.columnNames s.spec table line).1 = .ok (.ok t.columns) := by
  have hall := Engine.answer_all hreads.clause hreads.isBracketable hreads.shown
  have hfirst := Engine.answer_top (Nat.one_lt_two_pow (by decide)) rfl hall
  have hreply : line.backend.reply s.spec.hasHeader (Action.columnStatement table) = _ :=
    Engine.reply_of_answer hpending hfirst
  refine Action.bind_ok_iff.mpr ⟨_, rfl, ?_⟩
  show Except.ok ((line.backend.reply s.spec.hasHeader (Action.columnStatement table)).map
    fun r => r.table.columns) = _
  rw [hreply]
  rfl

/-- What a message comes to that does not name the table: the first used column that the table lacks
is to blame, and the message is passed on if there is none. -/
theorem failure_run (line : Line Engine) (hreads : s.Reads line.backend.workbook table name t)
    (hpending : line.backend.pendingFailure = none) {message : String}
    (hother : ¬(table.displayName ≠ "" ∧ Text.holds message.toList table.displayName.toList))
    (used : List String) :
    (s.failure table used message line).1 = .ok ((firstUnknown? used t.columns).elim
      (.driver message) fun first => .invalidColumnReference first t.columns) := by
  unfold failure
  rw [if_neg hother]
  unfold columnFailure
  rw [Action.bind_ok_iff]
  refine ⟨.ok t.columns, columnNames_run hreads hpending, ?_⟩
  cases hfirst : firstUnknown? used t.columns with
  | none =>
      simp only [hfirst]
      rfl
  | some first =>
      simp only [hfirst]
      rfl

variable {c : Clauses} {column : String}

/-- A message for the statement is looked into over the line behind the statement. -/
theorem fetch_of_failure (hresolved : s.resolve (s.listed line.backend.workbook) = .ok table)
    {message : String}
    (hreply : line.backend.reply s.spec.hasHeader (c.render table) = .error message)
    {e : QueryError} (h : (s.failure table c.columnsUsed message
      { line with backend := line.backend.record (c.render table) }).1 = .ok e) :
    (s.fetch c line).1 = .error e := by
  have hlocate : s.locate line = (.ok table, line) := by rw [locate_run, hresolved]
  have hask : Action.ask (Backend.execute s.spec (c.render table)) line = (.ok (.error message),
      { line with backend := line.backend.record (c.render table) }) :=
    Prod.ext (congrArg Except.ok hreply) rfl
  unfold fetch
  rw [Action.bind_run hlocate, Action.bind_run hask]
  exact Action.bind_throw_run h

theorem answer_missing (hreads : s.Reads line.backend.workbook table name t) (hc : c.IsWritable)
    (hnamed : column ∈ (⟨c.selection, name, c.condition?, c.orderBy⟩ : Statement).named)
    (hunknown : column ∉ t.columns) :
    Engine.answer line.backend.workbook s.spec.hasHeader (c.render table) =
      .error .missingParameter := by
  have hanswer := Engine.answer_eq hc hreads.clause hreads.isBracketable hreads.shown
  rw [Statement.evaluate_missing hnamed hunknown] at hanswer
  exact hanswer

/-- What a statement with an unknown column comes to over an open connection. -/
theorem fetch_missing (hreads : s.Reads line.backend.workbook table name t)
    (hpending : line.backend.pendingFailure = none) (hc : c.IsWritable)
    (hnamed : column ∈ (⟨c.selection, name, c.condition?, c.orderBy⟩ : Statement).named)
    (hunknown : column ∉ t.columns)
    (hother : ¬(table.displayName ≠ "" ∧
      Text.holds Fault.missingParameter.message.toList table.displayName.toList))
    {first : String} (hfirst : firstUnknown? c.columnsUsed t.columns = some first) :
    (s.fetch c line).1 = .error (.invalidColumnReference first t.columns) := by
  have hreply := Engine.reply_of_fault hpending (answer_missing hreads hc hnamed hunknown)
  -- the line behind the statement has the same workbook and no failure set up
  have hfailure := failure_run { line with backend := line.backend.record (c.render table) } hreads
    rfl hother c.columnsUsed
  rw [hfirst] at hfailure
  exact fetch_of_failure hreads.resolved hreply hfailure

end Source

/-! ## Ways of finishing -/

namespace Query

variable {q : Query} {ending : Ending} {line : Line Engine} {table : Table} {name : String}
  {t : ResultSet}

theorem take_mem_of_ended {n : Nat} (h : .take n ∈ (q.ended ending).model.operators) :
    .take n ∈ q.model.operators := by
  have hmem : .take n ∈ (q.model.ended ending).operators := h
  unfold Model.ended at hmem
  cases hoperator : ending.operator? with
  | none =>
      rw [hoperator] at hmem
      exact hmem
  | some operator =>
      rw [hoperator] at hmem
      rcases List.mem_append.mp hmem with hmem | hmem
      · exact hmem
      · rw [← List.mem_singleton.mp hmem] at hoperator
        -- no way of finishing takes a number of items
        cases ending with
        | aggregate function => cases function <;> cases hoperator
        | _ => cases hoperator

/-- Fetching over a connection comes to what it comes to over an open one. -/
theorem fetch_result {c : Clauses} (hc : q.clauses = .ok c) (line : Line Engine) :
    ∃ line' : Line Engine, line'.view = line.view ∧
      (q.fetch line).1 = (q.source.fetch c line').1 := by
  obtain ⟨line', hview, hresult⟩ := Action.withConnection_result q.source.options.persistent
    q.source.spec (q.source.fetch c) line
  refine ⟨line', hview, ?_⟩
  unfold fetch
  rw [hc]
  exact hresult

/-- **An unknown column is never passed over.** Whatever way a query is finished in that runs its
statement, it fails where the statement, as it is read, names a column that the table lacks. Unless
the name of the table is in the words of the workbook, fetching blames the first of the used columns
that the table lacks and lists the columns of the table. So does finishing the query, given that the
selector compiles as well: one that does not is found out before anything is fetched. -/
theorem finish_unknown_column (hruns : ending.runs = true)
    (hpending : line.backend.pendingFailure = none)
    (hreads : q.source.Reads line.backend.workbook table name t) {c : Clauses}
    (hc : (q.ended ending).clauses = .ok c) (hcolumns : ∀ n ∈ c.columnsUsed, IsBracketable n)
    (htake : ∀ n, .take n ∈ q.model.operators → n < 2 ^ 63) {statement : Statement}
    (hstatement : Statement.read? (c.render table).sql.toList (c.render table).params =
      .ok statement)
    {column : String} (hnamed : column ∈ statement.named) (hunknown : column ∉ t.columns) :
    (∃ e, (q.finish ending line).1 = .error e) ∧
      (table.displayName = "" ∨
          ¬Text.holds Fault.missingParameter.message.toList table.displayName.toList →
        ∃ before first after, c.columnsUsed = before ++ first :: after ∧
          (∀ n ∈ before, n ∈ t.columns) ∧ first ∉ t.columns ∧
          ((q.ended ending).fetch line).1 = .error (.invalidColumnReference first t.columns) ∧
          ((q.ended ending).checkProjection ending = .ok () →
            (q.finish ending line).1 = .error (.invalidColumnReference first t.columns))) := by
  have hwritable : c.IsWritable := isWritable_of_compile hc hcolumns fun n h =>
    htake n (take_mem_of_ended h)
  rw [Clauses.read?_render hwritable hreads.clause hreads.isBracketable] at hstatement
  cases hstatement
  constructor
  · cases hfetch : ((q.ended ending).fetch line).1 with
    | error e =>
        obtain ⟨e', hfinish, -⟩ := finish_of_fetch_error hruns hfetch
        exact ⟨e', hfinish⟩
    | ok fetched =>
        -- nothing can have been brought back, since the workbook does not answer
        obtain ⟨-, c', hc', hbrings⟩ := fetch_ok_iff.mp hfetch
        cases hc.symm.trans hc'
        cases hreads.resolved.symm.trans hbrings.table
        have hmissing := Source.answer_missing hreads hwritable hnamed hunknown
        cases hmissing.symm.trans hbrings.answer
  · intro hother
    obtain ⟨before, first, after, hsplit, hbefore, hfirst, hblamed⟩ :=
      firstUnknown?_split ((isCovered_of_compile hc).named hnamed) hunknown
    have hfetch : ((q.ended ending).fetch line).1 =
        .error (.invalidColumnReference first t.columns) := by
      obtain ⟨line', hview, hresult⟩ := fetch_result hc line
      obtain ⟨hworkbook, hfailure⟩ := Prod.mk.inj hview
      rw [← hworkbook] at hreads
      rw [hresult]
      refine Source.fetch_missing hreads (hfailure.trans hpending) hwritable hnamed hunknown ?_
        hblamed
      rintro ⟨hshown, hholds⟩
      exact hother.elim hshown fun h => h hholds
    obtain ⟨e', hfinish, hsame⟩ := finish_of_fetch_error hruns hfetch
    refine ⟨before, first, after, hsplit, hbefore, hfirst, hfetch, ?_⟩
    intro hcheck
    rw [hfinish, hsame hcheck]

/-- A worksheet of names and ages. -/
def agesOnly : Line Engine :=
  .ofBackend (.ofWorkbook (Workbook.empty.addSheet "Guests" ["Name", "Age"] [[.text "Ann", .int 31]]))

/-- The tips of all adults, ordered by room. -/
def tipsByRoom : Query :=
  ⟨⟨"guests.xls", .worksheet (some (.named "Guests")), true, .empty, .standard⟩, .row, .row,
    some (.column mainSource (.named "Tip")),
    [.orderBy [⟨.column mainSource (.named "Room"), .ascending⟩],
      .filter (.binary (.compare .ge) (.column mainSource (.named "Age")) (.literal (.int 18)))], []⟩

theorem finish_unknown_column_tipsByRoom :
    (tipsByRoom.finish (.aggregate .sum) agesOnly).1 =
      .error (.invalidColumnReference "Room" ["Name", "Age"]) := by
  have hreads : tipsByRoom.source.Reads agesOnly.backend.workbook ⟨some "Guests", none, none⟩
      "Guests$" ⟨["Name", "Age"], [[.text "Ann", .int 31]]⟩ := ⟨rfl, rfl, by decide, rfl⟩
  have htake : ∀ n, .take n ∈ tipsByRoom.model.operators → n < 2 ^ 63 := nofun
  obtain ⟨c, hc, hused, hselection⟩ : ∃ c, (tipsByRoom.ended (.aggregate .sum)).clauses = .ok c ∧
      c.columnsUsed = ["Age", "Room", "Tip"] ∧ c.selection = .aggregate .sum "Tip" :=
    ⟨_, rfl, rfl, rfl⟩
  have hcolumns : ∀ n ∈ c.columnsUsed, IsBracketable n := by
    rw [hused]
    decide
  have hstatement := Clauses.read?_render (isWritable_of_compile hc hcolumns nofun) hreads.clause
    hreads.isBracketable
  have hnamed : "Tip" ∈ (⟨c.selection, "Guests$", c.condition?, c.orderBy⟩ : Statement).named := by
    refine List.mem_append_right _ (List.mem_append_right _ ?_)
    rw [hselection]
    exact List.mem_singleton_self "Tip"
  have hruns : (Ending.aggregate .sum).runs = true := rfl
  obtain ⟨-, hblames⟩ := finish_unknown_column hruns rfl hreads hc hcolumns htake hstatement hnamed
    (by decide)
  obtain ⟨before, first, after, hsplit, hbefore, hfirst, -, hfinish⟩ := hblames (Or.inr (by decide))
  rw [hfinish rfl]
  rw [hused] at hsplit
  -- the age is there, and nothing that is not there comes before the room
  rcases before with _ | ⟨age, _ | ⟨room, rest⟩⟩
  · cases hsplit
    exact absurd (by decide) hfirst
  · cases hsplit
    rfl
  · obtain ⟨rfl, hroom⟩ := List.cons.inj hsplit
    obtain ⟨rfl, -⟩ := List.cons.inj hroom
    exact absurd (hbefore "Room" (by simp)) (by decide)

end Query

end SheetQuery
