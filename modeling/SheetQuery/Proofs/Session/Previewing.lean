import SheetQuery.Proofs.Session.Agreeing

/-!
# Previewed statements

The statement of a query can be asked for without running it. What is shown then and what is run
later are put together apart from each other: a worksheet given by position is looked up once over a
connection of the preview's own, opened as for a look at the tables, and once more over the
connection that the statement is run on. Both looks see the same workbook, so they come to the same
table, and no look is a statement. What is run behind the statement is at most a look at the
columns, and only once the workbook has turned the statement down.

Main statement: `Session.perform_previewed`.
-/

namespace SheetQuery

/-! ## Fetching -/

/-- A workbook that replies to a statement has nothing to report behind the rows. -/
theorem Engine.fault_of_reply {e : Engine} {hasHeader : Bool} {statement : Rendered} {reply : Reply}
    (h : e.reply hasHeader statement = .ok reply) : reply.fault = none := by
  unfold Engine.reply at h
  split at h
  · cases h
  · split at h
    · cases h
      rfl
    · cases h

namespace Source

open SheetQuery.Action

variable {s : Source} {table : Table}

/-- Finding out what a message means takes no statement, or the one for the columns of the table. -/
theorem failure_statements (s : Source) (table : Table) (used : List String) (message : String)
    (line : Line Engine) :
    ∃ looks, (looks = [] ∨ looks = [columnStatement table]) ∧
      (s.failure table used message line).2.backend.statements =
        line.backend.statements ++ looks := by
  unfold failure
  split
  · exact ⟨[], Or.inl rfl, (List.append_nil _).symm⟩
  · have hfollows : Follows (columnNames s.spec table)
        (s.columnFailure table used message : Action Engine _) := by
      refine ⟨_, ?_, rfl⟩
      intro known
      split
      · exact isLocal_pure _
      · split <;> exact isLocal_pure _
    refine ⟨[columnStatement table], Or.inr rfl, ?_⟩
    rw [hfollows.backend]
    rfl

/-- Without a table nothing is fetched, and nothing is run. -/
theorem fetch_of_resolve_error (c : Clauses) (line : Line Engine) {e : QueryError}
    (h : s.resolve (s.listed line.backend.workbook) = .error e) :
    s.fetch c line = (.error e, line) := by
  have hlocate : s.locate line = (.error e, line) := by rw [locate_run, h]
  unfold fetch
  rw [bind_run_error (congrArg Prod.fst hlocate), hlocate]

/-- **What fetching runs**: the statement of the clauses, and behind it at most a look at the
columns of the table, which there is only where the workbook has no reply. -/
theorem fetch_statements (c : Clauses) (line : Line Engine)
    (h : s.resolve (s.listed line.backend.workbook) = .ok table) :
    ∃ looks, (s.fetch c line).2.backend.statements =
        line.backend.statements ++ c.render table :: looks ∧
      (looks = [] ∨ looks = [columnStatement table]) ∧
      ∀ reply, line.backend.reply s.hasHeader (c.render table) = .ok reply → looks = [] := by
  have hlocate : s.locate line = (.ok table, line) := by rw [locate_run, h]
  have hask : ask (Backend.execute s.spec (c.render table)) line =
      (.ok (line.backend.reply s.hasHeader (c.render table)),
        { line with backend := line.backend.record (c.render table) }) := rfl
  unfold fetch
  rw [bind_run hlocate, bind_run hask]
  cases hread : (line.backend.reply s.hasHeader (c.render table)).bind Reply.readAll with
  | ok result =>
      have hrest : IsLocal (do
          Action.ofExcept (checkUsed c result.columns)
          return ⟨table, result⟩ : Action Engine Fetched) :=
        (isLocal_ofExcept _).bind fun _ => isLocal_pure _
      refine ⟨[], ?_, Or.inl rfl, fun _ _ => rfl⟩
      rw [hrest.backend]
      rfl
  | error message =>
      obtain ⟨looks, hlooks, hstatements⟩ := s.failure_statements table c.columnsUsed message
        { line with backend := line.backend.record (c.render table) }
      have hfollows : Follows (s.failure table c.columnsUsed message : Action Engine QueryError)
          (do throw (← s.failure table c.columnsUsed message) : Action Engine Fetched) :=
        ⟨_, fun e => isLocal_ofExcept (.error e), rfl⟩
      refine ⟨looks, ?_, hlooks, ?_⟩
      · rw [hfollows.backend, hstatements]
        exact (List.append_cons line.backend.statements (c.render table) looks).symm
      · intro reply hreply
        rw [hreply] at hread
        have hreadAll : reply.readAll = .ok reply.table := by
          rw [Reply.readAll, Engine.fault_of_reply hreply]
        cases hreadAll.symm.trans hread

end Source

/-! ## Queries -/

/-- No values can be made of the items: the selector compiles to no projector. Distinct values do
without items. -/
def Model.IsUnprojectable (m : Model) (e : QueryError) : Prop :=
  m.hasDistinct = false ∧ Projector.ofExpr m.selectorOrIdentity = .error e

namespace Query

open SheetQuery.Action

variable {q : Query} {ending : Ending} {line : Line Engine}

/-- The check of the selector fails only for values that are to be made of items, under a selector
that compiles to no projector. -/
theorem checkProjection_error_iff {e : QueryError} : q.checkProjection ending = .error e ↔
    ending.givesValues = true ∧ q.model.IsUnprojectable e := by
  unfold checkProjection Model.IsUnprojectable
  cases Projector.ofExpr q.model.selectorOrIdentity with
  | error e' => cases ending.givesValues <;> cases q.model.hasDistinct <;> simp [Except.map]
  | ok projector => cases ending.givesValues <;> cases q.model.hasDistinct <;> simp [Except.map]

/-- Without a table a query fails once it has a connection, and runs nothing. -/
theorem fetch_of_resolve_error {c : Clauses} (hclauses : q.clauses = .ok c) (line : Line Engine)
    {e : QueryError} (h : q.source.resolve (q.source.listed line.backend.workbook) = .error e) :
    q.fetch line =
      (.error e, line.under (line.account.use q.source.options.persistent q.source.spec)) := by
  rw [fetch_run hclauses, Source.fetch_of_resolve_error c line h]

/-- A preview changes the account at most. -/
theorem exists_under_of_statement (q : Query) (line : Line Engine) :
    ∃ account, (q.statement line).2 = line.under account := by
  cases hclauses : q.clauses with
  | error e =>
      refine ⟨line.account, ?_⟩
      unfold statement
      rw [hclauses]
      rfl
  | ok c => exact ⟨_, congrArg Prod.snd (statement_run hclauses line)⟩

theorem finish_statement (q : Query) (line : Line Engine) :
    q.finish .statement line =
      ((q.statement line).1.map Answer.statement, (q.statement line).2) := by
  show (Answer.statement <$> q.statement) line = _
  rw [← bind_pure_comp, run_bind]
  rcases q.statement line with ⟨e | r, next⟩ <;> rfl

/-- **A query that was previewed is run as it was shown.** -/
theorem finish_previewed (hruns : ending.runs = true) {r : Rendered}
    (h : ((q.ended ending).statement line).1 = .ok r) (account : Account) :
    (∃ e, (q.ended ending).checkProjection ending = .error e ∧
        q.finish ending (line.under account) = (.error e, line.under account)) ∨
      ∃ looks, (q.finish ending (line.under account)).2.backend.statements =
          line.backend.statements ++ r :: looks ∧
        ∀ reply, line.backend.reply q.source.hasHeader r = .ok reply → looks = [] := by
  obtain ⟨c, table, hclauses, hresolve, rfl⟩ := statement_ok_iff.mp h
  cases hcheck : (q.ended ending).checkProjection ending with
  | error e => exact Or.inl ⟨e, rfl, finish_of_checkProjection hcheck _⟩
  | ok u =>
      -- the account has no part in what the workbook has for the source
      obtain ⟨looks, hstatements, -, hreply⟩ :=
        Source.fetch_statements c (line.under account) hresolve
      refine Or.inr ⟨looks, ?_, hreply⟩
      rw [(finish_follows hruns hcheck).backend, fetch_run hclauses]
      exact hstatements

/-- A query whose preview fails does so when it is finished, and runs nothing. -/
theorem finish_unpreviewed (hruns : ending.runs = true) {e : QueryError}
    (h : ((q.ended ending).statement line).1 = .error e) (account : Account) :
    (∃ e', (q.finish ending (line.under account)).1 = .error e') ∧
      (q.finish ending (line.under account)).2.backend.statements = line.backend.statements := by
  cases hcheck : (q.ended ending).checkProjection ending with
  | error e' =>
      rw [finish_of_checkProjection hcheck]
      exact ⟨⟨e', rfl⟩, rfl⟩
  | ok u =>
      have hfollows := finish_follows (σ := Engine) hruns hcheck
      cases hclauses : (q.ended ending).clauses with
      | error e' =>
          have hfetch := fetch_of_clauses_error hclauses (line.under account)
          rw [hfollows.error (congrArg Prod.fst hfetch), hfetch]
          exact ⟨⟨e', rfl⟩, rfl⟩
      | ok c =>
          rw [statement_run hclauses] at h
          have hresolve := map_eq_error_iff.mp h
          have hfetch := fetch_of_resolve_error hclauses (line.under account) hresolve
          rw [hfollows.error (congrArg Prod.fst hfetch), hfetch]
          exact ⟨⟨e, rfl⟩, rfl⟩

end Query

/-! ## Sessions -/

/-- The query for some items, composed like the model. -/
def Query.composed (q : Query) (m : Model) : Query :=
  { q with model := { m with shape := q.model.shape } }

theorem Query.ended_composed (q : Query) (m : Model) (ending : Ending) :
    (q.composed m).ended ending = q.composed (m.ended ending) := by
  unfold ended composed Model.ended
  cases ending.operator? <;> rfl

namespace Session

variable {s : Session} {root : TableIdentity} {type : ItemType}

theorem perform_query {q : Query} (h : s.query root type = .ok q) (model : Model) (ending : Ending)
    (line : Line Engine) : s.perform (.query root type model ending) line =
      (((q.composed model).finish ending line).1, s,
        ((q.composed model).finish ending line).2) := by
  simp only [perform, acting, runQuery, h]
  rfl

theorem perform_query_of_error {e : QueryError} (h : s.query root type = .error e) (model : Model)
    (ending : Ending) (line : Line Engine) :
    s.perform (.query root type model ending) line = (.error e, s, line) := by
  simp only [perform, acting, runQuery, h]
  rfl

/-- **The statement that is shown is the one that is run.** A query is previewed as it stands when
it is finished, and then finished in a way that runs it; items and values are asked for without a
further operator. The preview itself runs nothing. Where it fails, so does the query, and nothing is
run. Where it shows a statement, that statement is the next one that is run, and the only one once
the workbook has a reply to it. Only a selector that is found to be none before keeps it from being
run. -/
theorem perform_previewed (s : Session) (root : TableIdentity) (type : ItemType) (model : Model)
    {ending : Ending} (hruns : ending.runs = true) (line : Line Engine) :
    ∃ shown next answer last,
      s.perform (.query root type (model.ended ending) .statement) line = (shown, s, next) ∧
      s.perform (.query root type model ending) next = (answer, s, last) ∧
      next.backend.statements = line.backend.statements ∧
      ((∃ e e', shown = .error e ∧ answer = .error e' ∧
          last.backend.statements = line.backend.statements) ∨
        ∃ statement, shown = .ok (.statement statement) ∧
          ((∃ e, ending.givesValues = true ∧ (model.ended ending).IsUnprojectable e ∧
              answer = .error e ∧ last = next) ∨
            ∃ looks, last.backend.statements = line.backend.statements ++ statement :: looks ∧
              ∀ reply, next.backend.reply type.hasHeader statement = .ok reply → looks = [])) := by
  cases hquery : s.query root type with
  | error e =>
      exact ⟨_, _, _, _, perform_query_of_error hquery _ _ _, perform_query_of_error hquery _ _ _,
        rfl, Or.inl ⟨e, e, rfl, rfl, rfl⟩⟩
  | ok q =>
      refine ⟨_, _, _, _, perform_query hquery _ _ _, perform_query hquery _ _ _, ?_⟩
      have hheader : type.hasHeader = q.source.hasHeader := (query_eq hquery).2.2.1.symm
      obtain ⟨account, hnext⟩ := ((q.composed model).ended ending).exists_under_of_statement line
      rw [← Query.ended_composed, Query.finish_statement, hnext, hheader]
      refine ⟨rfl, ?_⟩
      cases hshown : (((q.composed model).ended ending).statement line).1 with
      | error e =>
          obtain ⟨⟨e', hanswer⟩, hstatements⟩ := Query.finish_unpreviewed hruns hshown account
          exact Or.inl ⟨e, e', rfl, hanswer, hstatements⟩
      | ok statement =>
          refine Or.inr ⟨statement, rfl, ?_⟩
          rcases Query.finish_previewed hruns hshown account with ⟨e, hcheck, hfinish⟩ | hrun
          · rw [Query.ended_composed] at hcheck
            obtain ⟨hvalues, hselector⟩ := Query.checkProjection_error_iff.mp hcheck
            rw [hfinish]
            exact Or.inl ⟨e, hvalues, hselector, rfl, rfl⟩
          · exact Or.inr hrun

/-- A line on which a connection is kept that was opened without a header. The second worksheet has
the guests who stay longest. -/
def hotelLine : Line Engine :=
  ⟨.ofWorkbook ((Workbook.empty.addSheet "Guests" ["Name"] [[.text "Ann"]]).addSheet "Long stays"
    ["Name", "Nights"] [[.text "Bob", .int 9], [.text "Cid", .int 30]]),
    some ⟨"guests.xls", false, false⟩, []⟩

/-- The names of those who stay for a month. -/
def monthlyNames : Model :=
  ⟨.row, some (.column mainSource (.named "Name")),
    [.filter (.binary (.compare .ge) (.column mainSource (.named "Nights")) (.literal (.int 28)))],
    []⟩

/-- The statement for them. -/
def monthlyStatement : Rendered :=
  ⟨"SELECT * FROM [Long stays$] WHERE ([Nights] >= ?)", [.int 28]⟩

theorem perform_previewed_monthlyNames :
    Ending.values.runs = true ∧ ∃ next answer last,
      keepingSession.perform
          (.query (.worksheet (some (.positioned 1))) .row monthlyNames .statement) hotelLine =
        (.ok (.statement monthlyStatement), keepingSession, next) ∧
      keepingSession.perform
          (.query (.worksheet (some (.positioned 1))) .row monthlyNames .values) next =
        (answer, keepingSession, last) ∧
      last.backend.statements = [monthlyStatement] := by
  have hruns : Ending.values.runs = true := rfl
  obtain ⟨shown, next, answer, last, hpreview, hrun, -, hcases⟩ := perform_previewed keepingSession
    (.worksheet (some (.positioned 1))) .row monthlyNames hruns hotelLine
  obtain rfl : Except.ok (.statement monthlyStatement) = shown := congrArg (·.1) hpreview
  refine ⟨hruns, next, answer, last, hpreview, hrun, ?_⟩
  rcases hcases with ⟨e, e', hfailed, -⟩ | ⟨statement, hshown, hcases⟩
  · cases hfailed
  · cases hshown
    rcases hcases with ⟨e, -, hselector, -⟩ | ⟨looks, hstatements, hreply⟩
    · cases hselector.2
    · have hanswered : next.backend.reply true monthlyStatement =
          .ok ⟨⟨["Name", "Nights"], [[.text "Cid", .int 30]]⟩, none⟩ := by
        obtain rfl := congrArg (·.2.2) hpreview
        rfl
      rw [hstatements, hreply _ hanswered]
      rfl

end Session

end SheetQuery
