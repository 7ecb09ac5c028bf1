import SheetQuery.Proofs.Session.Finishing

/-!
# What commands do to connections

The account of a line is the connection that it keeps and how many connections were opened and are
open. Statements, listings and items neither look into the account nor change it; only asking for a
connection does, and a command asks for at most one. So what a command does to the account can be
told from the account alone: it releases the kept connection, or asks for a connection of a certain
kind, or leaves the account as it is.

Main statements: `Action.withConnection_run`, by which a connection changes the account and nothing
else, and `Session.perform_account`.
-/

namespace SheetQuery

/-! ## Accounts -/

/-- The connection that a line keeps, and the counts of the backend. -/
structure Account where
  kept : Option ConnectionSpec
  opened : Nat
  live : Nat
  deriving DecidableEq, Repr

namespace Account

/-- The account after the kept connection is released. -/
def release (a : Account) : Account :=
  if a.kept.isSome then ⟨none, a.opened, a.live - 1⟩ else a

/-- The account after the use of a connection, which is kept or not. -/
def use (persistent : Bool) (spec : ConnectionSpec) (a : Account) : Account :=
  if persistent then
    if a.kept = some spec then a else ⟨some spec, a.opened + 1, a.release.live + 1⟩
  else { a with opened := a.opened + 1 }

/-- The account after a connection is asked for, or none is. -/
def charge (persistent : Bool) : Option ConnectionSpec → Account → Account
  | some spec, a => a.use persistent spec
  | none, a => a

end Account

namespace Line

/-- The account of a line. -/
def account (line : Line Engine) : Account :=
  ⟨line.kept, line.backend.opened, line.backend.live⟩

/-- The line with another account. -/
def under (account : Account) (line : Line Engine) : Line Engine :=
  { line with
    kept := account.kept
    backend := { line.backend with opened := account.opened, live := account.live } }

@[simp] theorem under_account (line : Line Engine) : line.under line.account = line := rfl

@[simp] theorem account_under (account : Account) (line : Line Engine) :
    (line.under account).account = account := rfl

theorem closeKept_eq (line : Line Engine) :
    line.closeKept = line.under line.account.release := by
  rcases line with ⟨engine, kept, log⟩
  cases kept with
  | none => rfl
  | some spec => rfl

end Line

/-! ## Actions that do not look into the account -/

namespace Action

variable {α β : Type}

/-- The action neither looks into the account nor changes it. -/
def IsBlind (action : Action Engine α) : Prop :=
  ∀ (line : Line Engine) (account : Account),
    action (line.under account) = ((action line).1, (action line).2.under account)

theorem IsBlind.account {action : Action Engine α} (h : action.IsBlind) (line : Line Engine) :
    (action line).2.account = line.account := by
  have hself := h line line.account
  rw [Line.under_account] at hself
  rw [hself, Line.account_under]

/-- What asks the backend for nothing has nothing to do with the account. -/
theorem IsLocal.isBlind {action : Action Engine α} (h : action.IsLocal) : action.IsBlind := by
  obtain ⟨outcome, h⟩ := h
  intro line account
  rw [h, h line]
  rfl

theorem isBlind_execute (spec : ConnectionSpec) (statement : Rendered) :
    IsBlind (ask (Backend.execute (σ := Engine) spec statement)) :=
  fun _ _ => rfl

theorem isBlind_ask_tableNames (spec : ConnectionSpec) :
    IsBlind (ask (Backend.tableNames (σ := Engine) spec)) :=
  fun _ _ => rfl

theorem IsBlind.bind {x : Action Engine α} {f : α → Action Engine β} (hx : x.IsBlind)
    (hf : ∀ a, (f a).IsBlind) : (x >>= f).IsBlind := by
  intro line account
  rw [run_bind, hx, run_bind x f line]
  rcases x line with ⟨e | a, next⟩
  · rfl
  · exact hf a next account

theorem isBlind_ofExcept (result : Except QueryError α) :
    IsBlind (ofExcept result : Action Engine α) :=
  (isLocal_ofExcept result).isBlind

theorem isBlind_tableNames (spec : ConnectionSpec) : IsBlind (tableNames spec : Action Engine _) :=
  (isBlind_ask_tableNames spec).bind fun _ => isBlind_ofExcept _

theorem isBlind_worksheets (spec : ConnectionSpec) : IsBlind (worksheets spec : Action Engine _) :=
  (isBlind_tableNames spec).bind fun _ => isBlind_ofExcept _

theorem isBlind_namedRanges (spec : ConnectionSpec) (worksheet : Option String) :
    IsBlind (namedRanges spec worksheet : Action Engine _) :=
  (isBlind_tableNames spec).bind fun _ => isBlind_ofExcept _

theorem isBlind_columnNames (spec : ConnectionSpec) (table : Table) :
    IsBlind (columnNames spec table : Action Engine _) :=
  (isBlind_execute spec _).bind fun _ => isBlind_ofExcept _

/-- So is a look at the columns that takes their lack for a failure. -/
theorem isBlind_orFail_columnNames (spec : ConnectionSpec) (table : Table) :
    IsBlind (do orFail (← columnNames spec table) : Action Engine _) :=
  (isBlind_columnNames spec table).bind fun _ => isBlind_ofExcept _

end Action

namespace Source

open SheetQuery.Action

theorem isBlind_failure (s : Source) (table : Table) (used : List String) (message : String) :
    IsBlind (s.failure table used message : Action Engine _) := by
  unfold failure
  dsimp only
  split
  · refine (isBlind_ask_tableNames s.spec).bind ?_
    intro names
    exact isBlind_ofExcept _
  · refine (isBlind_columnNames s.spec table).bind ?_
    intro names
    split
    · exact isBlind_ofExcept _
    · split <;> exact isBlind_ofExcept _

/-- Running clauses over an open connection leaves the account alone. -/
theorem isBlind_fetch (s : Source) (c : Clauses) : IsBlind (s.fetch c : Action Engine _) := by
  have hlocate : IsBlind (s.locate : Action Engine _) := by
    unfold locate
    split
    · exact (isBlind_worksheets s.spec).bind fun _ => isBlind_ofExcept _
    · exact isBlind_ofExcept _
  refine hlocate.bind ?_
  intro table
  refine (isBlind_execute s.spec _).bind ?_
  intro reply
  split
  · exact (s.isBlind_failure table _ _).bind fun _ => isBlind_ofExcept _
  · exact (isBlind_ofExcept _).bind fun _ => isBlind_ofExcept _

end Source

/-! ## Connections -/

namespace Action

variable {α β : Type}

/-- Opening shows in the account alone, and what comes behind the use happens to what the use left.
-/
theorem opened_run {use : Action Engine α} (h : use.IsBlind) (spec : ConnectionSpec)
    (change : Line Engine → Line Engine) (line : Line Engine) :
    (do connect spec; use.andFinally change : Action Engine α) line =
      ((use line).1, change ((use line).2.under
        ⟨line.kept, line.backend.opened + 1, line.backend.live + 1⟩)) := by
  have huse := h line ⟨line.kept, line.backend.opened + 1, line.backend.live + 1⟩
  exact congrArg (fun r => (r.1, change r.2)) huse

/-- **A connection changes the account and nothing else**: the result and the rest of the line are
those of its use, and what it does to the account can be told from the account. -/
theorem withConnection_run {use : Action Engine α} (h : use.IsBlind) (persistent : Bool)
    (spec : ConnectionSpec) (line : Line Engine) :
    withConnection persistent spec use line =
      ((use line).1, (use line).2.under (line.account.use persistent spec)) := by
  cases persistent with
  | false => exact opened_run h spec (Line.close spec) line
  | true =>
      by_cases hkept : line.kept = some spec
      · have hcharge : line.account.use true spec = line.account := by
          simp [Account.use, Line.account, hkept]
        rw [hcharge, ← h, Line.under_account]
        simp [withConnection, withKeptConnection, hkept]
      · -- a connection of another kind is closed before the new one is opened
        have hrelease : line.account.release.opened = line.backend.opened := by
          unfold Account.release
          split <;> rfl
        have hcharge : line.account.use true spec =
            ⟨some spec, line.backend.opened + 1, line.account.release.live + 1⟩ := by
          simp [Account.use, Line.account, hkept]
        simp only [withConnection, withKeptConnection, if_true, if_neg hkept]
        rw [opened_run h, Line.closeKept_eq, h, hcharge]
        simp only [Line.keep, Line.under, hrelease]

/-- What follows on an action leaves the account as the action left it. -/
theorem Follows.account {first : Action Engine β} {action : Action Engine α}
    (h : Follows first action) (line : Line Engine) :
    (action line).2.account = (first line).2.account := by
  obtain ⟨rest, hrest, rfl⟩ := h
  rw [run_bind]
  rcases first line with ⟨e | b, next⟩
  · rfl
  · exact (hrest b).isBlind.account next

end Action

/-! ## Queries -/

namespace Query

variable {q : Query} {ending : Ending}

/-- The connection that a way of finishing asks for, once everything that is checked before holds.
-/
def connection? (q : Query) : Ending → Option ConnectionSpec
  | .statement => if q.source.askedIndex?.isSome then some q.catalogSpec else none
  | .clauses | .unrun => none
  | _ => some q.source.spec

theorem connection?_of_runs (h : ending.runs = true) :
    q.connection? ending = some q.source.spec := by
  cases ending with
  | statement => cases h
  | clauses => cases h
  | unrun => cases h
  | _ => rfl

/-- The connection that finishing the query asks for. -/
def request? (q : Query) (ending : Ending) : Option ConnectionSpec :=
  match (q.ended ending).checkProjection ending, (q.ended ending).clauses with
  | .ok _, .ok _ => q.connection? ending
  | _, _ => none

/-- Fetching comes to what it comes to over an open connection, but for the account. -/
theorem fetch_run {c : Clauses} (h : q.clauses = .ok c) (line : Line Engine) :
    q.fetch line = ((q.source.fetch c line).1, (q.source.fetch c line).2.under
      (line.account.use q.source.options.persistent q.source.spec)) := by
  have hfetch : (q.fetch : Action Engine _) =
      Action.withConnection q.source.options.persistent q.source.spec (q.source.fetch c) := by
    unfold fetch
    rw [h]
    rfl
  rw [hfetch, Action.withConnection_run (q.source.isBlind_fetch c)]

theorem fetch_account {c : Clauses} (h : q.clauses = .ok c) (line : Line Engine) :
    (q.fetch line).2.account =
      line.account.use q.source.options.persistent q.source.spec := by
  rw [fetch_run h, Line.account_under]

/-- The statement of a query is that of its clauses, aimed at the table that the workbook has for
the source, over whatever connection that is asked for. -/
theorem statement_run {c : Clauses} (h : q.clauses = .ok c) (line : Line Engine) :
    q.statement line = ((q.source.resolve (q.source.listed line.backend.workbook)).map c.render,
      line.under (line.account.charge q.source.options.persistent (q.connection? .statement))) := by
  have hrest : ∀ (names : List String) (line : Line Engine),
      (do return c.render (← Action.ofExcept (q.source.resolve names)) :
        Action Engine Rendered) line = ((q.source.resolve names).map c.render, line) := by
    intro names line
    rw [Action.run_bind]
    cases q.source.resolve names <;> rfl
  simp only [statement, h, connection?, Source.listed]
  split
  · have hworksheets := Action.withConnection_run (Action.isBlind_worksheets q.catalogSpec)
      q.source.options.persistent q.catalogSpec line
    exact (Action.bind_run hworksheets).trans (hrest _ _)
  · exact hrest [] line

theorem statement_account {c : Clauses} (h : q.clauses = .ok c) (line : Line Engine) :
    (q.statement line).2.account =
      line.account.charge q.source.options.persistent (q.connection? .statement) := by
  rw [statement_run h, Line.account_under]

/-- Finishing a query changes the account by the connection that it asks for. -/
theorem finish_account (q : Query) (ending : Ending) (line : Line Engine) :
    (q.finish ending line).2.account =
      line.account.charge q.source.options.persistent (q.request? ending) := by
  unfold request?
  cases hcheck : (q.ended ending).checkProjection ending with
  | error e =>
      rw [finish_of_checkProjection hcheck]
      rfl
  | ok u =>
      cases hclauses : (q.ended ending).clauses with
      | error e =>
          by_cases hunrun : ending = .unrun
          · rw [hunrun]
            rfl
          · obtain ⟨e', hfinish⟩ := finish_refused hunrun hclauses line
            rw [hfinish]
            rfl
      | ok c =>
          by_cases hruns : ending.runs = true
          · rw [(finish_follows hruns hcheck).account, fetch_account hclauses,
              connection?_of_runs hruns]
            rfl
          · cases ending with
            | statement =>
                have hstatement := statement_account (q := q) hclauses line
                rw [← hstatement]
                exact (((Action.Follows.refl q.statement).map Answer.statement).account line)
            | clauses => exact (Action.isBlind_ofExcept _).account line
            | unrun => rfl
            | _ => exact absurd rfl hruns

end Query

/-! ## Commands -/

/-- The command releases the connection that is kept. -/
def Command.releases : Command → Bool
  | .setFile _ | .setPersistent false | .close => true
  | _ => false

namespace Session

/-- The connection that a command asks for. -/
def request? (s : Session) : Command → Option ConnectionSpec
  | .worksheets | .columnNames _ | .namedRanges _ => s.catalogSpec.toOption
  | .query root type model ending =>
    match s.query root type with
    | .ok q => ({ q with model := { model with shape := q.model.shape } } : Query).request? ending
    | .error _ => none
  | _ => none

/-- The account after a command. -/
def charge (s : Session) (command : Command) (a : Account) : Account :=
  if command.releases then a.release else a.charge s.options.persistent (s.request? command)

/-- What a look at the tables of a session with a file gives is what it finds over a connection. -/
theorem look_result {s : Session} {file : String} (hfile : s.file = some file) {α : Type}
    {use : ConnectionSpec → Action Engine α} (h : ∀ spec, (use spec).IsBlind) (line : Line Engine) :
    (s.look use line).1 = (use ⟨file, true, s.options.readOnly⟩ line).1 := by
  have hspec : s.catalogSpec = .ok ⟨file, true, s.options.readOnly⟩ := by
    unfold catalogSpec requiredFile
    rw [hfile]
    rfl
  unfold look
  rw [hspec]
  show (Action.withConnection _ _ _ line).1 = _
  rw [Action.withConnection_run (h _)]

theorem look_account (s : Session) {use : ConnectionSpec → Action Engine (List String)}
    (h : ∀ spec, (use spec).IsBlind) (line : Line Engine) :
    (s.acting (Answer.names <$> s.look use) line).2.2.account =
      line.account.charge s.options.persistent s.catalogSpec.toOption := by
  refine (((Action.Follows.refl (s.look use)).map Answer.names).account line).trans ?_
  unfold look
  cases s.catalogSpec with
  | error e => rfl
  | ok spec =>
      show (Action.withConnection s.options.persistent spec (use spec) line).2.account = _
      rw [Action.withConnection_run (h spec)]
      rfl

theorem runQuery_account (s : Session) (root : TableIdentity) (type : ItemType) (model : Model)
    (ending : Ending) (line : Line Engine) :
    (s.acting (s.runQuery root type model ending) line).2.2.account =
      line.account.charge s.options.persistent (s.request? (.query root type model ending)) := by
  simp only [acting, runQuery, request?]
  cases hq : s.query root type with
  | error e => rfl
  | ok q =>
      have hfinish := Query.finish_account
        { q with model := { model with shape := q.model.shape } } ending line
      rw [show q.source.options = s.options from (query_eq hq).2.2.2] at hfinish
      exact hfinish

/-- **What a command does to the account** can be told from the session, the command and the account
alone. -/
theorem perform_account (s : Session) (command : Command) (line : Line Engine) :
    (s.perform command line).2.2.account = s.charge command line.account := by
  cases command with
  | worksheets => exact s.look_account Action.isBlind_worksheets line
  | namedRanges worksheet =>
      exact s.look_account (fun spec => Action.isBlind_namedRanges spec worksheet) line
  | columnNames table =>
      exact s.look_account (fun spec => Action.isBlind_orFail_columnNames spec table) line
  | query root type model ending => exact s.runQuery_account root type model ending line
  | setFile file => exact congrArg Line.account line.closeKept_eq
  | close => exact congrArg Line.account line.closeKept_eq
  | setPersistent enabled =>
      cases enabled with
      | true => rfl
      | false => exact congrArg Line.account line.closeKept_eq
  | _ => rfl

end Session

end SheetQuery
