import SheetQuery.Backend.Engine
import SheetQuery.Proofs.Outcome
import SheetQuery.Session.Query

/-!
# Queries over a workbook

What a query comes to when a workbook in memory is behind the line. Connections are opened, kept and
closed on the way and statements are counted, and none of it shows in the items: they depend on the
workbook and on whether a failure has been set up for the next statement, on nothing else.

Main statement: `Query.items_ok_iff`.
-/

namespace SheetQuery

/-! ## Actions -/

namespace Action

variable {σ α β : Type} {line : Line σ}

theorem run_bind (x : Action σ α) (f : α → Action σ β) (line : Line σ) :
    (x >>= f) line = match x line with
      | (.ok a, line) => f a line
      | (.error e, line) => (.error e, line) := by
  rcases h : x line with ⟨_ | a, line'⟩
  · simp only [bind, ExceptT.bind, ExceptT.mk, StateT.bind, h]
    rfl
  · simp only [bind, ExceptT.bind, ExceptT.mk, StateT.bind, h]
    rfl

/-- Two actions in a row succeed when the first does and the second does where it leaves off. -/
theorem bind_ok_iff {x : Action σ α} {f : α → Action σ β} {b : β} :
    ((x >>= f) line).1 = .ok b ↔ ∃ a, (x line).1 = .ok a ∧ (f a (x line).2).1 = .ok b := by
  rw [run_bind]
  rcases x line with ⟨e | a, next⟩
  · constructor
    · intro h
      cases h
    · rintro ⟨a, h, -⟩
      cases h
  · constructor
    · exact fun h => ⟨a, rfl, h⟩
    · rintro ⟨a, h, hf⟩
      cases h
      exact hf

theorem ofExcept_bind_ok_iff {x : Except QueryError α} {f : α → Action σ β} {b : β} :
    ((ofExcept x >>= f) line).1 = .ok b ↔ ∃ a, x = .ok a ∧ (f a line).1 = .ok b :=
  bind_ok_iff

/-- An action that ends in a failure does not succeed. -/
theorem bind_throw_ne_ok {x : Action σ QueryError} {b : β} :
    ((x >>= fun e => (throw e : Action σ β)) line).1 ≠ .ok b := by
  intro h
  obtain ⟨e, -, h⟩ := bind_ok_iff.mp h
  cases h

end Action

/-! ## The engine behind the line -/

/-- What the answers over a line depend on: the workbook, and the failure that is set up. -/
def Line.view (line : Line Engine) : Workbook × Option String :=
  (line.backend.workbook, line.backend.pendingFailure)

namespace Action

variable {α : Type}

theorem view_closeKept (line : Line Engine) : line.closeKept.view = line.view := by
  unfold Line.closeKept
  split <;> rfl

/-- Opening a connection always succeeds and leaves the view as it is. -/
theorem withOpened (spec : ConnectionSpec) (use : Action Engine α) (line : Line Engine)
    (change : Line Engine → Line Engine) :
    ∃ line', line'.view = line.view ∧
      ((do connect spec; use.andFinally change : Action Engine α) line).1 = (use line').1 :=
  ⟨{ line with backend := line.backend.connect }, rfl, rfl⟩

/-- The use of a connection gives what it gives over an open one, however it was opened. -/
theorem withConnection_result (persistent : Bool) (spec : ConnectionSpec)
    (use : Action Engine α) (line : Line Engine) :
    ∃ line', line'.view = line.view ∧
      (withConnection persistent spec use line).1 = (use line').1 := by
  unfold withConnection
  cases persistent with
  | false => exact withOpened spec use line _
  | true =>
      simp only [if_true, withKeptConnection]
      -- a kept connection of the same kind is used as it is, any other is closed first
      split
      · exact ⟨line, rfl, rfl⟩
      · obtain ⟨line', hview, hresult⟩ := withOpened spec use line.closeKept (Line.keep spec)
        exact ⟨line', hview.trans (view_closeKept line), hresult⟩

end Action

/-! ## Fetching -/

namespace Source

/-- The worksheets that resolving the table may look into. -/
def listed (s : Source) (w : Workbook) : List String :=
  if s.askedIndex?.isSome then Catalog.worksheets w.tableNames else []

/-- What clauses over the source bring back from a workbook. -/
structure Brings (s : Source) (w : Workbook) (c : Clauses) (f : Fetched) : Prop where
  table : s.resolve (s.listed w) = .ok f.table
  answer : Engine.answer w s.hasHeader (c.render f.table) = .ok f.result
  used : checkUsed c f.result.columns = .ok ()

theorem locate_run (s : Source) (line : Line Engine) :
    s.locate line = (s.resolve (s.listed line.backend.workbook), line) := by
  unfold locate listed
  split <;> rfl

theorem readAll_reply_ok_iff {e : Engine} {hasHeader : Bool} {statement : Rendered}
    {r : ResultSet} :
    (e.reply hasHeader statement).bind Reply.readAll = .ok r ↔
      e.pendingFailure = none ∧ Engine.answer e.workbook hasHeader statement = .ok r := by
  unfold Engine.reply
  cases e.pendingFailure with
  | some message => simp [Except.bind]
  | none => cases Engine.answer e.workbook hasHeader statement <;> simp [Except.bind, Reply.readAll]

/-- **Fetching succeeds exactly with what the clauses bring back**, and only where no failure is set
up. -/
theorem fetch_ok_iff {s : Source} {c : Clauses} {f : Fetched} {line : Line Engine} :
    (s.fetch c line).1 = .ok f ↔
      line.backend.pendingFailure = none ∧ s.Brings line.backend.workbook c f := by
  have hspec : s.spec.hasHeader = s.hasHeader := rfl
  constructor
  · intro h
    obtain ⟨table, hresolve, h⟩ := Action.bind_ok_iff.mp h
    rw [locate_run] at hresolve h
    obtain ⟨reply, hreply, h⟩ := Action.bind_ok_iff.mp h
    cases hreply
    cases hread : (line.backend.reply s.hasHeader (c.render table)).bind Reply.readAll with
    | error message =>
        -- whatever a message is found to mean, it ends in a failure
        rw [hspec, hread] at h
        exact absurd h Action.bind_throw_ne_ok
    | ok result =>
        rw [hspec, hread] at h
        obtain ⟨hpending, hanswer⟩ := readAll_reply_ok_iff.mp hread
        obtain ⟨u, hused, h⟩ := Action.ofExcept_bind_ok_iff.mp h
        cases h
        exact ⟨hpending, hresolve, hanswer, hused⟩
  · rintro ⟨hpending, hresolve, hanswer, hused⟩
    have hread := readAll_reply_ok_iff.mpr ⟨hpending, hanswer⟩
    refine Action.bind_ok_iff.mpr ⟨f.table, by rw [locate_run, hresolve], ?_⟩
    rw [locate_run]
    refine Action.bind_ok_iff.mpr ⟨_, rfl, ?_⟩
    rw [hspec, hread]
    exact Action.ofExcept_bind_ok_iff.mpr ⟨(), hused, rfl⟩

end Source

/-! ## Queries -/

theorem Model.selectorOrIdentity_eq {m : Model} {selector : Expr}
    (h : m.selector = some selector) : m.selectorOrIdentity = selector := by
  rw [selectorOrIdentity, h]
  rfl

theorem Model.hasDistinct_iff {m : Model} : m.hasDistinct = true ↔ .distinct ∈ m.operators := by
  rw [hasDistinct, List.any_eq_true]
  constructor
  · rintro ⟨operator, hmem, hdistinct⟩
    cases operator with
    | distinct => exact hmem
    | _ => cases hdistinct
  · exact fun hmem => ⟨.distinct, hmem, rfl⟩

namespace Query

/-- What a query finds in a workbook: what its clauses bring back, made into items, and what its
operators leave of them. -/
structure Finds (q : Query) (w : Workbook) (c : Clauses) (f : Fetched) (found : List Item) :
    Prop where
  clauses : q.clauses = .ok c
  brings : q.source.Brings w c f
  made : (q.materializer f.table Sql.computedColumn).materialize q.type f.result.columns
    f.result.rows = .ok (.items found)

theorem fetch_ok_iff {q : Query} {f : Fetched} {line : Line Engine} :
    (q.fetch line).1 = .ok f ↔ line.backend.pendingFailure = none ∧
      ∃ c, q.clauses = .ok c ∧ q.source.Brings line.backend.workbook c f := by
  have hconnection : ∀ c, (Action.withConnection q.source.options.persistent q.source.spec
      (q.source.fetch c) line).1 = .ok f ↔
        line.backend.pendingFailure = none ∧ q.source.Brings line.backend.workbook c f := by
    intro c
    obtain ⟨line', hview, hresult⟩ := Action.withConnection_result
      q.source.options.persistent q.source.spec (q.source.fetch c) line
    obtain ⟨hworkbook, hpending⟩ := Prod.mk.inj hview
    rw [hresult, Source.fetch_ok_iff, hworkbook, hpending]
  unfold fetch
  rw [Action.ofExcept_bind_ok_iff]
  simp only [hconnection]
  constructor
  · rintro ⟨c, hc, hpending, hbrings⟩
    exact ⟨hpending, c, hc, hbrings⟩
  · rintro ⟨hpending, c, hc, hbrings⟩
    exact ⟨c, hc, hpending, hbrings⟩

theorem intoItems_ok_iff {made : Materialized} {found : List Item} :
    made.intoItems = .ok found ↔ made = .items found := by
  cases made <;> simp [Materialized.intoItems]

theorem materialized_ok_iff {q : Query} {made : Materialized} {line : Line Engine} :
    (q.materialized line).1 = .ok made ↔ ∃ f, (q.fetch line).1 = .ok f ∧
      (q.materializer f.table Sql.computedColumn).materialize q.type f.result.columns
        f.result.rows = .ok made := by
  unfold materialized
  rw [Action.bind_ok_iff]
  rfl

/-- **The items of a query are what it finds in the workbook**, under the operators left to them. -/
theorem items_ok_iff {q : Query} {items : List Item} {line : Line Engine} :
    (q.items line).1 = .ok items ↔ line.backend.pendingFailure = none ∧
      ∃ c f found, q.Finds line.backend.workbook c f found ∧ q.model.onItems found = items := by
  constructor
  · intro h
    obtain ⟨made, hmade, h⟩ := Action.bind_ok_iff.mp h
    obtain ⟨found, hinto, h⟩ := Action.ofExcept_bind_ok_iff.mp h
    cases h
    obtain rfl := intoItems_ok_iff.mp hinto
    obtain ⟨f, hfetch, hmaterialize⟩ := materialized_ok_iff.mp hmade
    obtain ⟨hpending, c, hc, hbrings⟩ := fetch_ok_iff.mp hfetch
    exact ⟨hpending, c, f, found, ⟨hc, hbrings, hmaterialize⟩, rfl⟩
  · rintro ⟨hpending, c, f, found, ⟨hc, hbrings, hmade⟩, rfl⟩
    have hfetch := fetch_ok_iff.mpr ⟨hpending, c, hc, hbrings⟩
    have hmaterialized := materialized_ok_iff.mpr ⟨f, hfetch, hmade⟩
    exact Action.bind_ok_iff.mpr ⟨.items found, hmaterialized,
      Action.ofExcept_bind_ok_iff.mpr ⟨found, rfl, rfl⟩⟩

/-! ## Values -/

/-- Different values are read from what is fetched, without items. -/
theorem distinctValues_ok_iff {q : Query} {values : List Value} {line : Line Engine} :
    (q.distinctValues line).1 = .ok values ↔ ∃ f read, (q.fetch line).1 = .ok f ∧
      (q.materializer f.table Sql.computedColumn).distinctValues q.type q.model.selectorOrIdentity
        f.result.rows = .ok read ∧ q.model.onItems read = values := by
  constructor
  · intro h
    obtain ⟨f, hfetch, h⟩ := Action.bind_ok_iff.mp h
    obtain ⟨name, hname, h⟩ := Action.bind_ok_iff.mp h
    obtain ⟨read, hread, hvalues⟩ := Action.ofExcept_bind_ok_iff.mp h
    obtain rfl := Except.ok.inj hname
    exact ⟨f, read, hfetch, hread, Except.ok.inj hvalues⟩
  · rintro ⟨f, read, hfetch, hread, rfl⟩
    refine Action.bind_ok_iff.mpr ⟨f, hfetch, Action.bind_ok_iff.mpr ⟨_, rfl, ?_⟩⟩
    exact Action.ofExcept_bind_ok_iff.mpr ⟨read, hread, rfl⟩

/-- Other values are made of the items. -/
theorem projectedValues_ok_iff {q : Query} {values : List Value} {line : Line Engine} :
    (q.projectedValues line).1 = .ok values ↔ ∃ projector items,
      Projector.ofExpr q.model.selectorOrIdentity = .ok projector ∧ (q.items line).1 = .ok items ∧
        items.mapM projector.applyTo = .ok values := by
  constructor
  · intro h
    obtain ⟨projector, hprojector, h⟩ := Action.ofExcept_bind_ok_iff.mp h
    obtain ⟨items, hitems, h⟩ := Action.bind_ok_iff.mp h
    exact ⟨projector, items, hprojector, hitems, h⟩
  · rintro ⟨projector, items, hprojector, hitems, hvalues⟩
    exact Action.ofExcept_bind_ok_iff.mpr
      ⟨projector, hprojector, Action.bind_ok_iff.mpr ⟨items, hitems, hvalues⟩⟩

theorem values_of_distinct {q : Query} (h : q.model.hasDistinct = true) (line : Line Engine) :
    q.values line = q.distinctValues line := by
  rw [values, if_pos h]

theorem values_of_not_distinct {q : Query} (h : q.model.hasDistinct = false)
    (line : Line Engine) : q.values line = q.projectedValues line := by
  rw [values, if_neg (Bool.eq_false_iff.mp h)]

end Query

end SheetQuery
