import SheetQuery.Proofs.Session.Running
import SheetQuery.Session.Command

/-!
# How queries are finished

Whatever way a query is finished in, the connection comes last: a selector that items go through is
compiled, then the query, and only then a connection is asked for. What follows the connection works
on what was brought back and asks the backend for nothing more. So a query without a statement is
turned down before anything has happened, over any backend and in any state of the line.

Main statements: `Query.finish_follows`, which says what a way of finishing is made of, and
`Session.perform_refused`.
-/

namespace SheetQuery

/-! ## Steps of a run -/

namespace Action

variable {σ α β : Type} {line next : Line σ}

theorem bind_run {x : Action σ α} {f : α → Action σ β} {a : α} (h : x line = (.ok a, next)) :
    (x >>= f) line = f a next := by
  rw [run_bind, h]

theorem bind_run_error {x : Action σ α} {f : α → Action σ β} {e : QueryError}
    (h : (x line).1 = .error e) : (x >>= f) line = (.error e, (x line).2) := by
  rw [run_bind]
  rcases hx : x line with ⟨e' | a, next⟩
  · rw [hx] at h
    cases h
    rfl
  · rw [hx] at h
    cases h

/-- An action that finds the failure to end in. -/
theorem bind_throw_run {x : Action σ QueryError} {e : QueryError} (h : (x line).1 = .ok e) :
    ((x >>= fun e => (throw e : Action σ β)) line).1 = .error e := by
  rw [run_bind]
  rcases hx : x line with ⟨e' | found, next⟩
  · rw [hx] at h
    cases h
  · rw [hx] at h
    cases h
    rfl

end Action

/-! ## Actions that leave the backend alone -/

theorem Line.report_nil {σ : Type} (line : Line σ) : line.report [] = line := by
  simp [report]

theorem Line.report_report {σ : Type} (line : Line σ) (first second : List LogEvent) :
    (line.report first).report second = line.report (first ++ second) := by
  simp [report]

namespace Action

variable {σ α β γ : Type} [Backend σ]

/-- The action asks the backend for nothing: its result and what it reports hang on the name of
computed columns alone. -/
def IsLocal (action : Action σ α) : Prop :=
  ∃ outcome : String → Except QueryError α × List LogEvent, ∀ line : Line σ,
    action line = ((outcome (Backend.computedColumn line.backend)).1,
      line.report (outcome (Backend.computedColumn line.backend)).2)

theorem isLocal_ofExcept (result : Except QueryError α) : IsLocal (σ := σ) (ofExcept result) := by
  refine ⟨fun _ => (result, []), ?_⟩
  intro line
  rw [Line.report_nil]
  rfl

theorem isLocal_pure (a : α) : IsLocal (pure a : Action σ α) :=
  isLocal_ofExcept (.ok a)

theorem isLocal_report (events : List LogEvent) : IsLocal (report events : Action σ Unit) :=
  ⟨fun _ => (.ok (), events), fun _ => rfl⟩

theorem isLocal_computedColumn : IsLocal (Query.computedColumn : Action σ String) := by
  refine ⟨fun name => (.ok name, []), ?_⟩
  intro line
  rw [Line.report_nil]
  rfl

theorem IsLocal.bind {x : Action σ α} {f : α → Action σ β} (hx : IsLocal x)
    (hf : ∀ a, IsLocal (f a)) : IsLocal (x >>= f) := by
  obtain ⟨outcome, hx⟩ := hx
  choose next hf using hf
  refine ⟨fun name => match outcome name with
    | (.ok a, events) => ((next a name).1, events ++ (next a name).2)
    | (.error e, events) => (.error e, events), ?_⟩
  intro line
  rw [run_bind, hx]
  dsimp only
  rcases outcome (Backend.computedColumn line.backend) with ⟨e | a, events⟩
  · rfl
  · -- the second action reports behind what the first has reported
    have hnext := hf a (line.report events)
    rw [Line.report_report] at hnext
    exact hnext

theorem IsLocal.backend {action : Action σ α} (h : action.IsLocal) (line : Line σ) :
    (action line).2.backend = line.backend := by
  obtain ⟨outcome, h⟩ := h
  rw [h]
  rfl

/-! ## Actions that follow on one -/

/-- The action starts with a first one, and goes on without asking the backend for anything. -/
def Follows (first : Action σ β) (action : Action σ α) : Prop :=
  ∃ rest : β → Action σ α, (∀ b, (rest b).IsLocal) ∧ action = first >>= rest

theorem Follows.refl (first : Action σ α) : Follows first first :=
  ⟨pure, isLocal_pure, (bind_pure first).symm⟩

theorem Follows.trans {first : Action σ γ} {second : Action σ α} {action : Action σ β}
    (h : Follows first second) (h' : Follows second action) : Follows first action := by
  obtain ⟨rest, hrest, rfl⟩ := h
  obtain ⟨after, hafter, rfl⟩ := h'
  refine ⟨fun c => rest c >>= after, ?_, bind_assoc first rest after⟩
  intro c
  exact (hrest c).bind hafter

theorem Follows.bind {first : Action σ γ} {x : Action σ α} {f : α → Action σ β}
    (hx : Follows first x) (hf : ∀ a, (f a).IsLocal) : Follows first (x >>= f) :=
  hx.trans ⟨f, hf, rfl⟩

theorem Follows.map {first : Action σ γ} {x : Action σ α} (hx : Follows first x) (f : α → β) :
    Follows first (f <$> x) := by
  rw [← bind_pure_comp]
  exact hx.bind fun a => isLocal_pure (f a)

/-- Where the first action fails, so does what follows on it, and nothing else happens. -/
theorem Follows.error {first : Action σ β} {action : Action σ α} (h : Follows first action)
    {line : Line σ} {e : QueryError} (he : (first line).1 = .error e) :
    action line = (.error e, (first line).2) := by
  obtain ⟨rest, -, rfl⟩ := h
  exact bind_run_error he

/-- What follows on an action leaves the backend as the action left it. -/
theorem Follows.backend {first : Action σ β} {action : Action σ α} (h : Follows first action)
    (line : Line σ) : (action line).2.backend = (first line).2.backend := by
  obtain ⟨rest, hrest, rfl⟩ := h
  rw [run_bind]
  rcases first line with ⟨e | b, next⟩
  · rfl
  · exact (hrest b).backend next

end Action

/-! ## Ways of finishing -/

namespace Ending

/-- The operator that a way of finishing adds to the query. -/
def operator? : Ending → Option Operator
  | .firstItem | .firstItem? | .firstValue | .firstValue? => some .first
  | .lastItem? | .lastValue? => some .last
  | .count => some .count
  | .longCount => some .longCount
  | .aggregate function => some (Query.aggregateOperator function)
  | .items | .values | .valuesOf _ | .statement | .clauses | .unrun => none

/-- The statement of the query is run. -/
def runs : Ending → Bool
  | .statement | .clauses | .unrun => false
  | _ => true

/-- Values of the selector are asked for, rather than items or a value computed from them. -/
def givesValues : Ending → Bool
  | .values | .valuesOf _ | .firstValue | .firstValue? | .lastValue? => true
  | _ => false

end Ending

/-- The query as it stands when it is finished in that way. -/
def Model.ended (m : Model) (ending : Ending) : Model :=
  match ending.operator? with
  | some operator => m.withOperator operator
  | none => m

namespace Query

variable {σ : Type} [Backend σ] {q : Query} {ending : Ending}

/-- The query as it stands when it is finished in that way. -/
def ended (q : Query) (ending : Ending) : Query :=
  { q with model := q.model.ended ending }

/-- The check of the selector before items go through it. Distinct values do without items. -/
def checkProjection (q : Query) (ending : Ending) : Except QueryError Unit :=
  if ending.givesValues && !q.model.hasDistinct then
    (Projector.ofExpr q.model.selectorOrIdentity).map fun _ => ()
  else .ok ()

open SheetQuery.Action

/-! ### What follows on fetching -/

theorem materialized_follows (q : Query) : Follows q.fetch (q.materialized : Action σ _) := by
  refine ⟨_, ?_, rfl⟩
  intro fetched
  refine isLocal_computedColumn.bind ?_
  intro name
  exact (isLocal_report _).bind fun _ => isLocal_ofExcept _

theorem scalar_follows (q : Query) : Follows q.fetch (q.scalar : Action σ _) :=
  q.materialized_follows.bind fun _ => isLocal_ofExcept _

theorem items_follows (q : Query) : Follows q.fetch (q.items : Action σ _) := by
  refine q.materialized_follows.bind ?_
  intro made
  exact (isLocal_ofExcept _).bind fun found => isLocal_pure _

theorem distinctValues_follows (q : Query) : Follows q.fetch (q.distinctValues : Action σ _) := by
  refine ⟨_, ?_, rfl⟩
  intro fetched
  refine isLocal_computedColumn.bind ?_
  intro name
  exact (isLocal_ofExcept _).bind fun values => isLocal_pure _

theorem values_follows (hending : ending.givesValues = true)
    (h : q.checkProjection ending = .ok ()) : Follows q.fetch (q.values : Action σ _) := by
  unfold values
  by_cases hdistinct : q.model.hasDistinct = true
  · rw [if_pos hdistinct]
    exact q.distinctValues_follows
  · rw [if_neg hdistinct]
    rw [checkProjection, hending, Bool.true_and, if_pos (by simpa using hdistinct)] at h
    obtain ⟨projector, hprojector, -⟩ := map_eq_ok_iff.mp h
    unfold projectedValues
    rw [hprojector]
    exact q.items_follows.bind fun found => isLocal_ofExcept _

/-- A selector that is none is found out before anything is fetched. -/
theorem values_of_checkProjection {e : QueryError} (h : q.checkProjection ending = .error e) :
    (q.values : Action σ _) = ofExcept (.error e) := by
  rw [checkProjection] at h
  split at h
  · next hboth =>
      rw [Bool.and_eq_true, Bool.not_eq_true'] at hboth
      have hnone : Projector.ofExpr q.model.selectorOrIdentity = .error e := map_eq_error_iff.mp h
      unfold values projectedValues
      rw [if_neg (by simp [hboth.2]), hnone]
      rfl
  · cases h

/-! ### What follows on the parts of a way of finishing -/

theorem finish_follows_values (q : Query) (h : ending.givesValues = true) :
    Follows (q.ended ending).values (q.finish ending : Action σ _) := by
  cases ending with
  | values => exact (Follows.refl _).map _
  | valuesOf type => exact ((Follows.refl _).bind fun values => isLocal_ofExcept _).map _
  | firstValue =>
      refine Follows.map (Follows.bind (Follows.bind (Follows.refl _) ?_) ?_) _
      · exact fun values => isLocal_pure _
      · exact fun found => isLocal_ofExcept _
  | firstValue? => exact ((Follows.refl _).bind fun values => isLocal_pure _).map _
  | lastValue? => exact ((Follows.refl _).bind fun values => isLocal_pure _).map _
  | _ => cases h

/-- **A way of finishing starts by fetching**, once the selector is checked, and asks the backend for
nothing behind that. -/
theorem finish_follows (hruns : ending.runs = true)
    (h : (q.ended ending).checkProjection ending = .ok ()) :
    Follows (q.ended ending).fetch (q.finish ending : Action σ _) := by
  -- the operator of a way of finishing is in the query already when that is fetched
  by_cases hvalues : ending.givesValues = true
  · exact (values_follows hvalues h).trans (q.finish_follows_values hvalues)
  · cases ending with
    | items => exact q.items_follows.map _
    | firstItem =>
        refine Follows.map (Follows.bind (Follows.bind (items_follows _) ?_) ?_) _
        · exact fun items => isLocal_pure _
        · exact fun found => isLocal_ofExcept _
    | firstItem? => exact ((items_follows _).bind fun items => isLocal_pure _).map _
    | lastItem? => exact ((items_follows _).bind fun items => isLocal_pure _).map _
    | count =>
        refine Follows.map (Follows.bind (scalar_follows _) ?_) _
        exact fun value => (isLocal_ofExcept _).bind fun n => isLocal_ofExcept _
    | longCount => exact ((scalar_follows _).bind fun value => isLocal_ofExcept _).map _
    | aggregate function => exact (scalar_follows _).map _
    | statement => cases hruns
    | clauses => cases hruns
    | unrun => cases hruns
    | _ => exact absurd rfl hvalues

theorem finish_of_checkProjection {e : QueryError}
    (h : (q.ended ending).checkProjection ending = .error e) (line : Line σ) :
    q.finish ending line = (.error e, line) := by
  have hvalues : ending.givesValues = true := by
    by_contra hvalues
    rw [checkProjection, if_neg (by simp [hvalues])] at h
    cases h
  have hfollows := q.finish_follows_values (σ := σ) hvalues
  rw [values_of_checkProjection h] at hfollows
  exact hfollows.error rfl

/-- Where fetching fails, so does finishing the query. The failure is that of fetching, unless it is
that of a selector, which is checked before. -/
theorem finish_of_fetch_error (hruns : ending.runs = true) {line : Line σ} {e : QueryError}
    (h : ((q.ended ending).fetch line).1 = .error e) :
    ∃ e', (q.finish ending line).1 = .error e' ∧
      ((q.ended ending).checkProjection ending = .ok () → e' = e) := by
  cases hcheck : (q.ended ending).checkProjection ending with
  | error e' => exact ⟨e', congrArg Prod.fst (finish_of_checkProjection hcheck line), nofun⟩
  | ok u => exact ⟨e, congrArg Prod.fst ((finish_follows hruns hcheck).error h), fun _ => rfl⟩

/-! ### Queries without a statement -/

theorem fetch_of_clauses_error {e : QueryError} (h : q.clauses = .error e) (line : Line σ) :
    q.fetch line = (.error e, line) := by
  unfold fetch
  rw [h]
  rfl

/-- A query without a statement is turned down and the line is as it was, whatever it was meant to be
finished in. -/
theorem finish_refused (hending : ending ≠ .unrun) {e : QueryError}
    (h : (q.ended ending).clauses = .error e) (line : Line σ) :
    ∃ e', q.finish ending line = (.error e', line) := by
  by_cases hruns : ending.runs = true
  · cases hcheck : (q.ended ending).checkProjection ending with
    | error e' => exact ⟨e', finish_of_checkProjection hcheck line⟩
    | ok u =>
        have hfetch := fetch_of_clauses_error h line
        have hfinish := (finish_follows hruns hcheck).error (congrArg Prod.fst hfetch)
        rw [hfetch] at hfinish
        exact ⟨e, hfinish⟩
  · cases ending with
    | statement =>
        have hclauses : q.clauses = .error e := h
        refine ⟨e, ?_⟩
        simp only [finish, statement, hclauses]
        rfl
    | clauses =>
        have hclauses : q.clauses = .error e := h
        refine ⟨e, ?_⟩
        simp only [finish, hclauses]
        rfl
    | unrun => exact absurd rfl hending
    | _ => exact absurd rfl hruns

end Query

/-! ## Commands of a session -/

/-- The query that a session makes asks for all items, and reads names of columns where its items
have them. -/
theorem Session.query_eq {s : Session} {root : TableIdentity} {type : ItemType} {q : Query}
    (h : s.query root type = .ok q) :
    q.type = type ∧ q.model = .all type.shape ∧ q.source.hasHeader = type.hasHeader ∧
      q.source.options = s.options := by
  obtain ⟨file, -, h⟩ := bind_eq_ok_iff.mp h
  obtain ⟨hints, -, h⟩ := bind_eq_ok_iff.mp h
  obtain ⟨source, hsource, h⟩ := bind_eq_ok_iff.mp h
  obtain ⟨u, -, rfl⟩ := map_eq_ok_iff.mp hsource
  cases h
  exact ⟨rfl, rfl, rfl, rfl⟩

/-- **A query without a statement is turned down at once**, whatever way it is to be finished in: the
session, the backend with its account, the connection that is kept and what was reported are as they
were. The model has the operator that the way of finishing adds; a selector that an aggregate brings
along is the selector of the model. -/
theorem Session.perform_refused {σ : Type} [Backend σ] {s : Session} {root : TableIdentity}
    {type : ItemType} {model : Model} {ending : Ending} (hending : ending ≠ .unrun) {q : Query}
    (hq : s.query root type = .ok q) {e : QueryError}
    (hcompile : compile q.source.mapper (Model.ended { model with shape := type.shape } ending) =
      .error e) (line : Line σ) :
    ∃ e', s.perform (.query root type model ending) line = (.error e', s, line) := by
  have hshape : q.model.shape = type.shape := by
    rw [(query_eq hq).2.1]
    rfl
  have hclauses : (Query.ended { q with model := { model with shape := q.model.shape } }
      ending).clauses = .error e := by
    rw [hshape]
    exact hcompile
  obtain ⟨e', hfinish⟩ := Query.finish_refused hending hclauses line
  refine ⟨e', ?_⟩
  simp only [perform, acting, runQuery, hq]
  show ((Query.finish _ ending line).1, s, (Query.finish _ ending line).2) = _
  rw [hfinish]

/-- A session that keeps its connection. -/
def keepingSession : Session :=
  ⟨some "guests.xls", .empty, { Options.standard with persistent := true }⟩

/-- A line on which a connection is kept and a failure is set up for the next statement. -/
def busyLine : Line Engine :=
  ⟨((Engine.ofWorkbook Workbook.empty).connect).failNext "The disk is full.",
    some ⟨"guests.xls", true, false⟩, []⟩

/-- The distinct names, in groups. -/
def groupedNames : Model :=
  ⟨.row, some (.column mainSource (.named "Name")), [],
    [.distinct, .groupBy (.column mainSource (.named "Age"))]⟩

theorem Session.perform_refused_groups :
    compile .empty (groupedNames.ended .lastValue?) =
        .error (.unsupportedOperator (.unsupported "Group")) ∧
      ∃ e, keepingSession.perform (.query (.worksheet none) .row groupedNames .lastValue?) busyLine =
        (.error e, keepingSession, busyLine) := by
  have hquery : keepingSession.query (.worksheet none) .row = .ok
      ⟨⟨"guests.xls", .worksheet none, true, .empty, keepingSession.options⟩, .row, .all .row⟩ := rfl
  have hending : Ending.lastValue? ≠ .unrun := nofun
  exact ⟨rfl, perform_refused hending hquery rfl busyLine⟩

end SheetQuery
