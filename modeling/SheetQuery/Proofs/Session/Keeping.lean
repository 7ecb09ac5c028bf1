import SheetQuery.Proofs.Session.Sharing

/-!
# Keeping connections makes no difference

Whether sessions keep their connections or open one for each use shows in the counts of connections
and nowhere else. Two runs of the same events, once with sessions that keep connections and once with
sessions that do not, are followed side by side: at every event they give the same answer, and behind
it they differ in nothing but the account. A connection that is kept knows how it was opened and
nothing else, and is used again only for what would be opened in the same way.

Main statement: `SharedEngine.answers_keeping`.
-/

namespace SheetQuery

/-! ## Actions side by side -/

namespace Action

variable {α β : Type}

/-- The two actions do the same under any accounts, but for the account. -/
def IsAlike (x x' : Action Engine α) : Prop :=
  ∀ (line : Line Engine) (account : Account), ∃ account',
    x' (line.under account) = ((x line).1, (x line).2.under account')

theorem IsBlind.isAlike {x : Action Engine α} (h : x.IsBlind) : x.IsAlike x :=
  fun line account => ⟨account, h line account⟩

theorem isAlike_ofExcept (result : Except QueryError α) :
    IsAlike (ofExcept result) (ofExcept result) :=
  (isBlind_ofExcept result).isAlike

theorem isAlike_computedColumn : IsAlike Query.computedColumn Query.computedColumn :=
  isLocal_computedColumn.isBlind.isAlike

theorem IsAlike.bind {x x' : Action Engine α} {f f' : α → Action Engine β} (hx : x.IsAlike x')
    (hf : ∀ a, (f a).IsAlike (f' a)) : (x >>= f).IsAlike (x' >>= f') := by
  intro line account
  obtain ⟨account', hx⟩ := hx line account
  rw [run_bind, hx, run_bind x f line]
  rcases x line with ⟨e | a, next⟩
  · exact ⟨account', rfl⟩
  · exact hf a next account'

theorem IsAlike.map {x x' : Action Engine α} (hx : x.IsAlike x') (f : α → β) :
    (f <$> x).IsAlike (f <$> x') := by
  rw [← bind_pure_comp, ← bind_pure_comp]
  exact hx.bind fun a => isAlike_ofExcept (.ok (f a))

/-- The same use of a connection is alike whether connections are kept or not. -/
theorem IsBlind.withConnection_isAlike {use : Action Engine α} (h : use.IsBlind)
    (persistent persistent' : Bool) (spec : ConnectionSpec) :
    IsAlike (withConnection persistent spec use) (withConnection persistent' spec use) := by
  intro line account
  refine ⟨account.use persistent' spec, ?_⟩
  rw [withConnection_run h, withConnection_run h, h, Line.account_under]
  rfl

end Action

/-! ## Queries -/

namespace Query

open SheetQuery.Action

/-- The query of a session that keeps connections, or does not. -/
def keeping (q : Query) (enabled : Bool) : Query :=
  { q with source := { q.source with options := { q.source.options with persistent := enabled } } }

variable (q : Query) (enabled : Bool)

theorem fetch_isAlike : IsAlike q.fetch (q.keeping enabled).fetch := by
  refine (isAlike_ofExcept q.clauses).bind ?_
  intro c
  exact (q.source.isBlind_fetch c).withConnection_isAlike _ _ _

theorem materialized_isAlike : IsAlike q.materialized (q.keeping enabled).materialized := by
  refine (q.fetch_isAlike enabled).bind ?_
  intro fetched
  refine isAlike_computedColumn.bind ?_
  intro name
  -- making items looks at the options for trimming and strictness only
  refine IsAlike.bind ?_ ?_
  · exact (isLocal_report _).isBlind.isAlike
  · exact fun _ => isAlike_ofExcept _

theorem scalar_isAlike : IsAlike q.scalar (q.keeping enabled).scalar :=
  (q.materialized_isAlike enabled).bind fun _ => isAlike_ofExcept _

theorem items_isAlike : IsAlike q.items (q.keeping enabled).items := by
  refine (q.materialized_isAlike enabled).bind ?_
  intro made
  exact (isAlike_ofExcept _).bind fun _ => isAlike_ofExcept _

theorem firstItem?_isAlike : IsAlike q.firstItem? (q.keeping enabled).firstItem? :=
  ((q.withOperator .first).items_isAlike enabled).bind fun _ => isAlike_ofExcept _

theorem values_isAlike : IsAlike q.values (q.keeping enabled).values := by
  unfold values
  split
  · next hdistinct =>
      rw [if_pos (show (q.keeping enabled).model.hasDistinct = true from hdistinct)]
      refine (q.fetch_isAlike enabled).bind ?_
      intro fetched
      refine isAlike_computedColumn.bind ?_
      intro name
      exact (isAlike_ofExcept _).bind fun _ => isAlike_ofExcept _
  · next hdistinct =>
      rw [if_neg (show ¬(q.keeping enabled).model.hasDistinct = true from hdistinct)]
      refine (isAlike_ofExcept _).bind ?_
      intro projector
      exact (q.items_isAlike enabled).bind fun _ => isAlike_ofExcept _

theorem firstValue?_isAlike : IsAlike q.firstValue? (q.keeping enabled).firstValue? :=
  ((q.withOperator .first).values_isAlike enabled).bind fun _ => isAlike_ofExcept _

theorem statement_isAlike : IsAlike q.statement (q.keeping enabled).statement := by
  refine (isAlike_ofExcept q.clauses).bind ?_
  intro c
  have hrest : ∀ names : List String, IsBlind (do
      let table ← Action.ofExcept (q.source.resolve names)
      return c.render table : Action Engine Rendered) :=
    fun names => (isBlind_ofExcept _).bind fun _ => isBlind_ofExcept _
  have hworksheets := isBlind_worksheets q.catalogSpec
  have hasked : (q.keeping enabled).source.askedIndex?.isSome = q.source.askedIndex?.isSome := rfl
  rw [hasked]
  cases q.source.askedIndex?.isSome with
  | true => exact (hworksheets.withConnection_isAlike _ _ _).bind fun names => (hrest names).isAlike
  | false => exact (hrest []).isAlike

/-- Finishing a query comes to the same whether its session keeps connections or not. Only a query
that is handed out unfinished shows it. -/
theorem finish_isAlike {ending : Ending} (h : ending ≠ .unrun) :
    IsAlike (q.finish ending) ((q.keeping enabled).finish ending) := by
  -- what is done with the items, the values or the computed value has no use for the line
  cases ending with
  | items => exact (q.items_isAlike enabled).map _
  | firstItem =>
      refine IsAlike.map ((q.firstItem?_isAlike enabled).bind ?_) _
      exact fun found => isAlike_ofExcept (orEmpty found)
  | firstItem? => exact (q.firstItem?_isAlike enabled).map _
  | lastItem? =>
      refine IsAlike.map (((q.withOperator .last).items_isAlike enabled).bind ?_) _
      exact fun items => isAlike_ofExcept (.ok items.getLast?)
  | values => exact (q.values_isAlike enabled).map _
  | valuesOf type =>
      refine IsAlike.map ((q.values_isAlike enabled).bind ?_) _
      exact fun values => isAlike_ofExcept (values.mapM type.read)
  | firstValue =>
      refine IsAlike.map ((q.firstValue?_isAlike enabled).bind ?_) _
      exact fun found => isAlike_ofExcept (orEmpty found)
  | firstValue? => exact (q.firstValue?_isAlike enabled).map _
  | lastValue? =>
      refine IsAlike.map (((q.withOperator .last).values_isAlike enabled).bind ?_) _
      exact fun values => isAlike_ofExcept (.ok values.getLast?)
  | count =>
      refine IsAlike.map (((q.withOperator .count).scalar_isAlike enabled).bind ?_) _
      intro value
      exact (isAlike_ofExcept (toCount value)).bind fun n => isAlike_ofExcept (checkCount n)
  | longCount =>
      refine IsAlike.map (((q.withOperator .longCount).scalar_isAlike enabled).bind ?_) _
      exact fun value => isAlike_ofExcept (toCount value)
  | aggregate function =>
      exact ((q.withOperator (aggregateOperator function)).scalar_isAlike enabled).map _
  | statement => exact (q.statement_isAlike enabled).map _
  | clauses => exact isAlike_ofExcept _
  | unrun => exact absurd rfl h

end Query

/-! ## Commands -/

/-- The answer, but for what an unfinished query says about keeping connections. -/
def Answer.plain : Answer → Answer
  | .query q => .query (q.keeping false)
  | answer => answer

namespace Session

open SheetQuery.Action

variable (s : Session) (enabled : Bool)

theorem withMapper_setPersistent (change : Except QueryError Mapper) :
    (s.setPersistent enabled).withMapper change =
      ((s.withMapper change).1, (s.withMapper change).2.setPersistent enabled) := by
  cases change <;> rfl

theorem addMappingWithTransform_setPersistent (property column : String) (transform : Transform) :
    (s.setPersistent enabled).addMappingWithTransform property column transform =
      ((s.addMappingWithTransform property column transform).1,
        (s.addMappingWithTransform property column transform).2.setPersistent enabled) := by
  have hmapping : (s.setPersistent enabled).addMapping property column =
      ((s.addMapping property column).1, (s.addMapping property column).2.setPersistent enabled) :=
    s.withMapper_setPersistent enabled _
  unfold addMappingWithTransform
  rw [hmapping]
  rcases s.addMapping property column with ⟨e | u, changed⟩
  · rfl
  · exact changed.withMapper_setPersistent enabled _

theorem query_setPersistent (root : TableIdentity) (type : ItemType) :
    (s.setPersistent enabled).query root type =
      (s.query root type).map (Query.keeping · enabled) := by
  have hfile : (s.setPersistent enabled).requiredFile = s.requiredFile := rfl
  unfold query
  rw [hfile]
  cases s.requiredFile with
  | error e => rfl
  | ok file =>
      cases type.hints with
      | error e => rfl
      | ok hints =>
          -- the checks of a source look at none of the options
          have hcheck : Source.check ⟨file, root, type.hasHeader, s.mapper.mergeHints hints,
              (s.setPersistent enabled).options⟩ =
            Source.check ⟨file, root, type.hasHeader, s.mapper.mergeHints hints, s.options⟩ := rfl
          simp only [ok_bind, Source.checked]
          rw [show (s.setPersistent enabled).mapper = s.mapper from rfl, hcheck]
          cases Source.check ⟨file, root, type.hasHeader, s.mapper.mergeHints hints, s.options⟩ with
          | error e => rfl
          | ok u => rfl

/-- The second outcome of a command is that of the first, but for the account and the option to keep
connections. -/
def EndsAlike (r r' : Except QueryError Answer × Session × Line Engine) : Prop :=
  r'.1.map Answer.plain = r.1.map Answer.plain ∧
    ∃ enabled account, r'.2 = (r.2.1.setPersistent enabled, r.2.2.under account)

theorem endsAlike_acting {x x' : Action Engine Answer} (h : x.IsAlike x') (line : Line Engine)
    (account : Account) :
    EndsAlike (s.acting x line) ((s.setPersistent enabled).acting x' (line.under account)) := by
  obtain ⟨account', h⟩ := h line account
  unfold acting
  rw [h]
  exact ⟨rfl, enabled, account', rfl⟩

theorem endsAlike_closeKept (line : Line Engine) (account : Account) :
    EndsAlike (.ok .done, s, line.closeKept)
      (.ok .done, s.setPersistent enabled, (line.under account).closeKept) := by
  rw [Line.closeKept_eq, Line.closeKept_eq]
  exact ⟨rfl, enabled, account.release, rfl⟩

theorem endsAlike_look {use : ConnectionSpec → Action Engine (List String)}
    (h : ∀ spec, (use spec).IsBlind) (line : Line Engine) (account : Account) :
    EndsAlike (s.acting (Answer.names <$> s.look use) line)
      ((s.setPersistent enabled).acting (Answer.names <$> (s.setPersistent enabled).look use)
        (line.under account)) := by
  refine s.endsAlike_acting enabled (IsAlike.map ?_ _) line account
  refine (isAlike_ofExcept s.catalogSpec).bind ?_
  intro spec
  exact (h spec).withConnection_isAlike _ _ spec

theorem endsAlike_query (root : TableIdentity) (type : ItemType) (model : Model) (ending : Ending)
    (line : Line Engine) (account : Account) :
    EndsAlike (s.acting (s.runQuery root type model ending) line)
      ((s.setPersistent enabled).acting ((s.setPersistent enabled).runQuery root type model ending)
        (line.under account)) := by
  by_cases hunrun : ending = .unrun
  · subst hunrun
    simp only [acting, runQuery, query_setPersistent]
    cases s.query root type with
    | error e => exact ⟨rfl, enabled, account, rfl⟩
    | ok q => exact ⟨rfl, enabled, account, rfl⟩
  · refine s.endsAlike_acting enabled ?_ line account
    simp only [runQuery, query_setPersistent]
    cases s.query root type with
    | error e => exact isAlike_ofExcept _
    | ok q => exact Query.finish_isAlike _ enabled hunrun

/-- **Commands side by side**: a command ends alike in a session that keeps connections and in one
that does not, under any two accounts. -/
theorem perform_endsAlike (command : Command) (line : Line Engine) (account : Account) :
    EndsAlike (s.perform command line)
      ((s.setPersistent enabled).perform command (line.under account)) := by
  cases command with
  | addMapping property column =>
      have hchange : (s.setPersistent enabled).addMapping property column = _ :=
        s.withMapper_setPersistent enabled _
      simp only [perform, settled, hchange]
      exact ⟨rfl, enabled, account, rfl⟩
  | addTransformation property transform =>
      have hchange : (s.setPersistent enabled).addTransformation property transform = _ :=
        s.withMapper_setPersistent enabled _
      simp only [perform, settled, hchange]
      exact ⟨rfl, enabled, account, rfl⟩
  | addMappingWithTransform property column transform =>
      have hchange := s.addMappingWithTransform_setPersistent enabled property column transform
      simp only [perform, settled, hchange]
      exact ⟨rfl, enabled, account, rfl⟩
  | setFile file => exact (s.setFile file).endsAlike_closeKept enabled line account
  | setStrictMapping mode => exact ⟨rfl, enabled, account, rfl⟩
  | setTrim policy => exact ⟨rfl, enabled, account, rfl⟩
  | setReadOnly readOnly => exact ⟨rfl, enabled, account, rfl⟩
  | setPersistent wanted =>
      cases wanted with
      | true => exact ⟨rfl, true, account, rfl⟩
      | false => exact (s.setPersistent false).endsAlike_closeKept false line account
  | close => exact s.endsAlike_closeKept enabled line account
  | worksheets => exact s.endsAlike_look enabled isBlind_worksheets line account
  | namedRanges worksheet =>
      refine s.endsAlike_look enabled ?_ line account
      exact fun spec => isBlind_namedRanges spec worksheet
  | columnNames table =>
      refine s.endsAlike_look enabled ?_ line account
      exact fun spec => isBlind_orFail_columnNames spec table
  | query root type model ending =>
      exact s.endsAlike_query enabled root type model ending line account

end Session

/-! ## Events -/

/-- The engine without its counts of connections. -/
def Engine.uncounted (e : Engine) : Engine :=
  { e with opened := 0, live := 0 }

/-- What a client shows apart from connections: its settings, but for the option to keep them, and
what was reported to it. -/
def Client.face (c : Client) : Session × List LogEvent :=
  (c.session.setPersistent false, c.log)

/-- The event with a session that keeps connections, or does not. -/
def Event.keeping (enabled : Bool) : Event → Event
  | .enter session => .enter (session.setPersistent enabled)
  | event => event

namespace SharedEngine

/-- What a shared engine shows apart from connections. -/
def face (shared : SharedEngine) : Engine × List (Session × List LogEvent) :=
  (shared.engine.uncounted, shared.clients.map Client.face)

/-- The answers to a list of events, one after the other. -/
def answers (shared : SharedEngine) : List Event → List (Option (Except QueryError Answer))
  | [] => []
  | event :: rest => (shared.step event).1 :: (shared.step event).2.answers rest

variable {shared shared' : SharedEngine}

/-- Clients of one face stand before engines of one face at lines that differ in the account. -/
theorem exists_line_eq_under {c c' : Client} {e e' : Engine} (hface : c'.face = c.face)
    (hengine : e'.uncounted = e.uncounted) :
    c'.line e' = (c.line e).under (c'.line e').account ∧
      c'.session = c.session.setPersistent c'.session.options.persistent := by
  rcases c with ⟨⟨file, mapper, ⟨strict, trim, persistent, readOnly⟩⟩, kept, log, lastUse⟩
  rcases c' with ⟨⟨file', mapper', ⟨strict', trim', persistent', readOnly'⟩⟩, kept', log', lastUse'⟩
  rcases e with ⟨workbook, pending, statements, opened, live⟩
  rcases e' with ⟨workbook', pending', statements', opened', live'⟩
  cases hface
  cases hengine
  exact ⟨rfl, rfl⟩

/-- In one place of two shared engines of one face stand clients of one face, or nobody. -/
theorem place_cases (h : shared'.face = shared.face) (place : Nat) :
    shared'.clients[place]? = none ∧ shared.clients[place]? = none ∨
      ∃ c c', shared'.clients[place]? = some c' ∧ shared.clients[place]? = some c ∧
        c'.face = c.face := by
  have hplace : shared'.clients[place]?.map Client.face =
      shared.clients[place]?.map Client.face := by
    rw [← List.getElem?_map, ← List.getElem?_map, (Prod.mk.inj h).2]
  cases hc : shared.clients[place]? with
  | none =>
      rw [hc] at hplace
      exact Or.inl ⟨Option.map_eq_none_iff.mp hplace, rfl⟩
  | some c =>
      rw [hc] at hplace
      obtain ⟨c', hc', hface⟩ := Option.map_eq_some_iff.mp hplace
      exact Or.inr ⟨c, c', hc', rfl, hface⟩

theorem step_command_face (h : shared'.face = shared.face) (place : Nat) (command : Command) :
    (shared'.step (.command place command)).1.map (Except.map Answer.plain) =
        (shared.step (.command place command)).1.map (Except.map Answer.plain) ∧
      (shared'.step (.command place command)).2.face =
        (shared.step (.command place command)).2.face := by
  obtain ⟨hengine, hclients⟩ := Prod.mk.inj h
  rcases place_cases h place with ⟨hnone', hnone⟩ | ⟨c, c', hc', hc, hface⟩
  · rw [step_command_none hnone', step_command_none hnone]
    exact ⟨rfl, h⟩
  · obtain ⟨hline, hsession⟩ := exists_line_eq_under hface hengine
    obtain ⟨hanswer, enabled, account, hrest⟩ := c.session.perform_endsAlike
      c'.session.options.persistent command (c.line shared.engine) (c'.line shared'.engine).account
    rw [← hline, ← hsession] at hanswer hrest
    rw [step_command hc', step_command hc]
    refine ⟨congrArg some hanswer, ?_⟩
    rw [hrest]
    refine Prod.ext rfl ?_
    simp only [face, List.map_set, hclients]
    rfl

theorem step_leave_face (h : shared'.face = shared.face) (place : Nat) :
    (shared'.step (.leave place)).1 = (shared.step (.leave place)).1 ∧
      (shared'.step (.leave place)).2.face = (shared.step (.leave place)).2.face := by
  obtain ⟨hengine, hclients⟩ := Prod.mk.inj h
  rcases place_cases h place with ⟨hnone', hnone⟩ | ⟨c, c', hc', hc, hface⟩
  · rw [step_leave_none hnone', step_leave_none hnone]
    exact ⟨rfl, h⟩
  · obtain ⟨hline, -⟩ := exists_line_eq_under hface hengine
    rw [step_leave hc', step_leave hc, hline, Line.closeKept_eq, Line.closeKept_eq]
    refine ⟨rfl, Prod.ext rfl ?_⟩
    simp only [face, ← List.eraseIdx_map, hclients]

/-- **Events side by side**: where two shared engines show the same face, an event has the same answer
at both, and they show the same face behind it. -/
theorem step_face (h : shared'.face = shared.face) (event : Event) (enabled enabled' : Bool) :
    (shared'.step (event.keeping enabled')).1.map (Except.map Answer.plain) =
        (shared.step (event.keeping enabled)).1.map (Except.map Answer.plain) ∧
      (shared'.step (event.keeping enabled')).2.face =
        (shared.step (event.keeping enabled)).2.face := by
  obtain ⟨hengine, hclients⟩ := Prod.mk.inj h
  cases event with
  | command place command => exact step_command_face h place command
  | leave place =>
      obtain ⟨hanswer, hface⟩ := step_leave_face h place
      exact ⟨congrArg _ hanswer, hface⟩
  | enter session =>
      refine ⟨rfl, Prod.ext hengine ?_⟩
      simp only [face, step, Event.keeping, List.map_append, hclients]
      rfl
  | failNext message =>
      have hset := congrArg (Engine.failNext · message) hengine
      exact ⟨rfl, Prod.ext hset hclients⟩
  | addGrid name grid =>
      have hset := congrArg (Engine.addGrid · name grid) hengine
      exact ⟨rfl, Prod.ext hset hclients⟩

/-- By induction on the events, which the two shared engines go through side by side. -/
theorem run_face (h : shared'.face = shared.face) (events : List Event) (enabled enabled' : Bool) :
    (shared'.answers (events.map (·.keeping enabled'))).map (Option.map (Except.map Answer.plain)) =
        (shared.answers (events.map (·.keeping enabled))).map
          (Option.map (Except.map Answer.plain)) ∧
      (shared'.run (events.map (·.keeping enabled'))).face =
        (shared.run (events.map (·.keeping enabled))).face := by
  induction events generalizing shared shared' with
  | nil => exact ⟨rfl, h⟩
  | cons event rest ih =>
      obtain ⟨hanswer, hface⟩ := step_face h event enabled enabled'
      obtain ⟨hanswers, hrun⟩ := ih hface
      refine ⟨?_, hrun⟩
      simp only [List.map_cons, answers, List.cons.injEq]
      exact ⟨hanswer, hanswers⟩

/-- **Keeping connections makes no difference.** Over any engine, a run of events with sessions that
keep connections and the same run with sessions that do not give the same answer to every event and
run the same statements with the same parameters; the same is reported to every session, and the
engines that are left differ in nothing but the counts of connections. -/
theorem answers_keeping (e : Engine) (events : List Event) :
    ((⟨e, []⟩ : SharedEngine).answers (events.map (·.keeping true))).map
          (Option.map (Except.map Answer.plain)) =
        ((⟨e, []⟩ : SharedEngine).answers (events.map (·.keeping false))).map
          (Option.map (Except.map Answer.plain)) ∧
      ((⟨e, []⟩ : SharedEngine).run (events.map (·.keeping true))).engine.statements =
        ((⟨e, []⟩ : SharedEngine).run (events.map (·.keeping false))).engine.statements ∧
      ((⟨e, []⟩ : SharedEngine).run (events.map (·.keeping true))).engine.uncounted =
        ((⟨e, []⟩ : SharedEngine).run (events.map (·.keeping false))).engine.uncounted ∧
      ((⟨e, []⟩ : SharedEngine).run (events.map (·.keeping true))).clients.map Client.log =
        ((⟨e, []⟩ : SharedEngine).run (events.map (·.keeping false))).clients.map Client.log := by
  have hstart : (⟨e, []⟩ : SharedEngine).face = (⟨e, []⟩ : SharedEngine).face := rfl
  obtain ⟨hanswers, hface⟩ := run_face hstart events false true
  obtain ⟨hengine, hclients⟩ := Prod.mk.inj hface
  have hstatements := congrArg Engine.statements hengine
  refine ⟨hanswers, hstatements, hengine, ?_⟩
  have hlogs := congrArg (List.map Prod.snd) hclients
  rw [List.map_map, List.map_map] at hlogs
  exact hlogs

end SharedEngine

end SheetQuery
