import Mathlib.Data.List.Perm.Basic
import SheetQuery.Proofs.Session.Connecting

/-!
# Sessions that share an engine

Any number of sessions may stand before one workbook. Each keeps a connection of its own or none, and
all of them go through the counts of the same engine. Sessions come and go, carry out commands in any
order, and in between a failure is set up or a worksheet is added.

Whatever happens, the books balance: the open connections are those that the sessions keep, a session
that is not to keep connections keeps none, and a connection that is kept is of the kind that its
session asked for last. An event opens at most one connection, and none where the session keeps one
of the kind that it asks for.

Main statement: `SharedEngine.run_balances`.
-/

namespace SheetQuery

/-! ## Clients -/

/-- A session with its side of the line: the connection it keeps, what was reported to it, and the
kind of connection that it asked for last. -/
structure Client where
  session : Session
  kept : Option ConnectionSpec
  log : List LogEvent
  lastUse : Option ConnectionSpec

namespace Client

/-- A session that has done nothing. -/
def new (session : Session) : Client :=
  ⟨session, none, [], none⟩

/-- The line from the client to the engine. -/
def line (c : Client) (engine : Engine) : Line Engine :=
  ⟨engine, c.kept, c.log⟩

/-- The client behind a command, with what the command left of the session and of the line. -/
def after (c : Client) (command : Command) (session : Session) (line : Line Engine) : Client :=
  ⟨session, line.kept, line.log, (c.session.request? command).or c.lastUse⟩

/-- The connections that a command of the client opens: one where it asks for a connection of
another kind than the one that is kept. -/
def openings (c : Client) (command : Command) : Nat :=
  if (c.session.request? command).isSome && c.session.request? command != c.kept then 1 else 0

end Client

/-! ## The shared engine -/

/-- An engine and the sessions before it. -/
structure SharedEngine where
  engine : Engine
  clients : List Client

/-- What happens at a shared engine: a session comes, carries out a command or goes, sessions being
told apart by their places; a failure is set up for the next statement; a worksheet is added. -/
inductive Event where
  | enter (session : Session)
  | command (place : Nat) (command : Command)
  | leave (place : Nat)
  | failNext (message : String)
  | addGrid (name : String) (grid : Grid)

namespace SharedEngine

/-- A workbook that nobody has used. -/
def ofWorkbook (w : Workbook) : SharedEngine :=
  ⟨.ofWorkbook w, []⟩

/-- What an event answers and leaves. A command is answered where there is a session in its place. A
session that goes releases its connection, and those behind it move up. -/
def step (shared : SharedEngine) : Event → Option (Except QueryError Answer) × SharedEngine
  | .enter session => (none, { shared with clients := shared.clients ++ [.new session] })
  | .command place command =>
    match shared.clients[place]? with
    | some c =>
      let (answer, session, line) := c.session.perform command (c.line shared.engine)
      (some answer, ⟨line.backend, shared.clients.set place (c.after command session line)⟩)
    | none => (none, shared)
  | .leave place =>
    match shared.clients[place]? with
    | some c => (none, ⟨(c.line shared.engine).closeKept.backend, shared.clients.eraseIdx place⟩)
    | none => (none, shared)
  | .failNext message => (none, { shared with engine := shared.engine.failNext message })
  | .addGrid name grid => (none, { shared with engine := shared.engine.addGrid name grid })

/-- What a list of events leaves. -/
def run (shared : SharedEngine) (events : List Event) : SharedEngine :=
  events.foldl (fun shared event => (shared.step event).2) shared

/-- The connections that an event opens. -/
def openings (shared : SharedEngine) : Event → Nat
  | .command place command => (shared.clients[place]?.map (·.openings command)).getD 0
  | _ => 0

/-- **The books balance**: every open connection is kept by a session, and every kept connection has
its reason. -/
structure IsBalanced (shared : SharedEngine) : Prop where
  live : shared.engine.live = shared.clients.countP (·.kept.isSome)
  wanted : ∀ c ∈ shared.clients, c.session.options.persistent = false → c.kept = none
  recent : ∀ c ∈ shared.clients, ∀ spec, c.kept = some spec → c.lastUse = some spec

end SharedEngine

/-! ## One account -/

namespace Account

/-- The number of connections that the account keeps. -/
def holding (a : Account) : Nat :=
  if a.kept.isSome then 1 else 0

/-- A connection that is kept is open. -/
def IsSound (a : Account) : Prop :=
  a.holding ≤ a.live

theorem release_kept (a : Account) : a.release.kept = none := by
  unfold release
  split
  · rfl
  · next h => simpa using h

theorem release_live (a : Account) : a.release.live = a.live - a.holding := by
  unfold release holding
  split <;> rfl

theorem release_opened (a : Account) : a.release.opened = a.opened := by
  unfold release
  split <;> rfl

theorem use_own (a : Account) (spec : ConnectionSpec) :
    a.use false spec = { a with opened := a.opened + 1 } := rfl

theorem use_kept {a : Account} {spec : ConnectionSpec} (h : a.kept = some spec) :
    a.use true spec = a := by
  rw [use, if_pos rfl, if_pos h]

theorem use_replaced {a : Account} {spec : ConnectionSpec} (h : a.kept ≠ some spec) :
    a.use true spec = ⟨some spec, a.opened + 1, a.release.live + 1⟩ := by
  rw [use, if_pos rfl, if_neg h]

/-- Every connection that is opened is kept or closed again. -/
theorem use_live {a : Account} (h : a.IsSound) (persistent : Bool) (spec : ConnectionSpec) :
    (a.use persistent spec).live + a.holding = a.live + (a.use persistent spec).holding := by
  cases persistent with
  | false => rfl
  | true =>
      by_cases hkept : a.kept = some spec
      · rw [use_kept hkept]
      · have hsound : a.holding ≤ a.live := h
        rw [use_replaced hkept]
        show a.release.live + 1 + a.holding = a.live + 1
        rw [release_live]
        omega

end Account

/-! ## One command -/

theorem Command.releases_cases {command : Command} (h : command.releases = true) :
    (∃ file, command = .setFile file) ∨ command = .setPersistent false ∨ command = .close := by
  cases command with
  | setFile file => exact Or.inl ⟨file, rfl⟩
  | setPersistent enabled =>
      cases enabled with
      | false => exact Or.inr (Or.inl rfl)
      | true => cases h
  | close => exact Or.inr (Or.inr rfl)
  | _ => cases h

namespace Session

variable {s : Session} {command : Command} {a : Account}

theorem request?_of_releases (h : command.releases = true) : s.request? command = none := by
  rcases Command.releases_cases h with ⟨file, rfl⟩ | rfl | rfl <;> rfl

/-- A command asks for nothing, releases what is kept, or uses a connection of one kind. -/
theorem charge_cases (s : Session) (command : Command) (a : Account) :
    s.request? command = none ∧ s.charge command a = a ∧ command.releases = false ∨
      s.request? command = none ∧ s.charge command a = a.release ∧ command.releases = true ∨
      ∃ spec, s.request? command = some spec ∧
        s.charge command a = a.use s.options.persistent spec ∧ command.releases = false := by
  cases hreleases : command.releases with
  | true =>
      refine Or.inr (Or.inl ⟨request?_of_releases hreleases, ?_, rfl⟩)
      rw [charge, if_pos hreleases]
  | false =>
      have hcharge : s.charge command a = a.charge s.options.persistent (s.request? command) := by
        rw [charge, hreleases, if_neg Bool.false_ne_true]
      rw [hcharge]
      cases hrequest : s.request? command with
      | none => exact Or.inl ⟨rfl, rfl, rfl⟩
      | some spec => exact Or.inr (Or.inr ⟨spec, rfl, rfl, rfl⟩)

theorem charge_live (h : a.IsSound) :
    (s.charge command a).live + a.holding = a.live + (s.charge command a).holding := by
  rcases s.charge_cases command a with ⟨-, hcharge, -⟩ | ⟨-, hcharge, -⟩ | ⟨spec, -, hcharge, -⟩
  · rw [hcharge]
  · have hsound : a.holding ≤ a.live := h
    have hnone : a.release.holding = 0 := by
      rw [Account.holding, Account.release_kept]
      rfl
    rw [hcharge, hnone, Account.release_live]
    omega
  · rw [hcharge]
    exact Account.use_live h _ spec

/-- What a command opens, where a connection is kept only by a session that is to keep it. -/
theorem charge_opened (h : s.options.persistent = false → a.kept = none) :
    (s.charge command a).opened = a.opened +
      if (s.request? command).isSome && s.request? command != a.kept then 1 else 0 := by
  rcases s.charge_cases command a with ⟨hrequest, hcharge, -⟩ | ⟨hrequest, hcharge, -⟩ |
    ⟨spec, hrequest, hcharge, -⟩
  · rw [hcharge, hrequest]
    rfl
  · rw [hcharge, hrequest, Account.release_opened]
    rfl
  · rw [hcharge, hrequest]
    cases hpersistent : s.options.persistent with
    | false =>
        rw [h hpersistent]
        rfl
    | true =>
        by_cases hkept : a.kept = some spec
        · rw [Account.use_kept hkept, hkept, if_neg (by simp)]
          rfl
        · rw [Account.use_replaced hkept, if_pos]
          simpa using fun heq => hkept heq.symm

/-- What is kept behind a command is what was asked for last. -/
theorem charge_recent (hwanted : s.options.persistent = false → a.kept = none)
    {last : Option ConnectionSpec} (hlast : ∀ spec, a.kept = some spec → last = some spec)
    {spec : ConnectionSpec} (h : (s.charge command a).kept = some spec) :
    (s.request? command).or last = some spec := by
  rcases s.charge_cases command a with ⟨hrequest, hcharge, -⟩ | ⟨hrequest, hcharge, -⟩ |
    ⟨asked, hrequest, hcharge, -⟩
  · rw [hcharge] at h
    rw [hrequest, hlast spec h]
    rfl
  · rw [hcharge, Account.release_kept] at h
    cases h
  · rw [hcharge] at h
    rw [hrequest]
    cases hpersistent : s.options.persistent with
    | false =>
        rw [hpersistent, Account.use_own, hwanted hpersistent] at h
        cases h
    | true =>
        rw [hpersistent] at h
        by_cases hkept : a.kept = some asked
        · rw [Account.use_kept hkept, hkept] at h
          exact h
        · rw [Account.use_replaced hkept] at h
          exact h

theorem withMapper_options (s : Session) (change : Except QueryError Mapper) :
    (s.withMapper change).2.options = s.options := by
  cases change <;> rfl

theorem addMappingWithTransform_options (s : Session) (property column : String)
    (transform : Transform) :
    (s.addMappingWithTransform property column transform).2.options = s.options := by
  have hmapping : (s.addMapping property column).2.options = s.options := s.withMapper_options _
  unfold addMappingWithTransform
  split
  · next heq =>
      rw [heq] at hmapping
      exact (withMapper_options _ _).trans hmapping
  · exact hmapping

/-- A session that a command leaves without the wish to keep connections had none, or the command
took it away. -/
theorem perform_persistent {line : Line Engine}
    (h : (s.perform command line).2.1.options.persistent = false) :
    command.releases = true ∨ s.options.persistent = false := by
  cases command with
  | setPersistent enabled =>
      cases enabled with
      | false => exact Or.inl rfl
      | true => cases h
  | setFile file => exact Or.inl rfl
  | close => exact Or.inl rfl
  | addMapping property column =>
      exact Or.inr ((congrArg Options.persistent (s.withMapper_options _)).symm.trans h)
  | addTransformation property transform =>
      exact Or.inr ((congrArg Options.persistent (s.withMapper_options _)).symm.trans h)
  | addMappingWithTransform property column transform =>
      have hoptions := s.addMappingWithTransform_options property column transform
      exact Or.inr ((congrArg Options.persistent hoptions).symm.trans h)
  | _ => exact Or.inr h

/-- A session that is not to keep connections keeps none behind a command. -/
theorem charge_wanted (hwanted : s.options.persistent = false → a.kept = none) {line : Line Engine}
    (h : (s.perform command line).2.1.options.persistent = false) :
    (s.charge command a).kept = none := by
  rcases perform_persistent h with hreleases | hpersistent
  · rw [charge, if_pos hreleases, Account.release_kept]
  · rcases s.charge_cases command a with ⟨-, hcharge, -⟩ | ⟨-, hcharge, -⟩ | ⟨spec, -, hcharge, -⟩
    · rw [hcharge, hwanted hpersistent]
    · rw [hcharge, Account.release_kept]
    · rw [hcharge, hpersistent, Account.use_own]
      exact hwanted hpersistent

end Session

/-! ## One event -/

namespace SharedEngine

variable {shared : SharedEngine} {place : Nat} {command : Command} {c : Client}

theorem step_command (h : shared.clients[place]? = some c) :
    shared.step (.command place command) =
      (some (c.session.perform command (c.line shared.engine)).1,
        ⟨(c.session.perform command (c.line shared.engine)).2.2.backend,
          shared.clients.set place (c.after command
            (c.session.perform command (c.line shared.engine)).2.1
            (c.session.perform command (c.line shared.engine)).2.2)⟩) := by
  simp only [step, h]

theorem step_command_none (h : shared.clients[place]? = none) :
    shared.step (.command place command) = (none, shared) := by
  simp only [step, h]

theorem step_leave (h : shared.clients[place]? = some c) :
    shared.step (.leave place) =
      (none, ⟨(c.line shared.engine).closeKept.backend, shared.clients.eraseIdx place⟩) := by
  simp only [step, h]

theorem step_leave_none (h : shared.clients[place]? = none) :
    shared.step (.leave place) = (none, shared) := by
  simp only [step, h]

/-- The account of a client is sound where the books balance. -/
theorem IsBalanced.isSound (h : shared.IsBalanced) (hc : c ∈ shared.clients) :
    (c.line shared.engine).account.IsSound := by
  show (c.line shared.engine).account.holding ≤ shared.engine.live
  unfold Account.holding
  split
  · next hkept =>
      rw [h.live]
      exact List.countP_pos_iff.mpr ⟨c, hc, hkept⟩
  · exact Nat.zero_le _

/-- A client apart, the open connections are those that the others keep. -/
theorem IsBalanced.others (h : shared.IsBalanced) (hplace : shared.clients[place]? = some c) :
    shared.engine.live = (shared.clients.eraseIdx place).countP (·.kept.isSome) +
      (c.line shared.engine).account.holding := by
  obtain ⟨hlt, hget⟩ := List.getElem?_eq_some_iff.mp hplace
  have hperm := List.getElem_cons_eraseIdx_perm hlt
  rw [hget] at hperm
  rw [h.live, ← hperm.countP_eq, List.countP_cons]
  rfl

/-- The books balance behind a change of one client that changes the open connections by as much as
the one that the client keeps. -/
theorem IsBalanced.replace (h : shared.IsBalanced) (hplace : shared.clients[place]? = some c)
    {c' : Client} {engine : Engine}
    (hlive : engine.live + (c.line shared.engine).account.holding =
      shared.engine.live + (c'.line engine).account.holding)
    (hwanted : c'.session.options.persistent = false → c'.kept = none)
    (hrecent : ∀ spec, c'.kept = some spec → c'.lastUse = some spec) :
    IsBalanced ⟨engine, shared.clients.set place c'⟩ := by
  obtain ⟨hlt, -⟩ := List.getElem?_eq_some_iff.mp hplace
  have hmem : ∀ other ∈ shared.clients.set place c', other ∈ shared.clients ∨ other = c' :=
    fun other => List.mem_or_eq_of_mem_set
  refine ⟨?_, ?_, ?_⟩
  · have hothers := h.others hplace
    have hholding : (c'.line engine).account.holding = if c'.kept.isSome then 1 else 0 := rfl
    rw [(List.set_perm_cons_eraseIdx hlt c').countP_eq, List.countP_cons, ← hholding]
    show engine.live = _
    omega
  · intro other hother
    rcases hmem other hother with hother | rfl
    · exact h.wanted other hother
    · exact hwanted
  · intro other hother
    rcases hmem other hother with hother | rfl
    · exact h.recent other hother
    · exact hrecent

/-- The books balance behind a client that went with its connection. -/
theorem IsBalanced.remove (h : shared.IsBalanced) (hplace : shared.clients[place]? = some c)
    {engine : Engine}
    (hlive : engine.live + (c.line shared.engine).account.holding = shared.engine.live) :
    IsBalanced ⟨engine, shared.clients.eraseIdx place⟩ := by
  refine ⟨?_, ?_, ?_⟩
  · rw [h.others hplace] at hlive
    exact Nat.add_right_cancel hlive
  · exact fun other hother => h.wanted other (List.mem_of_mem_eraseIdx hother)
  · exact fun other hother => h.recent other (List.mem_of_mem_eraseIdx hother)

/-- A command keeps the books balanced: what it changes about the open connections is what it changes
about the one that its client keeps. -/
theorem IsBalanced.step_command (h : shared.IsBalanced) (place : Nat) (command : Command) :
    (shared.step (.command place command)).2.IsBalanced := by
  cases hplace : shared.clients[place]? with
  | none =>
      rw [step_command_none hplace]
      exact h
  | some c =>
      rw [SharedEngine.step_command hplace]
      have hc : c ∈ shared.clients := List.mem_of_getElem? hplace
      -- of the engine and the other clients, a command can reach no more than its own account
      have haccount := c.session.perform_account command (c.line shared.engine)
      have hkept := congrArg Account.kept haccount
      have hlive : (c.session.charge command _).live + _ = _ := Session.charge_live (h.isSound hc)
      rw [← haccount] at hlive
      refine h.replace hplace hlive ?_ ?_
      · intro hpersistent
        exact hkept.trans (Session.charge_wanted (h.wanted c hc) hpersistent)
      · intro spec hspec
        exact Session.charge_recent (h.wanted c hc) (h.recent c hc) (hkept.symm.trans hspec)

/-- **Every event keeps the books balanced.** -/
theorem IsBalanced.step (h : shared.IsBalanced) (event : Event) :
    (shared.step event).2.IsBalanced := by
  cases event with
  | enter session =>
      refine ⟨?_, ?_, ?_⟩
      · show shared.engine.live = (shared.clients ++ [Client.new session]).countP (·.kept.isSome)
        rw [h.live, List.countP_append]
        rfl
      · intro c hc
        rcases List.mem_append.mp hc with hc | hc
        · exact h.wanted c hc
        · rw [List.mem_singleton.mp hc]
          exact fun _ => rfl
      · intro c hc
        rcases List.mem_append.mp hc with hc | hc
        · exact h.recent c hc
        · rw [List.mem_singleton.mp hc]
          exact nofun
  | command place command => exact h.step_command place command
  | leave place =>
      cases hplace : shared.clients[place]? with
      | none =>
          rw [step_leave_none hplace]
          exact h
      | some c =>
          rw [step_leave hplace]
          refine h.remove hplace ?_
          have hsound : (c.line shared.engine).account.holding ≤ shared.engine.live :=
            h.isSound (List.mem_of_getElem? hplace)
          have hrelease := (c.line shared.engine).account.release_live
          rw [Line.closeKept_eq]
          show (c.line shared.engine).account.release.live + _ = _
          rw [hrelease]
          exact Nat.sub_add_cancel hsound
  | failNext message => exact ⟨h.live, h.wanted, h.recent⟩
  | addGrid name grid => exact ⟨h.live, h.wanted, h.recent⟩

/-- What an event opens where the books balance. -/
theorem IsBalanced.step_opened (h : shared.IsBalanced) (event : Event) :
    (shared.step event).2.engine.opened = shared.engine.opened + shared.openings event := by
  cases event with
  | command place command =>
      cases hplace : shared.clients[place]? with
      | none =>
          rw [step_command_none hplace, openings, hplace, Option.map_none, Option.getD_none,
            Nat.add_zero]
      | some c =>
          rw [SharedEngine.step_command hplace, openings, hplace, Option.map_some, Option.getD_some]
          have haccount := c.session.perform_account command (c.line shared.engine)
          have hwanted := h.wanted c (List.mem_of_getElem? hplace)
          exact (congrArg Account.opened haccount).trans (Session.charge_opened hwanted)
  | leave place =>
      cases hplace : shared.clients[place]? with
      | none =>
          rw [step_leave_none hplace]
          rfl
      | some c =>
          rw [step_leave hplace, Line.closeKept_eq]
          exact (c.line shared.engine).account.release_opened
  | enter session => rfl
  | failNext message => rfl
  | addGrid name grid => rfl

/-! ## Any run of events -/

theorem isBalanced_ofWorkbook (w : Workbook) : (ofWorkbook w).IsBalanced := by
  have hnobody : ∀ c, c ∉ (ofWorkbook w).clients := fun _ => List.not_mem_nil
  refine ⟨rfl, ?_, ?_⟩
  · exact fun c hc => absurd hc (hnobody c)
  · exact fun c hc => absurd hc (hnobody c)

/-- By induction on the events, each of which keeps the books balanced. -/
theorem IsBalanced.run (h : shared.IsBalanced) (events : List Event) :
    (shared.run events).IsBalanced := by
  induction events generalizing shared with
  | nil => exact h
  | cons event rest ih => exact ih (h.step event)

theorem openings_le_one (shared : SharedEngine) (event : Event) : shared.openings event ≤ 1 := by
  cases event with
  | command place command =>
      rw [openings]
      cases shared.clients[place]? with
      | none => exact Nat.zero_le 1
      | some c =>
          rw [Option.map_some, Option.getD_some, Client.openings]
          split
          · exact Nat.le_refl 1
          · exact Nat.zero_le 1
  | _ => exact Nat.zero_le 1

/-- **Connections are accounted for.** Over any workbook and behind any run of events the books
balance, and the next event opens at most one connection: one for a command whose session asks for
another connection than the one it keeps, and none where it keeps what it asks for. -/
theorem run_balances (w : Workbook) (events : List Event) :
    ((ofWorkbook w).run events).IsBalanced ∧
      (∀ event, (((ofWorkbook w).run events).step event).2.engine.opened =
          ((ofWorkbook w).run events).engine.opened +
            ((ofWorkbook w).run events).openings event ∧
        ((ofWorkbook w).run events).openings event ≤ 1) ∧
      ∀ (place : Nat) (command : Command) (c : Client) (spec : ConnectionSpec),
        ((ofWorkbook w).run events).clients[place]? = some c →
          c.session.request? command = some spec → c.kept = some spec →
            (((ofWorkbook w).run events).step (.command place command)).2.engine.opened =
              ((ofWorkbook w).run events).engine.opened := by
  have hbalanced := (isBalanced_ofWorkbook w).run events
  refine ⟨hbalanced, ?_, ?_⟩
  · exact fun event => ⟨hbalanced.step_opened event, openings_le_one _ event⟩
  · intro place command c spec hplace hrequest hkept
    have hnone : c.openings command = 0 := by
      rw [Client.openings, hrequest, hkept, if_neg (by simp)]
    rw [hbalanced.step_opened, openings, hplace, Option.map_some, Option.getD_some, hnone,
      Nat.add_zero]

end SharedEngine

end SheetQuery
