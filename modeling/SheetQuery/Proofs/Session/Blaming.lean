import SheetQuery.Proofs.Compile.Refusals
import SheetQuery.Proofs.Session.Diagnosis
import SheetQuery.Proofs.Sql.Faults
import SheetQuery.Proofs.Workbook.Listing

/-!
# Tables that are blamed

A failure whose message has the name of the table in it is reported as an invalid table, together
with the worksheets that there are. The engine itself says that a worksheet is missing only where
there is none of that name. But the name may also be in the message for other reasons, and then a
table is blamed that is among the worksheets.

Main statement: `Query.fetch_blamed`. Tables that are blamed although they are there are shown by
`Query.fetch_blamed_present`.
-/

namespace SheetQuery

open Sql

/-! ## What the engine misses -/

namespace Workbook

variable {w : Workbook} {reference name : String}

theorem failsBy_orUnknown {α : Type} (reference : String) (a : Option α) :
    FailsBy (· = .unknownTable reference) (orUnknown reference.toList a) := by
  cases a with
  | some a => exact .ok a
  | none => exact .error (by rw [String.ofList_toList])

theorem failsBy_part (w : Workbook) (reference sheet : String) (grid : Grid) (rest : List Char) :
    FailsBy (· = .unknownTable reference) (w.part reference.toList sheet grid rest) := by
  unfold part
  split
  · exact .ok _
  · split
    · exact (failsBy_orUnknown _ _).bind fun _ => (failsBy_orUnknown _ _).bind fun _ => .ok _
    · exact (failsBy_orUnknown _ _).bind fun _ => .ok _

/-- What a reference can miss: the worksheet before its last dollar sign, or all of it, where it is
no worksheet itself. -/
inductive Misses (w : Workbook) (reference : String) : Fault → Prop where
  | whole (h : w.sheet? reference = none) : Misses w reference (.unknownTable reference)
  | worksheet {sheet : String} (h : w.sheet? sheet = none) :
      Misses w reference (.unknownTable (sheet.push '$'))

/-- **A reference without a grid fails by what it misses.** -/
theorem failsBy_grid (w : Workbook) (reference : String) :
    FailsBy (w.Misses reference) (w.grid reference) := by
  unfold grid
  split
  · exact .ok _
  · next hnone =>
      have hwhole : ∀ {α : Type} {step : Except Fault α},
          FailsBy (· = .unknownTable reference) step → FailsBy (w.Misses reference) step := by
        intro α step hstep fault hfault
        rw [hstep fault hfault]
        exact .whole hnone
      split
      · next worksheet rest _ =>
          cases hsheet : w.sheet? (String.ofList worksheet) with
          | some grid => exact hwhole (failsBy_part w reference _ grid rest)
          | none =>
              have hname : String.ofList (worksheet ++ ['$']) = (String.ofList worksheet).push '$' := by
                rw [← String.toList_inj]
                simp
              refine .error ?_
              rw [hname]
              exact .worksheet hsheet
      · exact (hwhole (failsBy_orUnknown _ _)).bind fun _ =>
          (hwhole (failsBy_orUnknown _ _)).bind fun _ => .ok _

/-- A worksheet is missed only where there is none. -/
theorem sheet?_eq_none_of_grid (h : w.grid reference = .error (.unknownTable (name.push '$'))) :
    w.sheet? name = none := by
  generalize hfault : Fault.unknownTable (name.push '$') = fault at h
  cases w.failsBy_grid reference fault h with
  | whole hnone =>
      obtain rfl := Fault.unknownTable.inj hfault
      -- a worksheet that is there answers to its name with a dollar sign
      cases hsheet : w.sheet? name with
      | none => rfl
      | some grid => cases (grid_push hsheet).symm.trans h
  | @worksheet sheet hsheet =>
      have hname : name = sheet := by simpa using Fault.unknownTable.inj hfault
      rw [hname, hsheet]

end Workbook

/-- **The engine misses a worksheet only where there is none of the name**, whatever the statement
is. -/
theorem Engine.sheet?_eq_none_of_answer {w : Workbook} {hasHeader : Bool} {statement : Rendered}
    {name : String} (h : answer w hasHeader statement = .error (.unknownTable (name.push '$'))) :
    w.sheet? name = none := by
  unfold answer at h
  cases hread : Statement.read? statement.sql.toList statement.params with
  | error fault =>
      rw [hread] at h
      cases h
      exact absurd rfl (Statement.missesNoTable_read? _ _ _ hread _)
  | ok s =>
      rw [hread, ok_bind] at h
      cases htable : w.table s.table hasHeader with
      | error fault =>
          rw [htable] at h
          cases h
          exact Workbook.sheet?_eq_none_of_grid (map_eq_error_iff.mp htable)
      | ok table =>
          rw [htable] at h
          exact absurd rfl (s.missesNoTable_evaluate table _ h _)

/-! ## What a message comes to -/

namespace Engine

variable {e : Engine} {hasHeader : Bool} {statement : Rendered} {message : String}

/-- A workbook has its faults before the first row, or the failure that was set up. -/
theorem reply_error_cases (h : e.reply hasHeader statement = .error message) :
    e.pendingFailure = some message ∨ e.pendingFailure = none ∧
      ∃ fault, answer e.workbook hasHeader statement = .error fault ∧ message = fault.message := by
  unfold reply at h
  split at h
  · next hpending =>
      cases h
      exact Or.inl hpending
  · next hpending =>
      split at h
      · cases h
      · next fault hfault =>
          cases h
          exact Or.inr ⟨hpending, fault, hfault, rfl⟩

theorem readAll_reply_error_iff : (e.reply hasHeader statement).bind Reply.readAll =
    .error message ↔ e.reply hasHeader statement = .error message := by
  unfold reply
  cases e.pendingFailure with
  | some message => simp [Except.bind]
  | none => cases answer e.workbook hasHeader statement <;> simp [Except.bind, Reply.readAll]

/-- **The ways in which a table comes to be blamed that is among the worksheets.** The failure was
set up; or the worksheet is there, and its name is in the words for another object that the engine
misses, or for a fault that is about no table; or there is no worksheet of the name, and signs in
the names of the workbook make the listing show one. -/
inductive Misleads (e : Engine) (hasHeader : Bool) (statement : Rendered) (name message : String) :
    Prop where
  | setUp (h : e.pendingFailure = some message)
  | elsewhere {reference : String} (hpending : e.pendingFailure = none)
      (hthere : (e.workbook.sheet? name).isSome = true)
      (hanswer : answer e.workbook hasHeader statement = .error (.unknownTable reference))
      (hmessage : message = (Fault.unknownTable reference).message)
      (hother : reference ≠ name.push '$')
  | words {fault : Fault} (hpending : e.pendingFailure = none)
      (hthere : (e.workbook.sheet? name).isSome = true)
      (hanswer : answer e.workbook hasHeader statement = .error fault)
      (hmessage : message = fault.message) (hother : ∀ reference, fault ≠ .unknownTable reference)
  | listed (hmissing : e.workbook.sheet? name = none) (hsigns : ¬e.workbook.IsPlain)

/-- A message that blames one of the worksheets misleads. -/
theorem misleads_of_mem {name : String} (h : e.reply hasHeader statement = .error message)
    (hname : name ∈ Catalog.worksheets e.workbook.tableNames) :
    e.Misleads hasHeader statement name message := by
  rcases reply_error_cases h with hpending | ⟨hpending, fault, hanswer, rfl⟩
  · exact .setUp hpending
  · cases hsheet : e.workbook.sheet? name with
    | none =>
        refine .listed hsheet fun hplain => ?_
        rw [Workbook.worksheets_tableNames hplain] at hname
        obtain ⟨sheet, hmem, rfl⟩ := List.mem_map.mp hname
        unfold Workbook.sheet? at hsheet
        rw [Option.map_eq_none_iff, List.find?_eq_none] at hsheet
        exact absurd (beq_self_eq_true _) (hsheet sheet hmem)
    | some grid =>
        have hthere : (e.workbook.sheet? name).isSome = true := by rw [hsheet]; rfl
        by_cases hmissed : ∃ reference, fault = .unknownTable reference
        · obtain ⟨reference, rfl⟩ := hmissed
          refine .elsewhere hpending hthere hanswer rfl ?_
          rintro rfl
          cases hsheet.symm.trans (sheet?_eq_none_of_answer hanswer)
        · exact .words hpending hthere hanswer rfl fun reference hfault => hmissed ⟨reference, hfault⟩

end Engine

namespace Source

variable {s : Source} {c : Clauses} {line : Line Engine} {resolved : Table}
  {table file message : String} {valid : List String}

theorem resolve_error {names : List String} {e : QueryError} (h : s.resolve names = .error e) :
    e = .configuration .worksheetIndexOutOfRange := by
  have hname := map_eq_error_iff.mp h
  unfold worksheetName at hname
  split at hname
  · cases hname
  · split at hname
    · cases hname
    · split at hname
      · cases hname
      · cases hname
        rfl
    · cases hname

/-- A failure that does not name the table is looked into and never blames it. -/
theorem columnFailure_cases (s : Source) (resolved : Table) (used : List String)
    (received : String) (line : Line Engine) :
    (s.columnFailure resolved used received line).1 = .ok (.driver received) ∨
      ∃ column known, (s.columnFailure resolved used received line).1 =
        .ok (.invalidColumnReference column known) := by
  obtain ⟨known, next, hknown⟩ :
      ∃ known next, Action.columnNames s.spec resolved line = (.ok known, next) := ⟨_, _, rfl⟩
  unfold columnFailure
  rw [Action.bind_run hknown]
  cases known with
  | error e => exact Or.inl rfl
  | ok known =>
      cases hfirst : firstUnknown? used known with
      | none =>
          refine Or.inl ?_
          simp only [hfirst]
          rfl
      | some column =>
          refine Or.inr ⟨column, known, ?_⟩
          simp only [hfirst]
          rfl

/-- **A table is blamed exactly where its name is in the message**, and the worksheets are listed. -/
theorem failure_cases (s : Source) (resolved : Table) (used : List String) (received : String)
    (line : Line Engine) :
    (resolved.displayName ≠ "" ∧ resolved.displayName.toList <:+: received.toList) ∧
        (s.failure resolved used received line).1 = .ok (.invalidTableReference
          resolved.displayName s.file (Catalog.worksheets line.backend.workbook.tableNames)
            received) ∨
      ((s.failure resolved used received line).1 = .ok (.driver received) ∨
        ∃ column known, (s.failure resolved used received line).1 =
          .ok (.invalidColumnReference column known)) := by
  unfold failure
  split
  · next hnamed => exact Or.inl ⟨⟨hnamed.1, Text.holds_iff.mp hnamed.2⟩, rfl⟩
  · exact Or.inr (s.columnFailure_cases resolved used received line)

theorem checkUsed_error {columns : List String} {e : QueryError}
    (h : checkUsed c columns = .error e) : ∃ column, e = .invalidColumnReference column columns := by
  unfold checkUsed at h
  split at h
  · split at h
    · cases h
      exact ⟨_, rfl⟩
    · cases h
  · cases h

/-- **What fetching fails with**: a worksheet that no position leads to; a message of the engine, which
blames the table where its name is in it; or a column to blame. -/
inductive Fails (s : Source) (c : Clauses) (e : Engine) : QueryError → Prop where
  | position : Fails s c e (.configuration .worksheetIndexOutOfRange)
  | table {resolved : Table} {message : String}
      (hresolve : s.resolve (s.listed e.workbook) = .ok resolved)
      (hreply : e.reply s.hasHeader (c.render resolved) = .error message)
      (hnamed : resolved.displayName ≠ "")
      (hmentioned : resolved.displayName.toList <:+: message.toList) :
      Fails s c e (.invalidTableReference resolved.displayName s.file
        (Catalog.worksheets e.workbook.tableNames) message)
  | driver {resolved : Table} {message : String}
      (hresolve : s.resolve (s.listed e.workbook) = .ok resolved)
      (hreply : e.reply s.hasHeader (c.render resolved) = .error message) :
      Fails s c e (.driver message)
  | column (column : String) (known : List String) :
      Fails s c e (.invalidColumnReference column known)

theorem failsBy_fetch (s : Source) (c : Clauses) (line : Line Engine) :
    FailsBy (s.Fails c line.backend) (s.fetch c line).1 := by
  intro e h
  unfold fetch at h
  rw [Action.run_bind, locate_run] at h
  cases hresolve : s.resolve (s.listed line.backend.workbook) with
  | error e' =>
      rw [hresolve] at h
      obtain rfl := resolve_error hresolve
      cases h
      exact .position
  | ok resolved =>
      rw [hresolve] at h
      have hask : Action.ask (Backend.execute s.spec (c.render resolved)) line =
          (.ok (line.backend.reply s.hasHeader (c.render resolved)),
            { line with backend := line.backend.record (c.render resolved) }) := rfl
      simp only [Action.bind_run hask] at h
      cases hread : (line.backend.reply s.hasHeader (c.render resolved)).bind Reply.readAll with
      | error received =>
          rw [hread] at h
          have hreply := Engine.readAll_reply_error_iff.mp hread
          rcases s.failure_cases resolved c.columnsUsed received
            { line with backend := line.backend.record (c.render resolved) } with
            ⟨⟨hnamed, hinfix⟩, hfailure⟩ | hfailure | ⟨column, known, hfailure⟩
          · cases (Action.bind_throw_run hfailure).symm.trans h
            exact .table hresolve hreply hnamed hinfix
          · cases (Action.bind_throw_run hfailure).symm.trans h
            exact .driver hresolve hreply
          · cases (Action.bind_throw_run hfailure).symm.trans h
            exact .column column known
      | ok result =>
          rw [hread] at h
          cases hused : checkUsed c result.columns with
          | error e' =>
              obtain ⟨column, rfl⟩ := checkUsed_error hused
              simp only [hused] at h
              cases h
              exact .column column result.columns
          | ok u =>
              simp only [hused] at h
              cases h

/-- Fetching blames a table only by a message of the engine that has its name. -/
theorem fetch_blames (h : (s.fetch c line).1 =
    .error (.invalidTableReference table file valid message)) :
    ∃ resolved, s.resolve (s.listed line.backend.workbook) = .ok resolved ∧
      line.backend.reply s.hasHeader (c.render resolved) = .error message ∧
      table = resolved.displayName ∧ table ≠ "" ∧ file = s.file ∧
      valid = Catalog.worksheets line.backend.workbook.tableNames ∧
      table.toList <:+: message.toList := by
  cases s.failsBy_fetch c line _ h with
  | table hresolve hreply hnamed hinfix =>
      exact ⟨_, hresolve, hreply, rfl, hnamed, rfl, rfl, hinfix⟩

end Source

/-! ## Queries -/

theorem Engine.reply_of_view {e e' : Engine}
    (h : (e'.workbook, e'.pendingFailure) = (e.workbook, e.pendingFailure)) (hasHeader : Bool)
    (statement : Rendered) : e'.reply hasHeader statement = e.reply hasHeader statement := by
  obtain ⟨hworkbook, hpending⟩ := Prod.mk.inj h
  unfold reply
  rw [hworkbook, hpending]

/-- What fetching fails with hangs on the workbook and on the failure that is set up. -/
theorem Source.Fails.of_view {s : Source} {c : Clauses} {e e' : Engine} {error : QueryError}
    (h : (e'.workbook, e'.pendingFailure) = (e.workbook, e.pendingFailure))
    (hfails : s.Fails c e' error) : s.Fails c e error := by
  have hworkbook : e'.workbook = e.workbook := (Prod.mk.inj h).1
  cases hfails with
  | position => exact .position
  | table hresolve hreply hnamed hinfix =>
      rw [hworkbook] at hresolve ⊢
      exact .table hresolve (Engine.reply_of_view h _ _ ▸ hreply) hnamed hinfix
  | driver hresolve hreply =>
      rw [hworkbook] at hresolve
      exact .driver hresolve (Engine.reply_of_view h _ _ ▸ hreply)
  | column column known => exact .column column known

namespace Query

variable {q : Query} {line : Line Engine} {table file message : String} {valid : List String}

/-- A query is refused, or fails over the workbook. -/
theorem failsBy_fetch (q : Query) (line : Line Engine) :
    FailsBy (fun e => e.IsRefusal ∨ ∃ c, q.clauses = .ok c ∧ q.source.Fails c line.backend e)
      (q.fetch line).1 := by
  intro e h
  cases hclauses : q.clauses with
  | error refusal =>
      rw [fetch_of_clauses_error hclauses] at h
      cases h
      exact Or.inl (refuses_compile q.source.mapper q.model _ hclauses)
  | ok c =>
      obtain ⟨line', hview, hresult⟩ := fetch_result hclauses line
      rw [hresult] at h
      exact Or.inr ⟨c, rfl, (q.source.failsBy_fetch c line' e h).of_view hview⟩

/-- A query that has no statement blames no table. -/
theorem exists_clauses_of_fetch_blamed
    (h : (q.fetch line).1 = .error (.invalidTableReference table file valid message)) :
    ∃ c, q.clauses = .ok c := by
  cases hclauses : q.clauses with
  | ok c => exact ⟨c, rfl⟩
  | error e =>
      rw [fetch_of_clauses_error hclauses] at h
      cases h
      cases refuses_compile q.source.mapper q.model _ hclauses

/-- **A table that is blamed is among the worksheets only where the message misleads.** Whatever the
query and the workbook are, a table is blamed by a message of the engine that has its name, and all
worksheets are listed with it. A worksheet is never blamed for being missing when it is there. -/
theorem fetch_blamed
    (h : (q.fetch line).1 = .error (.invalidTableReference table file valid message)) :
    ∃ c resolved, q.clauses = .ok c ∧
      q.source.resolve (q.source.listed line.backend.workbook) = .ok resolved ∧
      line.backend.reply q.source.hasHeader (c.render resolved) = .error message ∧
      table = resolved.displayName ∧ table ≠ "" ∧ table.toList <:+: message.toList ∧
      file = q.source.file ∧ valid = Catalog.worksheets line.backend.workbook.tableNames ∧
      (table ∈ valid →
        line.backend.Misleads q.source.hasHeader (c.render resolved) table message) := by
  obtain ⟨c, hc⟩ := exists_clauses_of_fetch_blamed h
  obtain ⟨line', hview, hresult⟩ := fetch_result hc line
  rw [hresult] at h
  obtain ⟨resolved, hresolve, hreply, htable, hnamed, hfile, hvalid, hinfix⟩ :=
    Source.fetch_blames h
  have hworkbook : line'.backend.workbook = line.backend.workbook := (Prod.mk.inj hview).1
  rw [hworkbook] at hresolve hvalid
  rw [Engine.reply_of_view hview] at hreply
  refine ⟨c, resolved, hc, hresolve, hreply, htable, hnamed, hinfix, hfile, hvalid, fun hmem => ?_⟩
  rw [hvalid] at hmem
  exact Engine.misleads_of_mem hreply hmem

/-- All rows of a part of the guest book. -/
def guestBook (root : TableIdentity) : Query :=
  ⟨⟨"guests.xls", root, true, .empty, .standard⟩, .row, .all .row⟩

/-- The sum of what is in the column of the names. -/
def nameSum (worksheet : String) : Query :=
  ⟨⟨"guests.xls", .worksheet (some (.named worksheet)), true, .empty, .standard⟩, .row,
    { Model.all .row with selector := some (.ofColumn (.named "Name")), operators := [.sum] }⟩

/-- A line to a workbook of one worksheet. -/
def onlySheet (name : String) : Line Engine :=
  .ofBackend (.ofWorkbook (Workbook.empty.addSheet name ["Name"] [[.text "Ann"]]))

set_option maxRecDepth 4000 in
theorem fetch_blamed_vip :
    ∃ resolved message, ((guestBook (.namedRange (some (.named "Guests")) "VIP")).fetch
        (onlySheet "Guests")).1 =
        .error (.invalidTableReference "Guests" "guests.xls" ["Guests"] message) ∧
      "Guests".toList <:+: message.toList ∧
      (onlySheet "Guests").backend.Misleads true (Clauses.all.render resolved) "Guests" message := by
  have hc : (guestBook (.namedRange (some (.named "Guests")) "VIP")).clauses = .ok .all := rfl
  have h : ((guestBook (.namedRange (some (.named "Guests")) "VIP")).fetch (onlySheet "Guests")).1 =
      .error (.invalidTableReference "Guests" "guests.xls" ["Guests"]
        (Fault.unknownTable "Guests$VIP").message) := rfl
  obtain ⟨c, resolved, hclauses, -, -, -, -, hinfix, -, -, hmisleads⟩ := fetch_blamed h
  cases hc.symm.trans hclauses
  exact ⟨resolved, _, h, hinfix, hmisleads List.mem_cons_self⟩

set_option maxRecDepth 4000 in
/-- **Worksheets that are there are blamed**: by a failure that was set up, for a range that they do
not have, and for a wording that their name occurs in; and one in quotes is listed under the name of
one that is not there. -/
theorem fetch_blamed_present :
    ((guestBook (.worksheet (some (.named "Guests")))).fetch
        { onlySheet "Guests" with
          backend := (onlySheet "Guests").backend.failNext "Guests is locked" }).1 =
        .error (.invalidTableReference "Guests" "guests.xls" ["Guests"] "Guests is locked") ∧
      ((guestBook (.namedRange (some (.named "Guests")) "VIP")).fetch (onlySheet "Guests")).1 =
        .error (.invalidTableReference "Guests" "guests.xls" ["Guests"]
          (Fault.unknownTable "Guests$VIP").message) ∧
      ((nameSum "Data").fetch (onlySheet "Data")).1 =
        .error (.invalidTableReference "Data" "guests.xls" ["Data"] Fault.typeMismatch.message) ∧
      ((guestBook (.worksheet (some (.named "Guests")))).fetch (onlySheet "'Guests'")).1 =
        .error (.invalidTableReference "Guests" "guests.xls" ["Guests"]
          (Fault.unknownTable "Guests$").message) :=
  ⟨rfl, rfl, rfl, rfl⟩

end Query

end SheetQuery
