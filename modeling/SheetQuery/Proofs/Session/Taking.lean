import SheetQuery.Proofs.Decimal.RoundTrip
import SheetQuery.Proofs.Session.Blaming
import SheetQuery.Proofs.Session.Paging
import SheetQuery.Proofs.Session.Refiltering

/-!
# How many items can be asked for

The number of items that a query asks for goes out in digits, and digits are read as they are in any
other place of a statement: as a word where they fit one, else as a floating-point number, which is no
number of rows. So every number below `2 ^ 63` can be asked for, be there as many items or not, and
none from there on can, although such a number only asks for all of them.

Main statement: `Query.take_of_finished`. That a query which succeeds may fail under `take` is
`Query.take_fails`.
-/

namespace SheetQuery

open Sql

/-! ## Reading -/

/-- Digits of a number that does not fit a word stand for a floating-point number. -/
theorem Sql.Token.exists_numberValue?_digits {n : Nat} (hn : 2 ^ 63 ≤ n) :
    ∃ x, numberValue? (Decimal.digits n) = some (.float x) := by
  have hword : Decimal.word? n = none := by
    have hmax : Int64.maxValue.toInt = 2 ^ 63 - 1 := by decide
    rw [Decimal.word?, if_neg]
    omega
  have hdigits : ∀ c ∈ Decimal.digits n, c.isDigit = true := fun c hc =>
    Decimal.isDigit_of_mem_digits hc
  have hread := Decimal.readUnsigned?_digits hdigits (Decimal.digits_ne_nil n)
  have hsign := splitSign_of_isNumberChar fun c hc => isNumberChar_of_isDigit (hdigits c hc)
  rw [numberValue?, readWord?_digits, hword]
  exact ⟨_, by simp [Decimal.readFloat?, hsign, hread]; rfl⟩

/-- Asked for more rows than fit a word, the statement is turned down behind its third token, whatever
it says further on. -/
theorem Sql.Statement.read?_top_of_le {n : Nat} (hn : 2 ^ 63 ≤ n) {rest : List Char}
    {tokens : List Token} (hrest : Token.ofChars? rest = .ok tokens) (params : List Value) :
    read? ("SELECT ".toList ++ ((Selection.top n).chars ++ (" FROM ".toList ++ rest))) params =
      .error (.expected .rowCount 3) := by
  obtain ⟨x, hx⟩ := Token.exists_numberValue?_digits hn
  have hbehind : Yields (" *".toList ++ (" FROM ".toList ++ rest))
      [.star, Keyword.from.token] rest :=
    (yields_blank _).trans ((yields_star _).trans (yields_spaced .from rest))
  have hends : Ends Token.isNumberChar (" *".toList ++ (" FROM ".toList ++ rest)) :=
    ends_cons (by decide)
  have htokens : Token.ofChars? ("SELECT ".toList ++ ((Selection.top n).chars ++
      (" FROM ".toList ++ rest))) = .ok (Keyword.select.token :: Keyword.top.token ::
        .number (.float x) :: .star :: Keyword.from.token :: tokens) := by
    rw [Selection.chars_top, (yields_leading .select (by decide) _).trans
      (yields_leading .top (by decide) _), ofChars?_digits n hends, hx]
    show ((Token.ofChars? _).map _).map _ = _
    rw [hbehind, hrest]
    rfl
  rw [read?, htokens, ok_bind, ofTokens?_eq, Cursor.keyword_token, ok_bind]
  rfl

/-- So the workbook does not answer, although it would with all rows. -/
theorem Engine.answer_top_of_le {n : Nat} (hn : 2 ^ 63 ≤ n) {w : Workbook} {hasHeader : Bool}
    {c : Clauses} {table : Table} {r : ResultSet} (hc : c.selection = .all)
    (h : answer w hasHeader (c.render table) = .ok r) :
    answer w hasHeader ({ c with selection := .top n }.render table) =
      .error (.expected .rowCount 3) := by
  have hall : c.selection.IsWritable := by
    rw [hc]
    trivial
  rw [answer_read] at h
  obtain ⟨s, hs, -⟩ := bind_eq_ok_iff.mp h
  obtain ⟨tokens, t, htokens, -, -⟩ := (Statement.read?_ok_iff hall).mp hs
  rw [answer_read_with, Statement.read?_top_of_le hn htokens]
  rfl

/-! ## Failing to fetch -/

/-- What the engine says to a number of rows that does not fit a word. -/
def Engine.countMessage : String :=
  (Fault.expected .rowCount 3).message

theorem Engine.countMessage_eq :
    Engine.countMessage = "Syntax error: expected row count at token 3" := by
  decide +kernel

namespace Source

variable {s : Source} {line : Line Engine} {c : Clauses} {table : Table} {message : String}

/-- Fetching fails where the engine has a message for the statement. The message is passed on if it is
about columns that the table has and if the table is not named in it. -/
theorem exists_fetch_error (hresolved : s.resolve (s.listed line.backend.workbook) = .ok table)
    (hreply : line.backend.reply s.spec.hasHeader (c.render table) = .error message) :
    ∃ e, (s.fetch c line).1 = .error e ∧ ∀ name t, s.Reads line.backend.workbook table name t →
      (∀ column ∈ c.columnsUsed, column ∈ t.columns) →
        ¬(table.displayName ≠ "" ∧ Text.holds message.toList table.displayName.toList) →
          e = .driver message := by
  obtain ⟨next, hnext⟩ : ∃ next : Line Engine,
      next = { line with backend := line.backend.record (c.render table) } := ⟨_, rfl⟩
  obtain ⟨e, he⟩ : ∃ e, (s.failure table c.columnsUsed message next).1 = .ok e := by
    rcases s.failure_cases table c.columnsUsed message next with ⟨-, h⟩ | h | ⟨column, known, h⟩ <;>
      exact ⟨_, h⟩
  subst hnext
  refine ⟨e, fetch_of_failure hresolved hreply he, fun name t hreads hknown hother => ?_⟩
  have hdriver := failure_run { line with backend := line.backend.record (c.render table) } hreads
    rfl hother c.columnsUsed
  rw [firstUnknown?_eq_none hknown] at hdriver
  exact Except.ok.inj (he.symm.trans hdriver)

end Source

/-! ## Queries -/

namespace Query

variable {q : Query} {line line' : Line Engine} {n : Nat}

/-- **The query fails for the number of items that it asks for**, and says so where the names fit
between brackets and the message is not taken to be about the table. -/
def FailsToCount {α : Type} (q : Query) (w : Workbook) (result : Except QueryError α) : Prop :=
  ∃ e, result = .error e ∧
    (q.NamesFit w → ∀ table, q.source.resolve (q.source.listed w) = .ok table →
      ¬(table.displayName ≠ "" ∧
        Text.holds Engine.countMessage.toList table.displayName.toList) →
      e = .driver Engine.countMessage)

/-- Asking for a number of items sets the selection and nothing else. -/
theorem clauses_take (hq : q.model.operators = []) {c : Clauses} (hc : q.clauses = .ok c) (n : Nat) :
    c.selection = .all ∧
      (q.withOperator (.take n)).clauses = .ok { c with selection := .top n } := by
  obtain ⟨hall, hcompile⟩ := compile_paging hq hc [.take n]
  refine ⟨hall, ?_⟩
  show compile q.source.mapper { q.model with operators := q.model.operators ++ [.take n] } = _
  rw [hq]
  exact hcompile

/-- A query that fetches whole rows does not fetch a number of them that no word is. -/
theorem fetch_take_of_le (hq : q.model.operators = []) (hview : line'.view = line.view)
    (hn : 2 ^ 63 ≤ n) {f : Fetched} (hfetch : (q.fetch line).1 = .ok f) :
    q.FailsToCount line.backend.workbook ((q.withOperator (.take n)).fetch line').1 := by
  obtain ⟨hpending, c, hc, hbrings⟩ := fetch_ok_iff.mp hfetch
  obtain ⟨hall, htake⟩ := clauses_take hq hc n
  obtain ⟨next, hnext, hresult⟩ := fetch_result htake line'
  obtain ⟨hworkbook, hfailure⟩ := Prod.mk.inj (hnext.trans hview)
  have hnone : next.backend.pendingFailure = none := hfailure.trans hpending
  have hresolved : q.source.resolve (q.source.listed next.backend.workbook) = .ok f.table := by
    rw [hworkbook, hbrings.table]
  have hreply : next.backend.reply q.source.spec.hasHeader
      ({ c with selection := .top n }.render f.table) = .error Engine.countMessage := by
    refine Engine.reply_of_fault hnone ?_
    rw [hworkbook]
    exact Engine.answer_top_of_le hn hall hbrings.answer
  obtain ⟨e, he, hdriver⟩ := Source.exists_fetch_error hresolved hreply
  refine ⟨e, hresult.trans he, fun hnames table htable hother => ?_⟩
  obtain rfl : table = f.table := Except.ok.inj (htable.symm.trans hbrings.table)
  obtain ⟨name, t, rows, hreads, -, -, hknown⟩ := hbrings.exists_reads (isCovered_of_compile hc) hall
    (hnames.columns c hc) (hnames.table _ hbrings.table)
  rw [← hworkbook] at hreads
  exact hdriver name t hreads hknown hother

/-- What fails where fetching fails, with the same failure, fails to count. -/
theorem FailsToCount.of_fetch {α β : Type} {w : Workbook} {x : Except QueryError α}
    {y : Except QueryError β} (h : q.FailsToCount w x) (hsame : ∀ e, x = .error e → y = .error e) :
    q.FailsToCount w y := by
  obtain ⟨e, he, hmessage⟩ := h
  exact ⟨e, hsame e he, hmessage⟩

/-- Items and number of items: below the bound the first of them come back, from there on none. -/
theorem items_take (hq : q.model.operators = []) (hview : line'.view = line.view) (n : Nat)
    {items : List Item} (hitems : (q.items line).1 = .ok items) :
    (n < 2 ^ 63 → ((q.withOperator (.take n)).items line').1 = .ok (items.take n)) ∧
      (2 ^ 63 ≤ n →
        q.FailsToCount line.backend.workbook ((q.withOperator (.take n)).items line').1) := by
  obtain ⟨hworkbook, hpending⟩ := Prod.mk.inj hview
  obtain ⟨hnone, c, f, found, hfinds, rfl⟩ := items_ok_iff.mp hitems
  constructor
  · intro hn
    have hbound : ∀ m, .take m ∈ [Paging.take n] → m < 2 ^ 63 := by
      intro m hm
      cases List.mem_singleton.mp hm
      exact hn
    obtain ⟨c', f', htaken⟩ := hfinds.paged hq hbound
    refine items_ok_iff.mpr ⟨hpending.trans hnone, c', f', _, hworkbook ▸ htaken, ?_⟩
    simp only [Model.onItems, withOperator, Model.withOperator, hq]
    rfl
  · intro hn
    have hfetch := fetch_ok_iff.mpr ⟨hnone, c, hfinds.clauses, hfinds.brings⟩
    refine (fetch_take_of_le hq hview hn hfetch).of_fetch fun e he => ?_
    exact congrArg Prod.fst ((items_follows _).error he)

/-- Where different values are not asked for, the values are those of the items. -/
theorem hasDistinct_eq_false (h : .distinct ∉ q.model.operators) : q.model.hasDistinct = false :=
  Bool.eq_false_iff.mpr fun hdistinct => h (Model.hasDistinct_iff.mp hdistinct)

/-- The same for the values of a selector, which are made of the items. -/
theorem values_take (hq : q.model.operators = []) (hview : line'.view = line.view) (n : Nat)
    {values : List Value} (hvalues : (q.values line).1 = .ok values) :
    (n < 2 ^ 63 → ((q.withOperator (.take n)).values line').1 = .ok (values.take n)) ∧
      (2 ^ 63 ≤ n →
        q.FailsToCount line.backend.workbook ((q.withOperator (.take n)).values line').1) := by
  have hplain : q.model.hasDistinct = false := hasDistinct_eq_false (by simp [hq])
  have htaken : (q.withOperator (.take n)).model.hasDistinct = false :=
    hasDistinct_eq_false (by simp [withOperator, Model.withOperator, hq])
  rw [values_of_not_distinct hplain, projectedValues_ok_iff] at hvalues
  obtain ⟨projector, items, hprojector, hitems, hmapped⟩ := hvalues
  have hbelow := (items_take hq hview n hitems).1
  obtain ⟨hnone, c, f, found, hfinds, -⟩ := items_ok_iff.mp hitems
  have hfetch := fetch_ok_iff.mpr ⟨hnone, c, hfinds.clauses, hfinds.brings⟩
  constructor
  · intro hn
    rw [values_of_not_distinct htaken, projectedValues_ok_iff]
    exact ⟨projector, items.take n, hprojector, hbelow hn,
      mapM_eq_ok_iff.mpr (List.forall₂_take n (mapM_eq_ok_iff.mp hmapped))⟩
  · intro hn
    have hcheck : (q.withOperator (.take n)).checkProjection .values = .ok () := by
      rw [checkProjection, htaken]
      exact map_eq_ok_iff.mpr ⟨projector, hprojector, rfl⟩
    refine (fetch_take_of_le hq hview hn hfetch).of_fetch fun e he => ?_
    exact congrArg Prod.fst ((values_follows rfl hcheck).error he)

/-- **Any number of items below `2 ^ 63` can be asked for, and none from there on.** A query that
succeeds without operators gives its first `n` items where `n` fits a word, all of them if there are
no more; for every larger `n` it fails, since the workbook reads no such number of rows. So it is with
the values of its selector. -/
theorem take_of_finished (hq : q.model.operators = []) (hview : line'.view = line.view) (n : Nat) :
    (∀ items, (q.items line).1 = .ok items →
      (n < 2 ^ 63 → ((q.withOperator (.take n)).items line').1 = .ok (items.take n)) ∧
        (2 ^ 63 ≤ n →
          q.FailsToCount line.backend.workbook ((q.withOperator (.take n)).items line').1)) ∧
    ∀ values, (q.values line).1 = .ok values →
      (n < 2 ^ 63 → ((q.withOperator (.take n)).values line').1 = .ok (values.take n)) ∧
        (2 ^ 63 ≤ n →
          q.FailsToCount line.backend.workbook ((q.withOperator (.take n)).values line').1) :=
  ⟨fun _ hitems => items_take hq hview n hitems, fun _ hvalues => values_take hq hview n hvalues⟩

theorem take_of_finished_oneToThree :
    (allRows.items oneToThree).1 =
        .ok [.headerless [.int 1], .headerless [.int 2], .headerless [.int 3]] ∧
      ((allRows.withOperator (.take (2 ^ 63 - 1))).items oneToThree).1 =
        .ok [.headerless [.int 1], .headerless [.int 2], .headerless [.int 3]] ∧
      ((allRows.withOperator (.take (2 ^ 63))).items oneToThree).1 =
        .error (.driver "Syntax error: expected row count at token 3") := by
  have hitems : (allRows.items oneToThree).1 =
      .ok [.headerless [.int 1], .headerless [.int 2], .headerless [.int 3]] := rfl
  have hview : oneToThree.view = oneToThree.view := rfl
  have hbelow := ((take_of_finished (q := allRows) rfl hview (2 ^ 63 - 1)).1 _ hitems).1 (by decide)
  obtain ⟨e, he, hmessage⟩ :=
    ((take_of_finished (q := allRows) rfl hview (2 ^ 63)).1 _ hitems).2 le_rfl
  have hnames : allRows.NamesFit oneToThree.backend.workbook := by
    constructor
    · rintro c hc
      cases hc
      exact nofun
    · rintro table htable
      cases htable
      decide
  have hplain := hmessage hnames ⟨some "Sheet1", none, none⟩ rfl (by decide +kernel)
  rw [Engine.countMessage_eq] at hplain
  exact ⟨hitems, hbelow, hplain ▸ he⟩

/-- **Asking for more items than there are can fail**: the largest number that a machine word has for a
size asks for all three rows and brings back none. -/
theorem take_fails :
    ¬ ∀ (q : Query) (line : Line Engine) (items : List Item) (n : Nat), q.model.operators = [] →
      (q.items line).1 = .ok items → n < 2 ^ 64 →
        ((q.withOperator (.take n)).items line).1 = .ok (items.take n) := by
  intro h
  have hitems : (allRows.items oneToThree).1 =
      .ok [.headerless [.int 1], .headerless [.int 2], .headerless [.int 3]] := rfl
  have hclaimed := h allRows oneToThree _ (2 ^ 64 - 1) rfl hitems (by decide)
  have hview : oneToThree.view = oneToThree.view := rfl
  obtain ⟨e, he, -⟩ := (items_take (q := allRows) rfl hview (2 ^ 64 - 1) hitems).2 (by decide)
  rw [he] at hclaimed
  cases hclaimed

end Query

end SheetQuery
