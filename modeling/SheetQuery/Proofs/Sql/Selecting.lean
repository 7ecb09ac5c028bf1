import SheetQuery.Backend.Engine
import SheetQuery.Proofs.Sql.Places
import SheetQuery.Proofs.Sql.Reading

/-!
# Statements that differ in their selection

The selection stands before everything else of a statement, so statements over the same table that
differ in what they select are read alike, up to the selection, whatever the names in the rest of
them are. Whatever is selected is then made of the same rows: those that the condition leaves of the
table, in the order that is asked for.

Main statements: `Engine.leaves_of_answer` with `Engine.Leaves.unique`, for two statements that are
both answered, and `Engine.answer_selecting`, for one that is answered because another one is.
-/

namespace SheetQuery

open Sql

/-! ## Reading -/

/-- The tail of a statement is read where its selection ends. -/
theorem Sql.Statement.ofTokens?_selection {selection : Selection} (h : selection.IsWritable)
    (tokens : List Token) (params : List Value) :
    ofTokens? (Keyword.select.token :: (selection.tokens ++ [Keyword.from.token]) ++ tokens)
        params =
      (tail params.length ⟨Keyword.from.token :: tokens, 1 + selection.tokens.length, params⟩ >>=
        fun t => .ok ⟨selection, t.table, t.condition, t.orderBy⟩) := by
  have hread : Reads Cursor.selection selection.tokens [] selection
      (Keyword.from.token :: tokens) := Cursor.reads_selection h.isCounted
  have hselection := hread 1 params
  rw [List.nil_append] at hselection
  rw [ofTokens?_eq, List.cons_append, List.append_assoc, List.singleton_append,
    Cursor.keyword_token, ok_bind, hselection]
  rfl

/-- A statement is read when the text behind its selection is. -/
theorem Sql.Statement.read?_ok_iff {selection : Selection} (h : selection.IsWritable)
    {rest : List Char} {params : List Value} {s : Statement} :
    read? ("SELECT ".toList ++ (selection.chars ++ (" FROM ".toList ++ rest))) params = .ok s ↔
      ∃ tokens t, Token.ofChars? rest = .ok tokens ∧
        tail params.length ⟨Keyword.from.token :: tokens, 1 + selection.tokens.length, params⟩ =
          .ok t ∧ s = ⟨selection, t.table, t.condition, t.orderBy⟩ := by
  have hyields := Clauses.yields_selection h rest
  constructor
  · intro hread
    obtain ⟨tokens, htokens, hread⟩ := bind_eq_ok_iff.mp hread
    rw [hyields] at htokens
    obtain ⟨behind, hbehind, rfl⟩ := map_eq_ok_iff.mp htokens
    rw [ofTokens?_selection h] at hread
    obtain ⟨t, ht, hread⟩ := bind_eq_ok_iff.mp hread
    cases hread
    exact ⟨behind, t, hbehind, ht, rfl⟩
  · rintro ⟨behind, t, hbehind, ht, rfl⟩
    have htokens : Token.ofChars? ("SELECT ".toList ++ (selection.chars ++
        (" FROM ".toList ++ rest))) =
          .ok (Keyword.select.token :: (selection.tokens ++ [Keyword.from.token]) ++ behind) := by
      rw [hyields, hbehind]
      rfl
    refine bind_eq_ok_iff.mpr ⟨_, htokens, ?_⟩
    rw [ofTokens?_selection h, ht]
    rfl

/-- A value that is read as a number of rows is a word. -/
theorem Sql.Cursor.exists_of_selection_top {value : Value} {rest : List Token} {position : Nat}
    {unbound : List Value} {read : Selection × Cursor}
    (h : selection ⟨Keyword.top.token :: .number value :: rest, position, unbound⟩ = .ok read) :
    ∃ w, value = .int w := by
  rw [selection, if_pos (by simp [seesKeyword_token])] at h
  · obtain ⟨count, hcount, -⟩ := bind_eq_ok_iff.mp h
    unfold rowCount at hcount
    split at hcount
    · next w _ hahead =>
        cases hahead
        exact ⟨w, rfl⟩
    · cases hcount

/-- The number of rows stands in digits between its keyword and the star. -/
theorem Sql.Selection.chars_top (n : Nat) (rest : List Char) :
    (top n).chars ++ rest = "TOP ".toList ++ (Decimal.digits n ++ (" *".toList ++ rest)) := by
  have happend : ∀ word star : List Char, word ++ Decimal.digits n ++ star ++ rest =
      word ++ (Decimal.digits n ++ (star ++ rest)) := fun word star => by
    simp only [List.append_assoc]
  exact happend _ _

/-- A number of rows is read only where it fits a word. -/
theorem Sql.Statement.lt_of_read?_top {n : Nat} {rest : List Char} {params : List Value}
    {s : Statement}
    (h : read? ("SELECT ".toList ++ ((Selection.top n).chars ++ rest)) params = .ok s) :
    n < 2 ^ 63 := by
  have hselect : ∀ behind, Yields ("SELECT ".toList ++ behind) [Keyword.select.token] behind :=
    yields_leading .select (by decide)
  have htop : ∀ behind, Yields ("TOP ".toList ++ behind) [Keyword.top.token] behind :=
    yields_leading .top (by decide)
  obtain ⟨tokens, htokens, h⟩ := bind_eq_ok_iff.mp h
  rw [Selection.chars_top, (hselect _).trans (htop _)] at htokens
  obtain ⟨behind, hbehind, rfl⟩ := map_eq_ok_iff.mp htokens
  have hends : Ends Token.isNumberChar (" *".toList ++ rest) := ends_cons (by decide)
  rw [ofChars?_digits n hends] at hbehind
  split at hbehind
  · next value hvalue =>
      obtain ⟨more, -, rfl⟩ := map_eq_ok_iff.mp hbehind
      have hread : ofTokens? (Keyword.select.token :: Keyword.top.token :: .number value :: more)
          params = .ok s := h
      rw [ofTokens?_eq, Cursor.keyword_token, ok_bind] at hread
      obtain ⟨read, hread, -⟩ := bind_eq_ok_iff.mp hread
      obtain ⟨w, rfl⟩ := Cursor.exists_of_selection_top hread
      exact lt_of_numberValue?_digits hvalue
  · cases hbehind

section TwoSelections

variable {first second : Selection} {rest : List Char} {params : List Value} {s : Statement}

/-- A statement that is read is read as well with a selection of no fewer tokens in the place of its
own. -/
theorem Sql.Statement.read?_selecting (hfirst : first.IsWritable) (hsecond : second.IsWritable)
    (hle : first.tokens.length ≤ second.tokens.length)
    (h : read? ("SELECT ".toList ++ (first.chars ++ (" FROM ".toList ++ rest))) params = .ok s) :
    read? ("SELECT ".toList ++ (second.chars ++ (" FROM ".toList ++ rest))) params =
      .ok { s with selection := second } := by
  obtain ⟨tokens, t, htokens, ht, rfl⟩ := (read?_ok_iff hfirst).mp h
  -- the tail starts later by the tokens that the other selection has more
  have hmoved := tail_moved (second.tokens.length - first.tokens.length) ht
  have hplace : 1 + first.tokens.length + (second.tokens.length - first.tokens.length) =
      1 + second.tokens.length := by omega
  rw [Cursor.moved, hplace] at hmoved
  exact (read?_ok_iff hsecond).mpr ⟨tokens, t, htokens, hmoved, rfl⟩

/-- Two statements that are read and differ in their selection differ in nothing else. -/
theorem Sql.Statement.read?_alike (hfirst : first.IsWritable) (hsecond : second.IsWritable)
    {s' : Statement}
    (h : read? ("SELECT ".toList ++ (first.chars ++ (" FROM ".toList ++ rest))) params = .ok s)
    (h' : read? ("SELECT ".toList ++ (second.chars ++ (" FROM ".toList ++ rest))) params = .ok s') :
    s' = { s with selection := second } := by
  rcases Nat.le_total first.tokens.length second.tokens.length with hle | hle
  · exact Except.ok.inj (h'.symm.trans (read?_selecting hfirst hsecond hle h))
  · have hback := Except.ok.inj (h.symm.trans (read?_selecting hsecond hfirst hle h'))
    obtain ⟨tokens, t, -, -, rfl⟩ := (read?_ok_iff hsecond).mp h'
    rw [hback]

end TwoSelections

/-! ## Answers -/

/-- A selection looks at the columns of the table and at the rows that it is given. -/
theorem Sql.Statement.select_congr {t t' : ResultSet} (h : t.columns = t'.columns)
    (rows : List (List Value)) (selection : Selection) :
    select t rows selection = select t' rows selection := by
  have hposition : ∀ name, position t name = position t' name := fun name => by
    rw [position, position, ResultSet.position?, ResultSet.position?, h]
  cases selection with
  | all => simp only [select, h]
  | top n => simp only [select, h]
  | count => rfl
  | distinct column => simp only [select, hposition]
  | aggregate function column => simp only [select, hposition]

namespace Engine

variable {w : Workbook} {hasHeader : Bool} {c : Clauses} {table : Table} {r whole : ResultSet}

/-- What a statement says behind its selection. -/
def source (c : Clauses) (table : Table) : List Char :=
  table.clause ++ (c.whereChars ++ c.orderChars)

theorem answer_read (c : Clauses) (table : Table) :
    answer w hasHeader (c.render table) =
      (Statement.read? ("SELECT ".toList ++ (c.selection.chars ++ (" FROM ".toList ++
        source c table))) c.params >>= fun s => w.table s.table hasHeader >>= s.evaluate) := by
  unfold answer
  rw [Clauses.render, String.toList_ofList, Clauses.chars_eq]
  rfl

theorem answer_read_with (c : Clauses) (selection : Selection) (table : Table) :
    answer w hasHeader ({ c with selection := selection }.render table) =
      (Statement.read? ("SELECT ".toList ++ (selection.chars ++ (" FROM ".toList ++
        source c table))) c.params >>= fun s => w.table s.table hasHeader >>= s.evaluate) :=
  answer_read _ _

/-- The columns that were noted are no part of a statement. -/
theorem render_of_alike {c c' : Clauses} (hselection : c'.selection = c.selection)
    (hfilter : c'.filter = c.filter) (horder : c'.orderBy = c.orderBy) (table : Table) :
    c'.render table = c.render table := by
  obtain ⟨selection, filter, orderBy, columnsUsed⟩ := c
  cases hselection
  cases hfilter
  cases horder
  rfl

/-- The clauses aimed at a table, whatever they select, leave these rows of it, in this order. -/
def Leaves (w : Workbook) (hasHeader : Bool) (c : Clauses) (table : Table) (whole : ResultSet) :
    Prop :=
  ∃ selection s data, Selection.IsWritable selection ∧
    Statement.read? ("SELECT ".toList ++ (selection.chars ++ (" FROM ".toList ++ source c table)))
      c.params = .ok s ∧
    w.table s.table hasHeader = .ok data ∧ s.sourceRows data = .ok whole.rows ∧
    data.columns = whole.columns

/-- The rows that are left do not hang on what is selected, nor on the columns that were noted. -/
theorem Leaves.of_alike {c' : Clauses} (hfilter : c'.filter = c.filter)
    (horder : c'.orderBy = c.orderBy) (h : Leaves w hasHeader c table whole) :
    Leaves w hasHeader c' table whole := by
  have hsource : source c' table = source c table := by
    unfold source Clauses.whereChars Clauses.orderChars
    rw [hfilter, horder]
  have hparams : c'.params = c.params := by rw [Clauses.params, Clauses.params, hfilter]
  unfold Leaves
  rw [hsource, hparams]
  exact h

/-- **An answer is what the selection makes of the rows that the clauses leave.** -/
theorem leaves_of_answer (hc : c.selection.IsWritable)
    (h : answer w hasHeader (c.render table) = .ok r) :
    ∃ whole, Leaves w hasHeader c table whole ∧
      Statement.select whole whole.rows c.selection = .ok r := by
  rw [answer_read] at h
  obtain ⟨s, hs, h⟩ := bind_eq_ok_iff.mp h
  obtain ⟨data, hdata, h⟩ := bind_eq_ok_iff.mp h
  obtain ⟨rows, hrows, h⟩ := bind_eq_ok_iff.mp h
  refine ⟨⟨data.columns, rows⟩, ⟨c.selection, s, data, hc, hs, hdata, hrows, rfl⟩, ?_⟩
  obtain ⟨tokens, t, -, -, rfl⟩ := (Statement.read?_ok_iff hc).mp hs
  rw [← h]
  exact Statement.select_congr rfl rows _

/-- There is one answer to which rows are left. -/
theorem Leaves.unique {whole' : ResultSet} (h : Leaves w hasHeader c table whole)
    (h' : Leaves w hasHeader c table whole') : whole = whole' := by
  obtain ⟨first, s, data, hfirst, hread, hdata, hrows, hcolumns⟩ := h
  obtain ⟨second, s', data', hsecond, hread', hdata', hrows', hcolumns'⟩ := h'
  obtain rfl := Statement.read?_alike hfirst hsecond hread hread'
  obtain rfl := Except.ok.inj (hdata.symm.trans hdata')
  -- the selection is no part of what is left
  have hsame : whole.rows = whole'.rows := Except.ok.inj (hrows.symm.trans hrows')
  cases whole
  cases whole'
  exact (ResultSet.mk.injEq ..).mpr ⟨hcolumns.symm.trans hcolumns', hsame⟩

/-- **A statement is answered where one over the same table is** that says no more about what to
select, and what is selected is made of the same rows. -/
theorem answer_selecting {selection : Selection} (hc : c.selection.IsWritable)
    (hselection : selection.IsWritable)
    (hle : c.selection.tokens.length ≤ selection.tokens.length)
    (h : answer w hasHeader (c.render table) = .ok r) :
    ∃ whole, Leaves w hasHeader c table whole ∧
      Statement.select whole whole.rows c.selection = .ok r ∧
      answer w hasHeader ({ c with selection := selection }.render table) =
        Statement.select whole whole.rows selection := by
  obtain ⟨whole, hleaves, hselect⟩ := leaves_of_answer hc h
  rw [answer_read] at h
  obtain ⟨s, hs, h⟩ := bind_eq_ok_iff.mp h
  obtain ⟨data, hdata, h⟩ := bind_eq_ok_iff.mp h
  obtain ⟨rows, hrows, -⟩ := bind_eq_ok_iff.mp h
  have hsame : Leaves w hasHeader c table ⟨data.columns, rows⟩ :=
    ⟨c.selection, s, data, hc, hs, hdata, hrows, rfl⟩
  obtain rfl := hleaves.unique hsame
  have hread := Statement.read?_selecting hc hselection hle hs
  have hevaluate : ({ s with selection := selection } : Statement).evaluate data =
      Statement.select data rows selection :=
    congrArg (· >>= fun rows => Statement.select data rows selection) hrows
  refine ⟨_, hleaves, hselect, ?_⟩
  rw [answer_read_with, hread, ok_bind, hdata, ok_bind, hevaluate]
  exact Statement.select_congr rfl rows selection

/-- **Asked for the first rows, the workbook answers with the first rows.** -/
theorem answer_top {n : Nat} (hn : n < 2 ^ 63) (hc : c.selection = .all)
    (h : answer w hasHeader (c.render table) = .ok r) :
    answer w hasHeader ({ c with selection := .top n }.render table) =
      .ok ⟨r.columns, r.rows.take n⟩ := by
  have hall : c.selection.IsWritable := by
    rw [hc]
    trivial
  have htop : (Selection.top n).IsWritable := hn
  have hle : c.selection.tokens.length ≤ (Selection.top n).tokens.length := by
    rw [hc]
    exact Nat.le_add_left ..
  obtain ⟨whole, -, hselect, hanswer⟩ := answer_selecting hall htop hle h
  rw [hc] at hselect
  cases hselect
  exact hanswer

end Engine

end SheetQuery
