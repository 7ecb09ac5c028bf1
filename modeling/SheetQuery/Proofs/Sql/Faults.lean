import SheetQuery.Proofs.Outcome
import SheetQuery.Sql.Evaluation
import SheetQuery.Sql.Parser

/-!
# Who misses a table

Of all the faults of a statement there is one that only the lookup of its table can find: that
nothing has the name. Neither reading a text nor evaluating a statement over a table that is there
reports it, whatever the text and the table are. Stated for each reader once, from the tokens up, so
that a reader made of others has the property by theirs. It also has words of its own.

Main statements: `Sql.Statement.missesNoTable_read?` and `Sql.Statement.missesNoTable_evaluate`.
-/

namespace SheetQuery

namespace Sql

open FailsBy

/-- The step does not report that a table is missing. -/
def MissesNoTable {α : Type} (step : Except Fault α) : Prop :=
  FailsBy (fun fault => ∀ name, fault ≠ .unknownTable name) step

/-! ## Tokens -/

namespace Token

theorem missesNoTable_name? (s : List Char) : MissesNoTable (name? s) := by
  unfold name?
  split
  · exact error nofun
  · exact ok _

theorem missesNoTable_text? (s : List Char) : MissesNoTable (text? s) := by
  unfold text?
  split
  · exact ok _
  · exact error nofun

theorem missesNoTable_number? (s : List Char) : MissesNoTable (number? s) := by
  unfold number?
  dsimp only
  split
  · exact ok _
  · exact error nofun

theorem missesNoTable_next? (c : Char) (rest : List Char) : MissesNoTable (next? c rest) := by
  unfold next?
  split
  · exact missesNoTable_name? _
  · exact missesNoTable_text? _
  any_goals exact ok _
  split_ifs
  · exact missesNoTable_number? _
  · exact ok _
  · exact error nofun

theorem missesNoTable_listUpTo (n : Nat) (s : List Char) : MissesNoTable (listUpTo n s) := by
  induction n generalizing s with
  | zero => exact ok _
  | succ n ih =>
      cases s with
      | nil => exact ok _
      | cons c rest =>
          rw [listUpTo]
          split_ifs
          · exact ih rest
          · exact (missesNoTable_next? c rest).bind fun read => (ih read.2).bind fun _ => ok _

end Token

/-! ## Readers -/

namespace Cursor

variable {item : Cursor → Except Fault (Condition × Cursor)}

theorem missesNoTable_wants {α : Type} (c : Cursor) (what : Expected) :
    MissesNoTable (c.wants what : Except Fault α) :=
  error nofun

theorem missesNoTable_keyword (c : Cursor) (k : Keyword) : MissesNoTable (c.keyword k) := by
  unfold keyword
  split
  · exact ok _
  · exact missesNoTable_wants _ _

theorem missesNoTable_opening (c : Cursor) : MissesNoTable c.opening := by
  unfold opening
  split
  · exact ok _
  · exact missesNoTable_wants _ _

theorem missesNoTable_closing (c : Cursor) : MissesNoTable c.closing := by
  unfold closing
  split
  · exact ok _
  · exact missesNoTable_wants _ _

theorem missesNoTable_star (c : Cursor) : MissesNoTable c.star := by
  unfold star
  split
  · exact ok _
  · exact missesNoTable_wants _ _

theorem missesNoTable_name (c : Cursor) : MissesNoTable c.name := by
  unfold name
  split
  · exact ok _
  · exact missesNoTable_wants _ _

theorem missesNoTable_comparisonSign (c : Cursor) : MissesNoTable c.comparisonSign := by
  unfold comparisonSign
  split
  · exact ok _
  · exact missesNoTable_wants _ _

theorem missesNoTable_argument (c : Cursor) : MissesNoTable c.argument :=
  c.missesNoTable_opening.bind fun c => c.missesNoTable_name.bind fun read =>
    read.2.missesNoTable_closing.bind fun _ => ok _

theorem missesNoTable_operand (c : Cursor) : MissesNoTable c.operand := by
  unfold operand
  split
  · exact ok _
  · unfold Cursor.bind
    split
    · exact ok _
    · exact error nofun
  · exact ok _
  · exact ok _
  · split
    · exact ok _
    · exact missesNoTable_wants _ _
  · exact missesNoTable_wants _ _

theorem missesNoTable_simpleCondition (c : Cursor) : MissesNoTable c.simpleCondition := by
  refine c.missesNoTable_operand.bind fun ⟨left, c⟩ => ?_
  dsimp only
  split_ifs
  · exact (missesNoTable_keyword _ _).bind fun _ => ok _
  · exact c.next.missesNoTable_operand.bind fun _ => ok _
  · exact c.missesNoTable_comparisonSign.bind fun sign =>
      sign.2.missesNoTable_operand.bind fun _ => ok _

/-! Conditions inside conditions -/

theorem missesNoTable_chain {k : Keyword} {join : Condition → Condition → Condition}
    (hitem : ∀ c, MissesNoTable (item c)) (n : Nat) (left : Condition) (c : Cursor) :
    MissesNoTable (chain k join item n left c) := by
  induction n generalizing left c with
  | zero => exact ok _
  | succ n ih =>
      rw [chain]
      split_ifs
      · exact (hitem c.next).bind fun read => ih (join left read.1) read.2
      · exact ok _

theorem missesNoTable_chained {k : Keyword} {join : Condition → Condition → Condition}
    (hitem : ∀ c, MissesNoTable (item c)) (n : Nat) (c : Cursor) :
    MissesNoTable (chained k join item n c) :=
  (hitem c).bind fun read => missesNoTable_chain hitem n read.1 read.2

theorem missesNoTable_alternatives (hitem : ∀ c, MissesNoTable (item c)) (n : Nat) (c : Cursor) :
    MissesNoTable (alternatives item n c) :=
  missesNoTable_chained (fun c => missesNoTable_chained hitem n c) n c

/-- By induction on the depth, which a negation and a pair of parentheses take one from. -/
theorem missesNoTable_unit (n : Nat) (c : Cursor) : MissesNoTable (unit n c) := by
  induction n generalizing c with
  | zero => exact missesNoTable_wants _ _
  | succ n ih =>
      rw [unit]
      split
      · exact (ih c.next).bind fun _ => ok _
      · split
        · exact (missesNoTable_alternatives ih n c.next).bind fun read =>
            read.2.missesNoTable_closing.bind fun _ => ok _
        · exact c.missesNoTable_simpleCondition

theorem missesNoTable_condition (c : Cursor) : MissesNoTable c.condition :=
  missesNoTable_alternatives (missesNoTable_unit _) _ c

/-! The parts of a statement -/

theorem missesNoTable_rowCount (c : Cursor) : MissesNoTable c.rowCount := by
  unfold rowCount
  split
  · split_ifs
    · exact ok _
    · exact missesNoTable_wants _ _
  · exact missesNoTable_wants _ _

theorem missesNoTable_functionCall (c : Cursor) : MissesNoTable c.functionCall := by
  unfold functionCall
  split
  · refine c.next.missesNoTable_argument.bind fun read => FailsBy.bind ?_ fun _ => ok _
    unfold functionSelection?
    split
    any_goals exact ok _
    exact error nofun
  · exact missesNoTable_wants _ _

theorem missesNoTable_selection (c : Cursor) : MissesNoTable c.selection := by
  unfold selection
  split
  · exact ok _
  · split_ifs
    · exact c.next.missesNoTable_rowCount.bind fun read =>
        read.2.missesNoTable_star.bind fun _ => ok _
    · exact c.next.missesNoTable_opening.bind fun c => c.missesNoTable_star.bind fun c =>
        c.missesNoTable_closing.bind fun _ => ok _
    · exact c.missesNoTable_functionCall

theorem missesNoTable_whereClause (c : Cursor) : MissesNoTable c.whereClause := by
  unfold whereClause
  split_ifs
  · exact c.next.missesNoTable_condition.bind fun _ => ok _
  · exact ok _

theorem missesNoTable_orderClause (c : Cursor) : MissesNoTable c.orderClause := by
  unfold orderClause
  split_ifs
  · exact (c.next.missesNoTable_keyword _).bind fun c => c.missesNoTable_name.bind fun _ => ok _
  · exact ok _

theorem missesNoTable_ending (c : Cursor) (parameters : Nat) :
    MissesNoTable (c.ending parameters) := by
  unfold ending
  split_ifs
  · exact missesNoTable_wants _ _
  · exact error nofun
  · exact ok _

end Cursor

namespace Statement

theorem missesNoTable_ofTokens? (tokens : List Token) (params : List Value) :
    MissesNoTable (ofTokens? tokens params) :=
  (Cursor.missesNoTable_keyword _ _).bind fun c => c.missesNoTable_selection.bind fun read =>
    (read.2.missesNoTable_keyword _).bind fun c => c.missesNoTable_name.bind fun read =>
      read.2.missesNoTable_whereClause.bind fun read =>
        read.2.missesNoTable_orderClause.bind fun read =>
          (read.2.missesNoTable_ending _).bind fun _ => ok _

/-- **Reading a statement misses no table.** -/
theorem missesNoTable_read? (sql : List Char) (params : List Value) :
    MissesNoTable (read? sql params) :=
  (Token.missesNoTable_listUpTo _ sql).bind fun tokens => missesNoTable_ofTokens? tokens params

/-! ## Evaluation -/

theorem missesNoTable_position (table : ResultSet) (name : String) :
    MissesNoTable (position table name) := by
  unfold position
  split
  · exact ok _
  · exact error nofun

theorem missesNoTable_floatSum (total : Float) (values : List Value) :
    MissesNoTable (floatSum total values) := by
  induction values generalizing total with
  | nil => exact ok _
  | cons v rest ih =>
      rw [floatSum]
      split
      · exact ih _
      · exact ih _
      · exact error nofun

theorem missesNoTable_aggregate (function : Aggregate) (values : List Value) :
    MissesNoTable (function.of values) := by
  unfold Aggregate.of
  split
  · exact ok _
  · exact ok _
  · exact ok _
  · exact (missesNoTable_floatSum _ _).bind fun _ => ok _
  · exact (missesNoTable_floatSum _ _).bind fun _ => ok _

theorem missesNoTable_sourceRows (s : Statement) (table : ResultSet) :
    MissesNoTable (s.sourceRows table) := by
  have hnames : MissesNoTable (checkNames table ((s.condition.map Condition.columns).getD [])) := by
    unfold checkNames
    split_ifs
    · exact ok _
    · exact error nofun
  refine hnames.bind fun _ => ?_
  split
  · exact ok _
  · exact (missesNoTable_position _ _).bind fun _ => ok _

theorem missesNoTable_select (table : ResultSet) (rows : List (List Value))
    (selection : Selection) : MissesNoTable (select table rows selection) := by
  cases selection with
  | all => exact ok _
  | top n => exact ok _
  | count => exact ok _
  | distinct column => exact (missesNoTable_position _ _).bind fun _ => ok _
  | aggregate function column =>
      exact (missesNoTable_position _ _).bind fun _ =>
        (missesNoTable_aggregate _ _).bind fun _ => ok _

/-- **Evaluating a statement misses no table** where its table is there. -/
theorem missesNoTable_evaluate (s : Statement) (table : ResultSet) :
    MissesNoTable (s.evaluate table) :=
  (s.missesNoTable_sourceRows table).bind fun rows => missesNoTable_select table rows s.selection

end Statement

/-! ## Wording -/

theorem head?_append {first rest : String} {c : Char} (h : first.toList.head? = some c) :
    (first ++ rest).toList.head? = some c := by
  rw [String.toList_append, List.head?_append, h]
  rfl

namespace Fault

/-- The letter that the words for a fault begin with. -/
def initial : Fault → Char
  | .unterminatedName | .unterminatedText | .undefinedFunction _ => 'U'
  | .invalidNumber _ => 'I'
  | .unexpectedCharacter _ | .expected _ _ | .parameterCount _ _ => 'S'
  | .missingParameter => 'N'
  | .typeMismatch => 'D'
  | .unknownTable _ => 'T'

theorem head?_message (fault : Fault) : fault.message.toList.head? = some fault.initial := by
  cases fault with
  | unterminatedName => rfl
  | unterminatedText => rfl
  | missingParameter => rfl
  | typeMismatch => rfl
  | invalidNumber text => exact head?_append (head?_append rfl)
  | unexpectedCharacter c => exact head?_append (head?_append rfl)
  | undefinedFunction name => exact head?_append (head?_append rfl)
  | expected what position => exact head?_append (head?_append (head?_append rfl))
  | parameterCount m n => exact head?_append (head?_append (head?_append (head?_append rfl)))
  | unknownTable name => exact head?_append (head?_append rfl)

/-- No other fault has the words for a missing table. -/
theorem eq_unknownTable_of_message {fault : Fault} {reference : String}
    (h : fault.message = (unknownTable reference).message) :
    ∃ name, fault = .unknownTable name := by
  have hinitial : fault.initial = 'T' := by
    have hhead := fault.head?_message
    rw [h, head?_message] at hhead
    exact (Option.some.inj hhead).symm
  cases fault with
  | unknownTable name => exact ⟨name, rfl⟩
  | _ => cases hinitial

end Fault

end Sql

end SheetQuery
