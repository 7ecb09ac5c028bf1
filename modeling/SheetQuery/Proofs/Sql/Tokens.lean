import SheetQuery.Proofs.Sql.Lexing
import SheetQuery.Statement

/-!
# The tokens of a statement

What the text of each part of a statement falls into. A part is written as characters by the
compiler; here the same part is written as tokens, and its characters fall into those, whatever
stands behind them. Names are the only place where the text of a query enters the statement, so the
one thing to ask of them is that they hold no closing bracket.

Main statements: `Filter.yields_tokens` for conditions and `Clauses.yields_tokens` for statements.
-/

namespace SheetQuery

open Sql

/-- A name that a statement can carry in brackets. -/
def IsBracketable (name : String) : Prop :=
  ']' ∉ name.toList

instance (name : String) : Decidable (IsBracketable name) :=
  inferInstanceAs (Decidable (_ ∉ _))

/-- The token of a keyword. -/
def Sql.Keyword.token (k : Keyword) : Token :=
  .word k.chars

theorem Sql.Keyword.isCapitals (k : Keyword) : IsCapitals k.chars := by
  cases k <;> decide

theorem yields_keyword (k : Keyword) {rest : List Char} (hrest : Ends Token.isWordChar rest) :
    Yields (k.chars ++ rest) [k.token] rest :=
  yields_word k.isCapitals hrest

/-- A keyword between blanks. -/
theorem yields_spaced (k : Keyword) (rest : List Char) :
    Yields (' ' :: (k.chars ++ ' ' :: rest)) [k.token] rest :=
  (yields_blank _).trans ((yields_keyword k (ends_cons (by decide))).trans (yields_blank rest))

/-- A text that is a keyword with a blank behind it. -/
theorem yields_leading (k : Keyword) {s : List Char} (hs : s = k.chars ++ [' '])
    (rest : List Char) : Yields (s ++ rest) [k.token] rest := by
  rw [hs, List.append_assoc]
  exact (yields_keyword k (ends_cons (by decide))).trans (yields_blank rest)

/-! ## Conditions -/

namespace FilterOperand

/-- The tokens of an operand. -/
def tokens : FilterOperand → List Token
  | .parameter _ => [.placeholder]
  | .column name => [.name name.toList]

theorem yields_tokens {operand : FilterOperand} (h : ∀ name ∈ operand.columns, IsBracketable name)
    (rest : List Char) : Yields (operand.chars ++ rest) operand.tokens rest := by
  cases operand with
  | parameter value => exact yields_placeholder rest
  | column name => exact yields_name (h name (by simp [columns])) rest

end FilterOperand

namespace Filter

/-- Tokens between parentheses. -/
def enclosed (tokens : List Token) : List Token :=
  .opening :: (tokens ++ [.closing])

/-- The tokens of a test for a missing value. -/
def nullTokens (column : String) (negated : Bool) : List Token :=
  enclosed (.name column.toList :: Keyword.is.token ::
    ((if negated then [Keyword.not.token] else []) ++ [Keyword.null.token]))

/-- The tokens of a comparison with the empty text. -/
def emptyTextTokens (column : String) (op : Comparison) : List Token :=
  enclosed [.name column.toList, .comparison op, .text []]

/-- The tokens of a filter. -/
def tokens : Filter → List Token
  | .and left right => enclosed (left.tokens ++ (Keyword.and.token :: right.tokens))
  | .or left right => enclosed (left.tokens ++ (Keyword.or.token :: right.tokens))
  | .not inner => enclosed (Keyword.not.token :: inner.tokens)
  | .compare column op operand =>
    enclosed (.name column.toList :: .comparison op :: operand.tokens)
  | .isNull column negated => nullTokens column negated
  | .like column _ => enclosed [.name column.toList, Keyword.like.token, .placeholder]
  | .isEmpty column =>
    enclosed (emptyTextTokens column .eq ++ (Keyword.or.token :: nullTokens column false))
  | .isNotEmpty column =>
    enclosed (emptyTextTokens column .ne ++ (Keyword.or.token :: nullTokens column true))
  | .constant b =>
    enclosed [.number (.int 1), .comparison .eq, .number (.int (if b then 1 else 0))]

theorem yields_enclosed {s : List Char} {tokens : List Token} {rest : List Char}
    (h : Yields (s ++ ')' :: rest) tokens (')' :: rest)) :
    Yields (parenthesized s ++ rest) (enclosed tokens) rest := by
  simp only [parenthesized, List.cons_append, List.append_assoc, List.nil_append]
  exact (yields_opening _).trans (h.trans (yields_closing rest))

theorem yields_nullTokens {column : String} (h : IsBracketable column) (negated : Bool)
    (rest : List Char) :
    Yields (parenthesized (bracketed column ++
      (if negated then " IS NOT NULL" else " IS NULL").toList) ++ rest)
      (nullTokens column negated) rest := by
  have hnull : Yields (Keyword.null.chars ++ ')' :: rest) [Keyword.null.token] (')' :: rest) :=
    yields_keyword .null (ends_cons (by decide))
  refine yields_enclosed ?_
  rw [List.append_assoc]
  refine (yields_name h _).trans ?_
  cases negated with
  | false => exact (yields_spaced .is _).trans hnull
  | true =>
      exact (yields_spaced .is _).trans
        ((yields_keyword .not (ends_cons (by decide))).trans ((yields_blank _).trans hnull))

theorem yields_emptyTextTokens {column : String} (h : IsBracketable column) (op : Comparison)
    (rest : List Char) :
    Yields (parenthesized (bracketed column ++ (' ' :: op.symbol.toList ++ " ''".toList)) ++ rest)
      (emptyTextTokens column op) rest := by
  refine yields_enclosed ?_
  simp only [List.append_assoc, List.cons_append]
  exact (yields_name h _).trans ((yields_blank _).trans
    ((yields_comparison op _).trans (yields_emptyText (by simp))))

/-- **The text of a filter falls into its tokens.** By induction on the filter: what nests stands
between tokens of its own. -/
theorem yields_tokens {filter : Filter} (h : ∀ name ∈ filter.columns, IsBracketable name)
    (rest : List Char) : Yields (filter.chars ++ rest) filter.tokens rest := by
  induction filter generalizing rest with
  | and l r ihl ihr =>
      have hl := ihl fun name hn => h name (by simp [columns, hn])
      have hr := ihr fun name hn => h name (by simp [columns, hn])
      refine yields_enclosed ?_
      rw [List.append_assoc, List.append_assoc]
      exact (hl _).trans ((yields_spaced .and _).trans (hr _))
  | or l r ihl ihr =>
      have hl := ihl fun name hn => h name (by simp [columns, hn])
      have hr := ihr fun name hn => h name (by simp [columns, hn])
      refine yields_enclosed ?_
      rw [List.append_assoc, List.append_assoc]
      exact (hl _).trans ((yields_spaced .or _).trans (hr _))
  | not inner ih =>
      have hi := ih fun name hn => h name (by simpa [columns] using hn)
      refine yields_enclosed ?_
      rw [List.append_assoc]
      exact (yields_keyword .not (ends_cons (by decide))).trans ((yields_blank _).trans (hi _))
  | compare column op operand =>
      have hc := h column (by simp [columns])
      have ho := operand.yields_tokens fun name hn => h name (by simp [columns, hn])
      refine yields_enclosed ?_
      simp only [List.append_assoc, List.cons_append]
      exact (yields_name hc _).trans ((yields_blank _).trans
        ((yields_comparison op _).trans (ho _)))
  | isNull column negated => exact yields_nullTokens (h column (by simp [columns])) negated rest
  | like column pattern =>
      have hc := h column (by simp [columns])
      refine yields_enclosed ?_
      rw [List.append_assoc]
      exact (yields_name hc _).trans ((yields_spaced .like _).trans (yields_placeholder _))
  | isEmpty column =>
      have hc := h column (by simp [columns])
      refine yields_enclosed ?_
      rw [List.append_assoc, List.append_assoc]
      exact (yields_emptyTextTokens hc .eq _).trans
        ((yields_spaced .or _).trans (yields_nullTokens hc false _))
  | isNotEmpty column =>
      have hc := h column (by simp [columns])
      refine yields_enclosed ?_
      rw [List.append_assoc, List.append_assoc]
      exact (yields_emptyTextTokens hc .ne _).trans
        ((yields_spaced .or _).trans (yields_nullTokens hc true _))
  | constant b =>
      have hsides : ∀ n, n < 2 ^ 63 →
          Yields (Decimal.digits 1 ++ (' ' :: '=' :: ' ' :: (Decimal.digits n ++ ')' :: rest)))
            [.number (.int 1), .comparison .eq, .number (.int (Int64.ofNat n))] (')' :: rest) :=
        fun n hn => (yields_number (by decide) (ends_cons (by decide))).trans
          ((yields_blank _).trans ((yields_comparison .eq _).trans
            (yields_number hn (ends_cons (by decide)))))
      cases b with
      | false => exact yields_enclosed (s := "1 = 0".toList) (hsides 0 (by decide))
      | true => exact yields_enclosed (s := "1 = 1".toList) (hsides 1 (by decide))

end Filter

/-! ## Selections -/

namespace Sql.Selection

/-- A selection that a statement can carry: its number of rows fits a word, its column fits between
brackets. -/
def IsWritable : Selection → Prop
  | .all | .count => True
  | .top n => n < 2 ^ 63
  | .distinct column | .aggregate _ column => IsBracketable column

/-- The number of rows is one that a number token holds. -/
def IsCounted : Selection → Prop
  | .top n => n < 2 ^ 63
  | _ => True

theorem IsWritable.isCounted {selection : Selection} (h : selection.IsWritable) :
    selection.IsCounted := by
  cases selection with
  | top n => exact h
  | _ => trivial

/-- The tokens of a function of a column. -/
def callTokens (function column : String) : List Token :=
  [.word function.toList, .opening, .name column.toList, .closing]

/-- The tokens of a selection. -/
def tokens : Selection → List Token
  | .all => [.star]
  | .top n => [Keyword.top.token, .number (.int (Int64.ofNat n)), .star]
  | .count => [Keyword.count.token, .opening, .star, .closing]
  | .distinct column => callTokens "DISTINCT" column
  | .aggregate function column => callTokens function.symbol column

theorem yields_topTokens {n : Nat} (hn : n < 2 ^ 63) {s t : List Char}
    (hs : s = Keyword.top.chars ++ [' ']) (ht : t = [' ', '*']) (rest : List Char) :
    Yields (s ++ Decimal.digits n ++ t ++ rest) (Selection.top n).tokens rest := by
  rw [ht]
  simp only [List.append_assoc]
  exact (yields_leading .top hs _).trans ((yields_number hn (ends_cons (by decide))).trans
    ((yields_blank _).trans (yields_star rest)))

theorem yields_callTokens {function column : String} {s : List Char}
    (hs : s = function.toList ++ ['(']) (hf : IsCapitals function.toList)
    (hc : IsBracketable column) (rest : List Char) :
    Yields (s ++ bracketed column ++ ")".toList ++ rest) (callTokens function column) rest := by
  rw [hs]
  simp only [List.append_assoc]
  exact (yields_word hf (ends_cons (by decide))).trans ((yields_opening _).trans
    ((yields_name hc _).trans (yields_closing rest)))

/-- The text of a selection falls into its tokens. -/
theorem yields_tokens {selection : Selection} (h : selection.IsWritable) (rest : List Char) :
    Yields (selection.chars ++ rest) selection.tokens rest := by
  cases selection with
  | all => exact yields_star rest
  | top n => exact yields_topTokens h (by decide) (by decide) rest
  | count =>
      exact (yields_keyword .count (ends_cons (by decide))).trans ((yields_opening _).trans
        ((yields_star _).trans (yields_closing rest)))
  | distinct column => exact yields_callTokens (by decide) (by decide) h rest
  | aggregate function column =>
      have hf : IsCapitals function.symbol.toList := by cases function <;> decide
      exact yields_callTokens rfl hf h rest

end Sql.Selection

/-! ## Statements -/

theorem Direction.yields_token (direction : Direction) :
    Yields direction.symbol.toList [.word direction.symbol.toList] [] := by
  have h : IsCapitals direction.symbol.toList := by cases direction <;> decide
  have hword := yields_word h (ends_nil _)
  rwa [List.append_nil] at hword

namespace Clauses

/-- Clauses that a statement can carry. -/
structure IsWritable (c : Clauses) : Prop where
  selection : c.selection.IsWritable
  filter : ∀ filter, c.filter = some filter → ∀ name ∈ filter.columns, IsBracketable name
  orderBy : ∀ column direction, c.orderBy = some (column, direction) → IsBracketable column

/-- The tokens of the condition with its keyword. -/
def whereTokens (c : Clauses) : List Token :=
  match c.filter with
  | some filter => Keyword.where.token :: filter.tokens
  | none => []

/-- The tokens of the ordering with its keywords. -/
def orderTokens (c : Clauses) : List Token :=
  match c.orderBy with
  | some (column, direction) =>
    [Keyword.order.token, Keyword.by.token, .name column.toList, .word direction.symbol.toList]
  | none => []

/-- The tokens of the statement that selects from a table of that name. -/
def tokens (c : Clauses) (table : String) : List Token :=
  Keyword.select.token :: (c.selection.tokens ++
    (Keyword.from.token :: .name table.toList :: (c.whereTokens ++ c.orderTokens)))

theorem yields_whereTokens {c : Clauses} (h : c.IsWritable) (rest : List Char) :
    Yields (c.whereChars ++ rest) c.whereTokens rest := by
  unfold whereChars whereTokens
  cases hf : c.filter with
  | none => exact Yields.refl rest
  | some filter =>
      rw [List.append_assoc]
      exact (yields_spaced .where _).trans (filter.yields_tokens (h.filter filter hf) rest)

theorem yields_orderTokens {c : Clauses} (h : c.IsWritable) :
    Yields c.orderChars c.orderTokens [] := by
  unfold orderChars orderTokens
  cases ho : c.orderBy with
  | none => exact Yields.refl []
  | some ordering =>
      obtain ⟨column, direction⟩ := ordering
      simp only [List.append_assoc]
      exact (yields_spaced .order _).trans ((yields_keyword .by (ends_cons (by decide))).trans
        ((yields_blank _).trans ((yields_name (h.orderBy column direction ho) _).trans
          ((yields_blank _).trans direction.yields_token))))

/-- The parts of a statement, each before all that follows it. -/
theorem chars_eq (c : Clauses) (table : List Char) :
    c.chars table = "SELECT ".toList ++ (c.selection.chars ++
      (" FROM ".toList ++ (table ++ (c.whereChars ++ c.orderChars)))) := by
  -- the fixed texts are taken as they are, not as lists of characters
  unfold chars
  generalize "SELECT ".toList = select
  generalize " FROM ".toList = source
  simp only [List.append_assoc]

/-- The text up to the table does not depend on what follows it. -/
theorem yields_selection {selection : Selection} (h : selection.IsWritable) (rest : List Char) :
    Yields ("SELECT ".toList ++ (selection.chars ++ (" FROM ".toList ++ rest)))
      (Keyword.select.token :: (selection.tokens ++ [Keyword.from.token])) rest := by
  exact (yields_leading .select (by decide) _).trans
    ((Selection.yields_tokens h _).trans (yields_spaced .from rest))

/-- **The text of a statement falls into its tokens.** -/
theorem yields_tokens {c : Clauses} (h : c.IsWritable) {table : String}
    (ht : IsBracketable table) :
    Yields (c.chars (bracketed table)) (c.tokens table) [] := by
  have htail := (yields_name ht (c.whereChars ++ c.orderChars)).trans
    ((yields_whereTokens h _).trans (yields_orderTokens h))
  have hall := (yields_selection h.selection _).trans htail
  rw [List.cons_append, List.append_assoc] at hall
  rw [chars_eq]
  exact hall

end Clauses

end SheetQuery
