import SheetQuery.Proofs.Sql.Tokens

/-!
# Reading statements back

The reader of statements on the tokens that statements are written in. A part of a statement is read
from any place, with whatever parameters follow its own: reading takes the tokens of the part and
its parameters and leaves the rest of both. So the parameters line up with the placeholders at every
depth. Every compound condition stands in parentheses, hence neither the binding strength of the
connectives nor their folding to the left ever decides anything.

Main statements: `Filter.reads_condition` and `Clauses.ofTokens?_tokens`.
-/

namespace SheetQuery

open Sql

/-- The reader takes those tokens and those parameters where the rest follows, and gives that. -/
def Sql.Reads {α : Type} (reader : Cursor → Except Fault (α × Cursor)) (tokens : List Token)
    (params : List Value) (result : α) (rest : List Token) : Prop :=
  ∀ position unbound, reader ⟨tokens ++ rest, position, params ++ unbound⟩ =
    .ok (result, ⟨rest, position + tokens.length, unbound⟩)

namespace Sql

/-! ## Keywords -/

theorem Keyword.isWord_chars (k l : Keyword) : k.isWord l.chars = (l == k) := by
  cases k <;> cases l <;> rfl

namespace Cursor

variable {rest : List Token} {position : Nat} {unbound : List Value}

theorem seesKeyword_token (k l : Keyword) :
    (⟨l.token :: rest, position, unbound⟩ : Cursor).seesKeyword k = (l == k) :=
  Keyword.isWord_chars k l

theorem keyword_token (k : Keyword) :
    (⟨k.token :: rest, position, unbound⟩ : Cursor).keyword k =
      .ok ⟨rest, position + 1, unbound⟩ := by
  unfold keyword
  rw [if_pos (by simp [seesKeyword_token])]
  rfl

/-! ## Conditions without others inside -/

theorem reads_column (column : String) :
    Reads operand [.name column.toList] [] (.column column) rest := by
  intro position unbound
  simp [operand, next]

theorem reads_placeholder (v : Value) : Reads operand [.placeholder] [v] (.literal v) rest := by
  intro position unbound
  simp [operand, bind, next]

theorem reads_number (v : Value) : Reads operand [.number v] [] (.literal v) rest := by
  intro position unbound
  simp [operand, next]

theorem reads_emptyText : Reads operand [.text []] [] (.literal (.text "")) rest := by
  intro position unbound
  simp [operand, next]

theorem reads_operand (o : FilterOperand) : Reads operand o.tokens o.params o.operand rest := by
  cases o with
  | parameter v => exact reads_placeholder v
  | column name => exact reads_column name

/-- A comparison is read whole where its operands are. -/
theorem reads_compare {l r : List Token} {pl pr : List Value} {a b : Operand} (op : Comparison)
    (hl : Reads operand l pl a (.comparison op :: (r ++ rest)))
    (hr : Reads operand r pr b rest) :
    Reads simpleCondition (l ++ .comparison op :: r) (pl ++ pr) (.compare a op b) rest := by
  intro position unbound
  have h₁ := hl position (pr ++ unbound)
  have h₂ := hr (position + l.length + 1) unbound
  simp only [simpleCondition, List.append_assoc, List.cons_append, h₁, ok_bind]
  rw [if_neg (by simp [seesKeyword]), if_neg (by simp [seesKeyword])]
  simp only [comparisonSign, next, List.tail_cons, ok_bind, h₂]
  simp [pure, Except.pure]
  omega

theorem reads_like {l r : List Token} {pl pr : List Value} {a b : Operand}
    (hl : Reads operand l pl a (Keyword.like.token :: (r ++ rest)))
    (hr : Reads operand r pr b rest) :
    Reads simpleCondition (l ++ Keyword.like.token :: r) (pl ++ pr) (.like a b) rest := by
  intro position unbound
  have h₁ := hl position (pr ++ unbound)
  have h₂ := hr (position + l.length + 1) unbound
  simp only [simpleCondition, List.append_assoc, List.cons_append, h₁, ok_bind]
  rw [if_neg (by simp [seesKeyword_token]), if_pos (by simp [seesKeyword_token])]
  simp only [next, List.tail_cons, h₂, ok_bind]
  simp [pure, Except.pure]
  omega

theorem reads_isNull (column : String) (negated : Bool) :
    Reads simpleCondition (.name column.toList :: Keyword.is.token ::
      ((if negated then [Keyword.not.token] else []) ++ [Keyword.null.token])) []
      (.isNull (.column column) negated) rest := by
  intro position unbound
  cases negated <;>
    simp [simpleCondition, operand, next, seesKeyword_token, nullTest, skipKeyword,
      keyword_token, pure, Except.pure]

/-! ## Compound conditions -/

/-- No connective stands next. -/
def Stops (rest : List Token) : Prop :=
  ∀ position unbound, (⟨rest, position, unbound⟩ : Cursor).seesKeyword .and = false ∧
    (⟨rest, position, unbound⟩ : Cursor).seesKeyword .or = false

theorem stops_nil : Stops [] := fun _ _ => ⟨rfl, rfl⟩

theorem stops_closing (rest : List Token) : Stops (.closing :: rest) := fun _ _ => ⟨rfl, rfl⟩

theorem stops_order (rest : List Token) : Stops (Keyword.order.token :: rest) := fun _ _ =>
  ⟨seesKeyword_token .and .order, seesKeyword_token .or .order⟩

section Connectives

variable {item : Cursor → Except Fault (Condition × Cursor)} {n : Nat} {k : Keyword}
  {join : Condition → Condition → Condition}

theorem chain_done {left : Condition} {c : Cursor} (h : c.seesKeyword k = false) :
    chain k join item n left c = .ok (left, c) := by
  cases n with
  | zero => rfl
  | succ n =>
      rw [chain, if_neg]
      simp [h]

/-- One item, and no keyword behind it. -/
theorem reads_chained_one {ts : List Token} {ps : List Value} {x : Condition}
    (h : Reads item ts ps x rest)
    (hrest : ∀ position unbound, (⟨rest, position, unbound⟩ : Cursor).seesKeyword k = false) :
    Reads (chained k join item n) ts ps x rest := by
  intro position unbound
  rw [chained, h position unbound, ok_bind]
  exact chain_done (hrest _ _)

/-- Two items with the keyword between them. -/
theorem reads_chained_two {ts us : List Token} {ps qs : List Value} {x y : Condition}
    (hx : Reads item ts ps x (k.token :: (us ++ rest))) (hy : Reads item us qs y rest)
    (hrest : ∀ position unbound, (⟨rest, position, unbound⟩ : Cursor).seesKeyword k = false)
    (hn : 0 < n) :
    Reads (chained k join item n) (ts ++ k.token :: us) (ps ++ qs) (join x y) rest := by
  intro position unbound
  obtain ⟨n, rfl⟩ : ∃ m, n = m + 1 := ⟨n - 1, by omega⟩
  -- the parameters of the second item wait behind those of the first
  have h₁ := hx position (qs ++ unbound)
  have h₂ := hy (position + ts.length + 1) unbound
  simp only [chained, List.append_assoc, List.cons_append, h₁, ok_bind]
  rw [chain, if_pos (by simp [seesKeyword_token])]
  simp only [next, List.tail_cons, h₂, ok_bind]
  rw [chain_done (hrest _ _)]
  simp
  omega

theorem reads_alternatives_one {ts : List Token} {ps : List Value} {x : Condition}
    (h : Reads item ts ps x rest) (hrest : Stops rest) :
    Reads (alternatives item n) ts ps x rest :=
  reads_chained_one (reads_chained_one h fun p u => (hrest p u).1) fun p u => (hrest p u).2

theorem reads_alternatives_and {ts us : List Token} {ps qs : List Value} {x y : Condition}
    (hx : Reads item ts ps x (Keyword.and.token :: (us ++ rest))) (hy : Reads item us qs y rest)
    (hrest : Stops rest) (hn : 0 < n) :
    Reads (alternatives item n) (ts ++ Keyword.and.token :: us) (ps ++ qs) (.and x y) rest :=
  reads_chained_one (reads_chained_two hx hy (fun p u => (hrest p u).1) hn)
    fun p u => (hrest p u).2

theorem reads_alternatives_or {ts us : List Token} {ps qs : List Value} {x y : Condition}
    (hx : Reads item ts ps x (Keyword.or.token :: (us ++ rest))) (hy : Reads item us qs y rest)
    (hrest : Stops rest) (hn : 0 < n) :
    Reads (alternatives item n) (ts ++ Keyword.or.token :: us) (ps ++ qs) (.or x y) rest :=
  reads_chained_two
    (reads_chained_one hx fun _ _ => seesKeyword_token .and .or)
    (reads_chained_one hy fun p u => (hrest p u).1)
    (fun p u => (hrest p u).2) hn

end Connectives

/-- A condition in parentheses is read one step deeper. -/
theorem reads_enclosed {n : Nat} {ts : List Token} {ps : List Value} {x : Condition}
    (h : Reads (alternatives (unit n) n) ts ps x (.closing :: rest)) :
    Reads (unit (n + 1)) (Filter.enclosed ts) ps x rest := by
  intro position unbound
  have h₁ := h (position + 1) unbound
  rw [Filter.enclosed, List.cons_append, List.append_assoc, unit, if_neg (by simp [seesKeyword])]
  simp only [enclosed, next, List.tail_cons, List.singleton_append, h₁, ok_bind, closing]
  simp [pure, Except.pure]
  omega

theorem reads_not {n : Nat} {ts : List Token} {ps : List Value} {x : Condition}
    (h : Reads (unit n) ts ps x rest) :
    Reads (unit (n + 1)) (Keyword.not.token :: ts) ps (.not x) rest := by
  intro position unbound
  have h₁ := h (position + 1) unbound
  rw [List.cons_append, unit, if_pos (by simp [seesKeyword_token])]
  simp only [next, List.tail_cons, h₁, ok_bind]
  simp [pure, Except.pure]
  omega

/-- What is no negation and has no parenthesis in front is read as a simple condition. -/
theorem reads_simple {n : Nat} {t : Token} {ts : List Token} {ps : List Value} {x : Condition}
    (h : Reads simpleCondition (t :: ts) ps x rest) (ht : t ≠ .opening)
    (hn : ∀ word, t ≠ .word word) : Reads (unit (n + 1)) (t :: ts) ps x rest := by
  intro position unbound
  rw [← h position unbound, unit]
  cases t with
  | opening => exact absurd rfl ht
  | word word => exact absurd rfl (hn word)
  | _ => rfl

end Cursor

end Sql

/-! ## Filters -/

namespace Filter

open Cursor

variable {rest : List Token}

@[simp] theorem length_enclosed (ts : List Token) : (enclosed ts).length = ts.length + 2 := by
  simp [enclosed]

/-- A simple condition in parentheses. -/
theorem reads_enclosed_simple {n : Nat} (hn : 1 < n) {column : String} {ts : List Token}
    {ps : List Value} {x : Condition}
    (h : Reads simpleCondition (.name column.toList :: ts) ps x (.closing :: rest)) :
    Reads (unit n) (enclosed (.name column.toList :: ts)) ps x rest := by
  obtain ⟨n, rfl⟩ : ∃ m, n = m + 2 := ⟨n - 2, by omega⟩
  exact reads_enclosed (reads_alternatives_one (reads_simple h (by simp) (by simp))
    (stops_closing rest))

theorem reads_nullTokens {n : Nat} (hn : 1 < n) (column : String) (negated : Bool) :
    Reads (unit n) (nullTokens column negated) [] (.isNull (.column column) negated) rest :=
  reads_enclosed_simple hn (reads_isNull column negated)

theorem reads_emptyTextTokens {n : Nat} (hn : 1 < n) (column : String) (op : Comparison) :
    Reads (unit n) (emptyTextTokens column op) []
      (.compare (.column column) op (.literal (.text ""))) rest :=
  reads_enclosed_simple hn (reads_compare op (reads_column column) reads_emptyText)

/-- **The tokens of a filter are read as its condition**, with the filter's parameters in the places
of its placeholders. By induction on the filter: the depth left over is that of the parts, and what
follows a part is read by whatever surrounds it. -/
theorem reads_unit {filter : Filter} {n : Nat} (hn : filter.tokens.length ≤ n)
    (rest : List Token) : Reads (unit n) filter.tokens filter.params filter.condition rest := by
  induction filter generalizing n rest with
  | and l r ihl ihr =>
      -- the parentheses take one step of depth, and each part is shorter by more than one token
      simp only [tokens, length_enclosed, List.length_append, List.length_cons] at hn
      obtain ⟨n, rfl⟩ : ∃ m, n = m + 1 := ⟨n - 1, by omega⟩
      exact reads_enclosed (reads_alternatives_and (ihl (by omega) _) (ihr (by omega) _)
        (stops_closing rest) (by omega))
  | or l r ihl ihr =>
      simp only [tokens, length_enclosed, List.length_append, List.length_cons] at hn
      obtain ⟨n, rfl⟩ : ∃ m, n = m + 1 := ⟨n - 1, by omega⟩
      exact reads_enclosed (reads_alternatives_or (ihl (by omega) _) (ihr (by omega) _)
        (stops_closing rest) (by omega))
  | not inner ih =>
      simp only [tokens, length_enclosed, List.length_cons] at hn
      obtain ⟨n, rfl⟩ : ∃ m, n = m + 2 := ⟨n - 2, by omega⟩
      exact reads_enclosed (reads_alternatives_one (reads_not (ih (by omega) _))
        (stops_closing rest))
  | compare column op operand =>
      simp only [tokens, length_enclosed] at hn
      exact reads_enclosed_simple (by omega)
        (reads_compare op (reads_column column) (reads_operand operand))
  | isNull column negated =>
      simp only [tokens, nullTokens, length_enclosed] at hn
      exact reads_nullTokens (by omega) column negated
  | like column pattern =>
      simp only [tokens, length_enclosed] at hn
      exact reads_enclosed_simple (by omega)
        (reads_like (reads_column column) (reads_placeholder (.text pattern)))
  | isEmpty column =>
      simp only [tokens, emptyTextTokens, nullTokens, length_enclosed, List.length_append,
        List.length_cons] at hn
      obtain ⟨n, rfl⟩ : ∃ m, n = m + 1 := ⟨n - 1, by omega⟩
      exact reads_enclosed (reads_alternatives_or (reads_emptyTextTokens (by omega) column .eq)
        (reads_nullTokens (by omega) column false) (stops_closing rest) (by omega))
  | isNotEmpty column =>
      simp only [tokens, emptyTextTokens, nullTokens, length_enclosed, List.length_append,
        List.length_cons] at hn
      obtain ⟨n, rfl⟩ : ∃ m, n = m + 1 := ⟨n - 1, by omega⟩
      exact reads_enclosed (reads_alternatives_or (reads_emptyTextTokens (by omega) column .ne)
        (reads_nullTokens (by omega) column true) (stops_closing rest) (by omega))
  | constant b =>
      simp only [tokens, length_enclosed] at hn
      obtain ⟨n, rfl⟩ : ∃ m, n = m + 2 := ⟨n - 2, by omega⟩
      have hsides : Reads simpleCondition
          [.number (.int 1), .comparison .eq, .number (.int (if b then 1 else 0))] []
          (Filter.constant b).condition (.closing :: rest) :=
        reads_compare .eq (reads_number _) (reads_number _)
      exact reads_enclosed (reads_alternatives_one (reads_simple hsides (by simp) (by simp))
        (stops_closing rest))

/-- The condition of a statement is read as a whole. -/
theorem reads_condition (filter : Filter) (hrest : Stops rest) :
    Reads Cursor.condition filter.tokens filter.params filter.condition rest := by
  intro position unbound
  refine reads_alternatives_one ?_ hrest position unbound
  exact filter.reads_unit (by simp only [List.length_append]; omega) rest

end Filter

/-! ## Statements -/

namespace Sql.Cursor

variable {rest : List Token}

theorem reads_functionCall {function column : String} {selection : Selection}
    (h : functionSelection? (Text.upperAscii function.toList) column = .ok selection) :
    Reads functionCall (Selection.callTokens function column) [] selection rest := by
  intro position unbound
  simp only [functionCall, Selection.callTokens, List.cons_append, List.nil_append, argument,
    opening, name, closing, next, List.tail_cons, ok_bind, pure, Except.pure,
    String.ofList_toList, h]
  rfl

theorem reads_call {function column : String} {selection : Selection}
    (htop : Keyword.top.isWord function.toList = false)
    (hcount : Keyword.count.isWord function.toList = false)
    (h : functionSelection? (Text.upperAscii function.toList) column = .ok selection) :
    Reads Cursor.selection (Selection.callTokens function column) [] selection rest := by
  intro position unbound
  rw [← reads_functionCall h position unbound]
  simp only [Cursor.selection, Selection.callTokens, List.cons_append, seesKeyword, htop, hcount,
    Bool.false_eq_true, if_false]

theorem selection_top {position : Nat} {unbound : List Value} :
    Cursor.selection ⟨Keyword.top.token :: rest, position, unbound⟩ = (do
      let (n, c) ← (⟨rest, position + 1, unbound⟩ : Cursor).rowCount
      let c ← c.star
      return (.top n, c)) :=
  rfl

theorem selection_count {position : Nat} {unbound : List Value} :
    Cursor.selection ⟨Keyword.count.token :: rest, position, unbound⟩ = (do
      let c ← (⟨rest, position + 1, unbound⟩ : Cursor).opening
      let c ← c.star
      let c ← c.closing
      return (.count, c)) :=
  rfl

/-- The tokens of a selection are read as that selection. -/
theorem reads_selection {selection : Selection} (h : selection.IsCounted) :
    Reads Cursor.selection selection.tokens [] selection rest := by
  cases selection with
  | all =>
      intro position unbound
      rfl
  | top n =>
      intro position unbound
      have hword : (Int64.ofNat n).toInt = n := Int64.toInt_ofNat_of_lt h
      rw [Selection.tokens, List.cons_append, selection_top]
      simp [rowCount, star, next, hword, pure, Except.pure]
  | count =>
      intro position unbound
      rw [Selection.tokens, List.cons_append, selection_count]
      simp [opening, star, closing, next, pure, Except.pure]
  | distinct column => exact reads_call rfl rfl rfl
  | aggregate function column =>
      cases function with
      | sum => exact reads_call rfl rfl rfl
      | min => exact reads_call rfl rfl rfl
      | max => exact reads_call rfl rfl rfl
      | average => exact reads_call rfl rfl rfl

theorem reads_direction (direction : Direction) {position : Nat} {unbound : List Value} :
    (⟨[.word direction.symbol.toList], position, unbound⟩ : Cursor).direction =
      (direction, ⟨[], position + 1, unbound⟩) := by
  cases direction <;> rfl

end Sql.Cursor

namespace Clauses

open Cursor

variable {c : Clauses}

/-- The condition of the statement. -/
def condition? (c : Clauses) : Option Condition :=
  c.filter.map Filter.condition

/-- What follows a condition is the ordering or nothing. -/
theorem orderTokens_cases (c : Clauses) :
    c.orderTokens = [] ∨ ∃ rest, c.orderTokens = Keyword.order.token :: rest := by
  unfold orderTokens
  split
  · exact Or.inr ⟨_, rfl⟩
  · exact Or.inl rfl

theorem stops_orderTokens (c : Clauses) : Stops c.orderTokens := by
  rcases c.orderTokens_cases with h | ⟨rest, h⟩ <;> rw [h]
  · exact stops_nil
  · exact stops_order rest

theorem not_seesKeyword_where (c : Clauses) (position : Nat) (unbound : List Value) :
    (⟨c.orderTokens, position, unbound⟩ : Cursor).seesKeyword .where = false := by
  rcases c.orderTokens_cases with h | ⟨rest, h⟩ <;> rw [h]
  · rfl
  · exact seesKeyword_token .where .order

theorem reads_whereClause (c : Clauses) :
    Reads whereClause c.whereTokens c.params c.condition? c.orderTokens := by
  intro position unbound
  unfold whereTokens params condition? whereClause
  cases c.filter with
  | none =>
      rw [if_neg (by simp [c.not_seesKeyword_where])]
      rfl
  | some filter =>
      have h := filter.reads_condition c.stops_orderTokens (position + 1) unbound
      simp only [List.cons_append, seesKeyword_token, beq_self_eq_true, if_true, next,
        List.tail_cons, Option.map_some, Option.getD_some, h, ok_bind]
      simp [pure, Except.pure]
      omega

theorem reads_orderClause (c : Clauses) : Reads orderClause c.orderTokens [] c.orderBy [] := by
  intro position unbound
  unfold orderTokens orderClause
  cases c.orderBy with
  | none => rfl
  | some ordering =>
      obtain ⟨column, direction⟩ := ordering
      simp only [List.append_nil, List.nil_append, seesKeyword_token, beq_self_eq_true, if_true,
        next, List.tail_cons, keyword_token, ok_bind, name, String.ofList_toList, reads_direction]
      rfl

/-- **The tokens of a statement are read as the statement that was written.** -/
theorem ofTokens?_tokens (h : c.selection.IsWritable) (table : String) :
    Statement.ofTokens? (c.tokens table) c.params =
      .ok ⟨c.selection, table, c.condition?, c.orderBy⟩ := by
  have hread : Reads Cursor.selection c.selection.tokens [] c.selection
      (Keyword.from.token :: .name table.toList :: (c.whereTokens ++ c.orderTokens)) :=
    reads_selection h.isCounted
  have hselection := hread 1 c.params
  have hwhere := c.reads_whereClause (1 + c.selection.tokens.length + 2) []
  have horder := c.reads_orderClause
    (1 + c.selection.tokens.length + 2 + c.whereTokens.length) []
  simp only [List.nil_append, List.append_nil] at hselection hwhere horder
  simp only [Statement.ofTokens?, tokens, keyword_token, ok_bind, Nat.zero_add, hselection, name,
    next, List.tail_cons, String.ofList_toList, hwhere, horder]
  rfl

end Clauses

end SheetQuery
