import SheetQuery.Proofs.Sql.Reading

/-!
# The grammar of statements

The dialect as derivations, apart from any way of reading it:

    statement = SELECT selection FROM [name] (WHERE or)? (ORDER BY [name] (ASC | DESC)?)?
    selection = * | TOP n * | COUNT ( * ) | f ( [name] )      f: DISTINCT, SUM, MIN, MAX, AVG
    or        = and (OR and)*
    and       = unary (AND unary)*
    unary     = NOT unary | ( or ) | simple
    simple    = operand IS NOT? NULL | operand LIKE operand | operand sign operand
    operand   = [name] | ? | 'text' | number | NULL

A derivation has the tokens that it derives, with the keywords in capitals, and the tree that it
means: the operators of a chain fold to the left, and the placeholder behind `k` others stands for
the parameter at position `k`.

Main statement: `Derivation.eq_of_tokens_eq`, no tokens have two derivations.
-/

namespace SheetQuery.Sql

/-- The token with the ASCII letters of a word in capitals. -/
def Token.capital : Token → Token
  | .word letters => .word (Text.upperAscii letters)
  | token => token

/-- The token stands for a parameter. -/
def Token.isPlaceholder : Token → Bool
  | .placeholder => true
  | _ => false

/-- The number of placeholders among tokens. -/
def placeholders (tokens : List Token) : Nat :=
  tokens.countP Token.isPlaceholder

theorem Keyword.token_inj {k l : Keyword} : k.token = l.token ↔ k = l := by
  constructor
  · intro h
    have hchars : k.chars = l.chars := Token.word.inj h
    have hword := Keyword.isWord_chars l k
    rw [hchars, Keyword.isWord_chars, beq_self_eq_true] at hword
    exact eq_of_beq hword.symm
  · rintro rfl
    rfl

namespace Grammar

/-- One side of a comparison. -/
inductive Side where
  | name (name : String)
  | placeholder
  | text (text : String)
  | number (value : Value)
  | null

namespace Side

def token : Side → Token
  | .name column => .name column.toList
  | .placeholder => .placeholder
  | .text content => .text content.toList
  | .number value => .number value
  | .null => Keyword.null.token

/-- The operand that the side means behind `k` placeholders. -/
def operand : Side → List Value → Nat → Operand
  | .name column, _, _ => .column column
  | .placeholder, params, k => .literal (params[k]?.getD .null)
  | .text content, _, _ => .literal (.text content)
  | .number value, _, _ => .literal value
  | .null, _, _ => .literal .null

end Side

/-- A condition that contains no other. -/
inductive Simple where
  | isNull (side : Side) (negated : Bool)
  | like (target pattern : Side)
  | compare (left : Side) (op : Comparison) (right : Side)

namespace Simple

def tokens : Simple → List Token
  | .isNull side negated => side.token :: Keyword.is.token ::
      ((if negated then [Keyword.not.token] else []) ++ [Keyword.null.token])
  | .like target pattern => [target.token, Keyword.like.token, pattern.token]
  | .compare left op right => [left.token, .comparison op, right.token]

/-- The condition that is meant behind `k` placeholders. -/
def condition : Simple → List Value → Nat → Condition
  | .isNull side negated, params, k => .isNull (side.operand params k) negated
  | .like target pattern, params, k =>
    .like (target.operand params k) (pattern.operand params (k + placeholders [target.token]))
  | .compare left op right, params, k =>
    .compare (left.operand params k) op (right.operand params (k + placeholders [left.token]))

end Simple

/-! ## Conditions -/

/-- What joins conditions; `AND` binds more tightly. -/
inductive Connective where
  | and
  | or

namespace Connective

def keyword : Connective → Keyword
  | .and => .and
  | .or => .or

def join : Connective → Condition → Condition → Condition
  | .and => .and
  | .or => .or

end Connective

mutual

/-- A condition that no connective splits. -/
inductive Unary where
  | not (inner : Unary)
  | enclosed (inner : Chain .or)
  | simple (condition : Simple)

/-- What a connective joins. -/
inductive Item : Connective → Type where
  | unary (condition : Unary) : Item .and
  | conjunction (condition : Chain .and) : Item .or

/-- Items with a connective between them. -/
inductive Chain : Connective → Type where
  | mk {c : Connective} (first : Item c) (more : Links c) : Chain c

/-- Items with a connective before each. -/
inductive Links : Connective → Type where
  | done {c : Connective} : Links c
  | link {c : Connective} (next : Item c) (more : Links c) : Links c

end

mutual

def Unary.tokens : Unary → List Token
  | .not inner => Keyword.not.token :: inner.tokens
  | .enclosed inner => .opening :: (inner.tokens ++ [.closing])
  | .simple condition => condition.tokens

def Item.tokens : {c : Connective} → Item c → List Token
  | _, .unary condition => condition.tokens
  | _, .conjunction condition => condition.tokens

def Chain.tokens : {c : Connective} → Chain c → List Token
  | _, .mk first more => first.tokens ++ more.tokens

def Links.tokens : {c : Connective} → Links c → List Token
  | _, .done => []
  | c, .link next more => c.keyword.token :: (next.tokens ++ more.tokens)

end

mutual

/-- What is meant behind `k` placeholders. -/
def Unary.condition : Unary → List Value → Nat → Condition
  | .not inner, params, k => .not (inner.condition params k)
  | .enclosed inner, params, k => inner.condition params k
  | .simple condition, params, k => condition.condition params k

def Item.condition : {c : Connective} → Item c → List Value → Nat → Condition
  | _, .unary condition, params, k => condition.condition params k
  | _, .conjunction condition, params, k => condition.condition params k

def Chain.condition : {c : Connective} → Chain c → List Value → Nat → Condition
  | _, .mk first more, params, k =>
    more.condition (first.condition params k) params (k + placeholders first.tokens)

/-- The links join on to the condition on their left. -/
def Links.condition : {c : Connective} → Links c → Condition → List Value → Nat → Condition
  | _, .done, left, _, _ => left
  | c, .link next more, left, params, k =>
    more.condition (c.join left (next.condition params k)) params (k + placeholders next.tokens)

end

/-! ## One derivation at most

Derivations are compared together with what follows them: where the same tokens start with two
derivations of a kind, the derivations are the same. A chain has to be over where it ends, since it
could go on otherwise. -/

variable {r r' : List Token}

theorem Side.token_inj {a b : Side} : a.token = b.token ↔ a = b := by
  cases a <;> cases b <;> simp [token, Keyword.token, String.toList_inj]

theorem Side.token_ne_opening (s : Side) : s.token ≠ .opening := by
  cases s <;> simp [token, Keyword.token]

theorem Side.token_ne_keyword {k : Keyword} (s : Side) (hk : k ≠ .null) : s.token ≠ k.token := by
  cases s with
  | null => exact fun h => hk (Keyword.token_inj.mp h).symm
  | _ => simp [token, Keyword.token]

/-- A simple condition starts with a side. -/
theorem Simple.exists_tokens_eq (s : Simple) :
    ∃ (side : Side) (rest : List Token), s.tokens = side.token :: rest := by
  cases s <;> exact ⟨_, _, rfl⟩

theorem Simple.append_ne_not (s : Simple) : s.tokens ++ r ≠ Keyword.not.token :: r' := by
  obtain ⟨side, rest, hs⟩ := s.exists_tokens_eq
  rw [hs, List.cons_append]
  exact fun h => side.token_ne_keyword (by decide) (List.cons.inj h).1

theorem Simple.append_ne_opening (s : Simple) : s.tokens ++ r ≠ .opening :: r' := by
  obtain ⟨side, rest, hs⟩ := s.exists_tokens_eq
  rw [hs, List.cons_append]
  exact fun h => side.token_ne_opening (List.cons.inj h).1

theorem Simple.append_inj {a b : Simple} (h : a.tokens ++ r = b.tokens ++ r') :
    a = b ∧ r = r' := by
  -- the token behind the first side tells the kinds apart
  cases a with
  | isNull s negated =>
      cases b with
      | isNull s' negated' =>
          simp only [tokens, List.cons_append, List.append_assoc, List.cons.injEq,
            Side.token_inj, true_and] at h
          obtain ⟨rfl, h⟩ := h
          cases negated <;> cases negated' <;> simp_all [Keyword.token_inj]
      | like => simp [tokens, Keyword.token_inj] at h
      | compare => simp [tokens, Keyword.token] at h
  | like target pattern =>
      cases b with
      | isNull => simp [tokens, Keyword.token_inj] at h
      | like => simpa [tokens, Side.token_inj, and_assoc] using h
      | compare => simp [tokens, Keyword.token] at h
  | compare left op right =>
      cases b with
      | isNull => simp [tokens, Keyword.token] at h
      | like => simp [tokens, Keyword.token] at h
      | compare => simpa [tokens, Side.token_inj, and_assoc] using h

namespace Connective

/-- An item is over: it is no conjunction that could go on. -/
def EndsItem : Connective → List Token → Prop
  | .and, _ => True
  | .or, rest => rest.head? ≠ some Keyword.and.token

/-- A chain is over: neither its connective nor a tighter one stands next. -/
def EndsChain (c : Connective) (rest : List Token) : Prop :=
  rest.head? ≠ some c.keyword.token ∧ c.EndsItem rest

/-- An item is over before the connective. -/
theorem endsItem_link (c : Connective) (rest : List Token) :
    c.EndsItem (c.keyword.token :: rest) := by
  cases c with
  | and => trivial
  | or => simp [EndsItem, keyword, Keyword.token_inj]

theorem endsItem_or {rest : List Token} (h : EndsItem .or rest) : EndsChain .and rest :=
  ⟨h, trivial⟩

theorem endsChain_closing (c : Connective) (rest : List Token) :
    c.EndsChain (.closing :: rest) := by
  cases c <;> simp [EndsChain, EndsItem, keyword, Keyword.token]

end Connective

/-- An item is over before more of its chain. -/
theorem Links.endsItem {c : Connective} {more : Links c} (h : c.EndsChain r) :
    c.EndsItem (more.tokens ++ r) := by
  cases more with
  | done => exact h.2
  | link next more =>
      simp only [tokens, List.cons_append]
      exact c.endsItem_link _

mutual

theorem Unary.append_inj : (a b : Unary) → {r r' : List Token} →
    a.tokens ++ r = b.tokens ++ r' → a = b ∧ r = r'
  | .not inner, .not inner', _, _, h => by
      obtain ⟨rfl, hr⟩ := inner.append_inj inner' (List.cons.inj h).2
      exact ⟨rfl, hr⟩
  | .not _, .enclosed _, _, _, h => Token.noConfusion (List.cons.inj h).1
  | .not _, .simple condition, _, _, h => absurd h.symm condition.append_ne_not
  | .enclosed _, .not _, _, _, h => Token.noConfusion (List.cons.inj h).1
  | .enclosed inner, .enclosed inner', _, _, h => by
      simp only [Unary.tokens, List.cons_append, List.append_assoc, List.cons.injEq,
        true_and] at h
      -- the closing parenthesis ends both
      obtain ⟨rfl, hr⟩ := inner.append_inj inner' h (Connective.endsChain_closing _ _)
        (Connective.endsChain_closing _ _)
      exact ⟨rfl, (List.cons.inj hr).2⟩
  | .enclosed _, .simple condition, _, _, h => absurd h.symm condition.append_ne_opening
  | .simple condition, .not _, _, _, h => absurd h condition.append_ne_not
  | .simple condition, .enclosed _, _, _, h => absurd h condition.append_ne_opening
  | .simple condition, .simple condition', _, _, h => by
      obtain ⟨rfl, hr⟩ := Simple.append_inj h
      exact ⟨rfl, hr⟩
termination_by structural a => a

theorem Item.append_inj : {c : Connective} → (a b : Item c) → {r r' : List Token} →
    a.tokens ++ r = b.tokens ++ r' → c.EndsItem r → c.EndsItem r' → a = b ∧ r = r'
  | _, .unary condition, .unary condition', _, _, h, _, _ => by
      obtain ⟨rfl, hrest⟩ := condition.append_inj condition' h
      exact ⟨rfl, hrest⟩
  | _, .conjunction condition, .conjunction condition', _, _, h, hr, hr' => by
      obtain ⟨rfl, hrest⟩ := condition.append_inj condition' h (Connective.endsItem_or hr)
        (Connective.endsItem_or hr')
      exact ⟨rfl, hrest⟩
termination_by structural _ a => a

theorem Chain.append_inj : {c : Connective} → (a b : Chain c) → {r r' : List Token} →
    a.tokens ++ r = b.tokens ++ r' → c.EndsChain r → c.EndsChain r' → a = b ∧ r = r'
  | _, .mk first more, .mk first' more', _, _, h, hr, hr' => by
      simp only [Chain.tokens, List.append_assoc] at h
      obtain ⟨rfl, hmore⟩ := first.append_inj first' h (Links.endsItem hr) (Links.endsItem hr')
      obtain ⟨rfl, hrest⟩ := more.append_inj more' hmore hr hr'
      exact ⟨rfl, hrest⟩
termination_by structural _ a => a

theorem Links.append_inj : {c : Connective} → (a b : Links c) → {r r' : List Token} →
    a.tokens ++ r = b.tokens ++ r' → c.EndsChain r → c.EndsChain r' → a = b ∧ r = r'
  | _, .done, .done, _, _, h, _, _ => ⟨rfl, h⟩
  | _, .done, .link _ _, _, _, h, hr, _ => absurd (congrArg List.head? h) hr.1
  | _, .link _ _, .done, _, _, h, _, hr' => absurd (congrArg List.head? h.symm) hr'.1
  | _, .link next more, .link next' more', _, _, h, hr, hr' => by
      simp only [Links.tokens, List.cons_append, List.append_assoc, List.cons.injEq,
        true_and] at h
      obtain ⟨rfl, hmore⟩ := next.append_inj next' h (Links.endsItem hr) (Links.endsItem hr')
      obtain ⟨rfl, hrest⟩ := more.append_inj more' hmore hr hr'
      exact ⟨rfl, hrest⟩
termination_by structural _ a => a

end

/-! ## Statements -/

/-- A derivation of a statement. Its number of rows is one that a number token holds; numbers have
no sign. -/
structure Derivation where
  selection : Selection
  isCounted : selection.IsCounted
  table : String
  condition : Option (Chain .or)
  ordering : Option (String × Option Direction)

namespace Derivation

def conditionTokens : Option (Chain .or) → List Token
  | some condition => Keyword.where.token :: condition.tokens
  | none => []

def directionTokens : Option Direction → List Token
  | some direction => [.word direction.symbol.toList]
  | none => []

def orderingTokens : Option (String × Option Direction) → List Token
  | some (column, direction) =>
    Keyword.order.token :: Keyword.by.token :: .name column.toList :: directionTokens direction
  | none => []

def tokens (d : Derivation) : List Token :=
  Keyword.select.token :: (d.selection.tokens ++ (Keyword.from.token :: .name d.table.toList ::
    (conditionTokens d.condition ++ orderingTokens d.ordering)))

/-- The statement that is meant. Rows ascend where no direction is given. -/
def statement (d : Derivation) (params : List Value) : Statement where
  selection := d.selection
  table := d.table
  condition := d.condition.map (·.condition params 0)
  orderBy := d.ordering.map fun (column, direction) => (column, direction.getD .ascending)

end Derivation

/-- Tokens start with one selection at most, since they are read as one. -/
theorem selection_append_inj {a b : Selection} (ha : a.IsCounted) (hb : b.IsCounted)
    (h : a.tokens ++ r = b.tokens ++ r') : a = b ∧ r = r' := by
  have hreadA : Reads Cursor.selection a.tokens [] a r := Cursor.reads_selection ha
  have hreadB : Reads Cursor.selection b.tokens [] b r' := Cursor.reads_selection hb
  have hread := hreadA 0 []
  rw [h, hreadB 0 []] at hread
  simp only [Except.ok.injEq, Prod.mk.injEq, Cursor.mk.injEq] at hread
  exact ⟨hread.1.symm, hread.2.1.symm⟩

namespace Derivation

/-- What follows a condition is the ordering or nothing. -/
theorem endsChain_orderingTokens (c : Connective) (o : Option (String × Option Direction)) :
    c.EndsChain (orderingTokens o) := by
  cases o with
  | none => cases c <;> simp [Connective.EndsChain, Connective.EndsItem, orderingTokens]
  | some ordering =>
      cases c <;> simp [Connective.EndsChain, Connective.EndsItem, Connective.keyword,
        orderingTokens, Keyword.token_inj]

theorem directionTokens_inj {a b : Option Direction} (h : directionTokens a = directionTokens b) :
    a = b := by
  cases a with
  | none =>
      cases b with
      | none => rfl
      | some direction => cases h
  | some direction =>
      cases b with
      | none => cases h
      | some direction' =>
          have hword : direction.symbol.toList = direction'.symbol.toList :=
            Token.word.inj (List.cons.inj h).1
          cases direction <;> cases direction' <;> first | rfl | exact absurd hword (by decide)

theorem orderingTokens_inj {a b : Option (String × Option Direction)}
    (h : orderingTokens a = orderingTokens b) : a = b := by
  cases a with
  | none =>
      cases b with
      | none => rfl
      | some ordering => cases h
  | some ordering =>
      cases b with
      | none => cases h
      | some ordering' =>
          simp only [orderingTokens, List.cons.injEq, Token.name.injEq, String.toList_inj,
            true_and] at h
          rw [Prod.ext h.1 (directionTokens_inj h.2)]

theorem conditionTokens_append_inj {a b : Option (Chain .or)}
    {o o' : Option (String × Option Direction)}
    (h : conditionTokens a ++ orderingTokens o = conditionTokens b ++ orderingTokens o') :
    a = b ∧ orderingTokens o = orderingTokens o' := by
  have hne : ∀ (condition : Chain .or) (o o' : Option (String × Option Direction)),
      conditionTokens (some condition) ++ orderingTokens o ≠ orderingTokens o' := by
    intro condition o o' heq
    cases o' <;> simp [conditionTokens, orderingTokens, Keyword.token_inj] at heq
  cases a with
  | none =>
      cases b with
      | none => exact ⟨rfl, h⟩
      | some condition => exact absurd h.symm (hne condition o' o)
  | some condition =>
      cases b with
      | none => exact absurd h (hne condition o o')
      | some condition' =>
          obtain ⟨rfl, ho⟩ := condition.append_inj condition' (List.cons.inj h).2
            (endsChain_orderingTokens _ _) (endsChain_orderingTokens _ _)
          exact ⟨rfl, ho⟩

/-- **No tokens have two derivations.** -/
theorem eq_of_tokens_eq {d d' : Derivation} (h : d.tokens = d'.tokens) : d = d' := by
  obtain ⟨selection, isCounted, table, condition, ordering⟩ := d
  obtain ⟨selection', isCounted', table', condition', ordering'⟩ := d'
  obtain ⟨rfl, hsource⟩ := selection_append_inj isCounted isCounted' (List.cons.inj h).2
  simp only [List.cons.injEq, Token.name.injEq, String.toList_inj, true_and] at hsource
  obtain ⟨rfl, hclauses⟩ := hsource
  obtain ⟨rfl, hordering⟩ := conditionTokens_append_inj hclauses
  obtain rfl := orderingTokens_inj hordering
  rfl

end Derivation

end Grammar

end SheetQuery.Sql
