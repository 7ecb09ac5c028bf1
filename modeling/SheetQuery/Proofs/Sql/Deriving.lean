import SheetQuery.Proofs.Sql.Spanning

/-!
# Reading is deriving

The reader of statements against the grammar. Whatever it accepts has a derivation, by induction on
the depth that it may still go to; and whatever has a derivation is accepted, by recursion over the
derivation, where the number of tokens bounds both the depth and the links of a chain.

Main statement: `Statement.ofTokens?_ok_iff`.
-/

namespace SheetQuery.Sql

open Grammar

variable {c c' : Cursor} {t : Token} {ts : List Token} {params : List Value} {n : Nat}

namespace Cursor

/-! ## What is read has a derivation -/

/-- Whatever the reader gives is derived: by a derivation of those tokens that means the result. -/
def Derives {α : Type} (reader : Cursor → Except Fault (Condition × Cursor))
    (tokens : α → List Token) (condition : α → List Value → Nat → Condition) : Prop :=
  ∀ ⦃c c' : Cursor⦄ ⦃x : Condition⦄ ⦃params : List Value⦄ ⦃n : Nat⦄,
    c.unbound = params.drop n → reader c = .ok (x, c') →
      ∃ d, Spans c (tokens d) c' ∧ condition d params n = x

/-- The reader of what a connective joins. -/
def item (m n : Nat) : Connective → Cursor → Except Fault (Condition × Cursor)
  | .and => unit m
  | .or => chained .and .and (unit m) n

section Chains

variable {k : Connective} {reader : Cursor → Except Fault (Condition × Cursor)}

/-- By induction on the links that may still be read: what was read so far is the left of the next
link. -/
theorem chain_derives
    (h : Derives reader (@Item.tokens k) Item.condition) {m : Nat} {left x : Condition}
    (hc : c.unbound = params.drop n)
    (hchain : chain k.keyword k.join reader m left c = .ok (x, c')) :
    ∃ more : Links k, Spans c more.tokens c' ∧ more.condition left params n = x := by
  induction m generalizing left c n with
  | zero =>
      cases hchain
      exact ⟨.done, Spans.refl _, rfl⟩
  | succ m ih =>
      unfold chain at hchain
      split at hchain
      · next hsees =>
          obtain ⟨⟨right, c₁⟩, hright, hchain⟩ := bind_eq_ok_iff.mp hchain
          obtain ⟨next, hnext, rfl⟩ := h (c := c.next) hc hright
          obtain ⟨more, hmore, rfl⟩ := ih (hnext.unbound_eq_drop (c := c.next) hc) hchain
          refine ⟨.link next more, ?_, rfl⟩
          rw [Links.tokens]
          exact spans_cons_iff.mpr ⟨c.next, spans_keyword hsees,
            spans_append_iff.mpr ⟨c₁, hnext, hmore⟩⟩
      · cases hchain
        exact ⟨.done, Spans.refl _, rfl⟩

theorem chained_derives
    (h : Derives reader (@Item.tokens k) Item.condition) (m : Nat) :
    Derives (chained k.keyword k.join reader m) (@Chain.tokens k) Chain.condition := by
  intro c c' x params n hc hread
  obtain ⟨⟨left, c₁⟩, hleft, hchain⟩ := bind_eq_ok_iff.mp hread
  obtain ⟨first, hfirst, rfl⟩ := h hc hleft
  obtain ⟨more, hmore, rfl⟩ := chain_derives h (hfirst.unbound_eq_drop hc) hchain
  refine ⟨.mk first more, ?_, rfl⟩
  rw [Chain.tokens]
  exact spans_append_iff.mpr ⟨c₁, hfirst, hmore⟩

theorem item_derives {m j : Nat}
    (h : Derives (unit m) Unary.tokens Unary.condition) :
    Derives (item m j k) (@Item.tokens k) Item.condition := by
  have hand : Derives (unit m) (@Item.tokens .and) Item.condition := by
    intro c c' x params n hc hread
    obtain ⟨u, hu, rfl⟩ := h hc hread
    exact ⟨.unary u, by rwa [Item.tokens], rfl⟩
  cases k with
  | and => exact hand
  | or =>
      intro c c' x params n hc hread
      obtain ⟨a, ha, rfl⟩ := chained_derives hand j hc hread
      exact ⟨.conjunction a, by rwa [Item.tokens], rfl⟩

theorem alternatives_derives {m : Nat}
    (h : Derives (unit m) Unary.tokens Unary.condition) (j : Nat) :
    Derives (alternatives (unit m) j) (@Chain.tokens .or) Chain.condition :=
  chained_derives (k := .or) (item_derives h) j

end Chains

/-- By induction on the depth: what stands in parentheses or behind a negation is read one step
deeper. -/
theorem unit_derives (m : Nat) :
    Derives (unit m) Unary.tokens Unary.condition := by
  induction m with
  | zero =>
      intro c c' x params n hc hread
      cases hread
  | succ m ih =>
      intro c c' x params n hc hread
      unfold unit at hread
      split at hread
      · next hnot =>
          obtain ⟨⟨inner, c₁⟩, hinner, h⟩ := bind_eq_ok_iff.mp hread
          cases h
          obtain ⟨u, hu, rfl⟩ := ih (c := c.next) hc hinner
          refine ⟨.not u, ?_, rfl⟩
          rw [Unary.tokens]
          exact spans_cons_iff.mpr ⟨c.next, spans_keyword hnot, hu⟩
      · split at hread
        · next rest hahead =>
            obtain ⟨⟨inner, c₁⟩, hinner, h⟩ := bind_eq_ok_iff.mp hread
            obtain ⟨c₂, hclosing, h⟩ := bind_eq_ok_iff.mp h
            cases h
            obtain ⟨a, ha, rfl⟩ := alternatives_derives ih m (c := c.next) hc hinner
            refine ⟨.enclosed a, ?_, rfl⟩
            rw [Unary.tokens]
            have hopening : Spans c [.opening] c.next :=
              (spans_mark_iff rfl (by simp)).mpr ⟨⟨rest, hahead⟩, rfl⟩
            exact spans_cons_iff.mpr ⟨c.next, hopening,
              spans_append_iff.mpr ⟨c₁, ha, closing_ok_iff.mp hclosing⟩⟩
        · obtain ⟨s, hs, rfl⟩ := simpleCondition_derives hc hread
          exact ⟨.simple s, by rwa [Unary.tokens], rfl⟩

/-! ## What has a derivation is read -/

/-- The reader takes the tokens wherever they stand, if what follows them is an end. -/
def Accepts (reader : Cursor → Except Fault (Condition × Cursor)) (tokens : List Token)
    (condition : List Value → Nat → Condition) (ends : List Token → Prop) : Prop :=
  ∀ ⦃c c' : Cursor⦄ ⦃params : List Value⦄ ⦃n : Nat⦄, c.unbound = params.drop n →
    Spans c tokens c' → ends c'.rest → reader c = .ok (condition params n, c')

theorem unit_of_not {m : Nat} {inner : Condition} (hsees : c.seesKeyword .not = true)
    (h : unit m c.next = .ok (inner, c')) : unit (m + 1) c = .ok (.not inner, c') := by
  rw [unit, if_pos hsees, h]
  rfl

theorem unit_of_enclosed {m : Nat} {inner : Condition} {c₁ c₂ : Cursor}
    (hopening : Spans c [.opening] c₁) (h : alternatives (unit m) m c₁ = .ok (inner, c₂))
    (hclosing : Spans c₂ [.closing] c') : unit (m + 1) c = .ok (inner, c') := by
  have hnot := not_seesKeyword_of_spans (k := .not) hopening (by simp [Keyword.token])
  obtain ⟨⟨tail, hahead⟩, rfl⟩ := (spans_mark_iff rfl (by simp)).mp hopening
  rw [unit, if_neg hnot]
  simp only [hahead, enclosed, h, ok_bind, closing_ok_iff.mpr hclosing]
  rfl

theorem unit_of_simple {m : Nat} {s : Simple} (hc : c.unbound = params.drop n)
    (h : Spans c s.tokens c') : unit (m + 1) c = .ok (s.condition params n, c') := by
  obtain ⟨side, tail, hs⟩ := s.exists_tokens_eq
  rw [hs] at h
  have hnot := not_seesKeyword_of_spans (k := .not) h (side.token_ne_keyword (by decide))
  rw [unit, if_neg hnot]
  split
  · next tail' hahead => exact absurd (h.capital_head hahead).symm side.token_ne_opening
  · exact simpleCondition_accepts hc (hs ▸ h)

end Cursor

namespace Grammar

open Cursor

theorem Unary.length_tokens_pos (u : Unary) : 0 < u.tokens.length := by
  cases u with
  | not inner => simp [Unary.tokens]
  | enclosed inner => simp [Unary.tokens]
  | simple s =>
      obtain ⟨side, tail, hs⟩ := s.exists_tokens_eq
      simp [Unary.tokens, hs]

/-! By recursion over the derivation. Each part has fewer tokens than the whole, so a bound on the
tokens is one on the depth and on the links of every part. Only the end of a chain depends on what
follows: the reader goes on as long as the connective stands next. -/

mutual

theorem Unary.accepted : (u : Unary) → {m : Nat} → u.tokens.length ≤ m →
    Accepts (unit m) u.tokens u.condition fun _ => True
  | u, 0, hm => absurd hm (Nat.not_le.mpr u.length_tokens_pos)
  | .not inner, m + 1, hm => by
      intro c c' params n hc h _
      obtain ⟨c₁, hnot, hinner⟩ := spans_cons_iff.mp h
      obtain ⟨hsees, rfl⟩ := spans_keyword_iff.mp hnot
      simp only [Unary.tokens, List.length_cons] at hm
      exact unit_of_not hsees (inner.accepted (by omega) (c := c.next) hc hinner trivial)
  | .enclosed inner, m + 1, hm => by
      intro c c' params n hc h _
      obtain ⟨c₁, hopening, h⟩ := spans_cons_iff.mp h
      obtain ⟨c₂, hinner, hclosing⟩ := spans_append_iff.mp h
      simp only [Unary.tokens, List.length_cons, List.length_append] at hm
      have hends : Connective.or.EndsChain c₂.rest := by
        rw [hclosing.rest_eq]
        exact Connective.endsChain_closing _ _
      exact unit_of_enclosed hopening (inner.accepted (by omega) (by omega)
        (hopening.unbound_eq_drop hc) hinner hends) hclosing
  | .simple s, m + 1, _ => fun _ _ _ _ hc h _ => unit_of_simple hc h
termination_by structural u => u

theorem Item.accepted : {k : Connective} → (i : Item k) → {m j : Nat} → i.tokens.length ≤ m →
    i.tokens.length ≤ j →
      Accepts (item m j k) i.tokens i.condition k.EndsItem
  | _, .unary u, _, _, hm, _ => fun _ _ _ _ hc h _ => u.accepted hm hc h trivial
  | _, .conjunction a, _, _, hm, hj => fun _ _ _ _ hc h hends =>
      a.accepted hm hj hc h (Connective.endsItem_or hends)
termination_by structural _ i => i

theorem Chain.accepted : {k : Connective} → (a : Chain k) → {m j : Nat} → a.tokens.length ≤ m →
    a.tokens.length ≤ j →
      Accepts (chained k.keyword k.join (item m j k) j) a.tokens
        a.condition k.EndsChain
  | k, .mk first more, m, j, hm, hj => by
      intro c c' params n hc h hends
      obtain ⟨c₁, hfirst, hmore⟩ := spans_append_iff.mp h
      simp only [Chain.tokens, List.length_append] at hm hj
      have hitem : k.EndsItem c₁.rest := by
        rw [hmore.rest_eq]
        exact Links.endsItem hends
      rw [chained, first.accepted (by omega) (by omega) hc hfirst hitem, ok_bind]
      exact more.accepted (by omega) (by omega) (by omega) (hfirst.unbound_eq_drop hc) hmore hends
termination_by structural _ a => a

theorem Links.accepted : {k : Connective} → (more : Links k) → {m j l : Nat} →
    {left : Condition} → more.tokens.length ≤ m → more.tokens.length ≤ j →
    more.tokens.length ≤ l →
      Accepts (chain k.keyword k.join (item m j k) l left) more.tokens
        (more.condition left) k.EndsChain
  | _, .done, _, _, _, _, _, _, _ => by
      intro c c' params n _ h hends
      obtain rfl := spans_nil_iff.mp h
      exact chain_done (not_seesKeyword hends.1)
  | _, .link _ _, _, _, 0, _, _, _, hl => absurd hl (Nat.not_succ_le_zero _)
  | k, .link next more, m, j, l + 1, left, hm, hj, hl => by
      intro c c' params n hc h hends
      obtain ⟨c₁, hkeyword, h⟩ := spans_cons_iff.mp h
      obtain ⟨c₂, hnext, hmore⟩ := spans_append_iff.mp h
      obtain ⟨hsees, rfl⟩ := spans_keyword_iff.mp hkeyword
      simp only [Links.tokens, List.length_cons, List.length_append] at hm hj hl
      have hitem : k.EndsItem c₂.rest := by
        rw [hmore.rest_eq]
        exact Links.endsItem hends
      -- the keyword takes no parameter
      have hc : c.next.unbound = params.drop n := hc
      rw [chain, if_pos hsees, next.accepted (by omega) (by omega) hc hnext hitem, ok_bind]
      exact more.accepted (by omega) (by omega) (by omega) (hnext.unbound_eq_drop hc) hmore hends
termination_by structural _ more => more

end

end Grammar

/-! ## Clauses -/

namespace Cursor

open Derivation

theorem condition_derives : Derives condition (@Chain.tokens .or) Chain.condition := by
  intro c c' x params n hc h
  exact alternatives_derives (unit_derives _) _ hc h

theorem condition_accepts (a : Chain .or) :
    Accepts condition a.tokens a.condition Connective.or.EndsChain := by
  intro c c' params n hc h hends
  have hlength := h.length_le
  exact a.accepted (by omega) hlength hc h hends

theorem whereClause_derives {x : Option Condition} (hc : c.unbound = params.drop n)
    (h : c.whereClause = .ok (x, c')) :
    ∃ o : Option (Chain .or), Spans c (conditionTokens o) c' ∧
      o.map (·.condition params n) = x := by
  unfold whereClause at h
  split at h
  · next hsees =>
      obtain ⟨⟨condition, c₁⟩, hcondition, h⟩ := bind_eq_ok_iff.mp h
      cases h
      obtain ⟨a, ha, rfl⟩ := condition_derives (c := c.next) hc hcondition
      exact ⟨some a, spans_cons_iff.mpr ⟨c.next, spans_keyword hsees, ha⟩, rfl⟩
  · cases h
    exact ⟨none, Spans.refl _, rfl⟩

/-- A condition is read up to the ordering. -/
theorem whereClause_accepts {a : Option (Chain .or)} {o : Option (String × Option Direction)}
    (hc : c.unbound = params.drop n) (h : Spans c (conditionTokens a) c')
    (hrest : c'.rest = orderingTokens o) :
    c.whereClause = .ok (a.map (·.condition params n), c') := by
  unfold whereClause
  cases a with
  | none =>
      obtain rfl := spans_nil_iff.mp h
      have hnone : c'.seesKeyword .where = false := by
        refine not_seesKeyword ?_
        rw [hrest]
        cases o <;> simp [orderingTokens, Keyword.token_inj]
      rw [hnone]
      rfl
  | some a =>
      obtain ⟨c₁, hwhere, ha⟩ := spans_cons_iff.mp h
      obtain ⟨hsees, rfl⟩ := spans_keyword_iff.mp hwhere
      have hends : Connective.or.EndsChain c'.rest := hrest ▸ endsChain_orderingTokens _ o
      rw [if_pos hsees, condition_accepts a (c := c.next) hc ha hends]
      rfl

theorem direction_derives (c : Cursor) : ∃ o : Option Direction,
    Spans c (directionTokens o) c.direction.2 ∧ o.getD .ascending = c.direction.1 := by
  unfold direction skipKeyword
  split
  · next hsees => exact ⟨some .descending, spans_keyword hsees, rfl⟩
  · split
    · next hsees => exact ⟨some .ascending, spans_keyword hsees, rfl⟩
    · exact ⟨none, Spans.refl c, rfl⟩

/-- A direction is read where nothing follows it. -/
theorem direction_accepts {o : Option Direction} (h : Spans c (directionTokens o) c')
    (hrest : c'.rest = []) : c.direction = (o.getD .ascending, c') := by
  unfold direction skipKeyword
  cases o with
  | none =>
      obtain rfl := spans_nil_iff.mp h
      have hnone : ∀ k, c'.seesKeyword k = false := by
        intro k
        refine not_seesKeyword ?_
        rw [hrest]
        simp
      simp [hnone]
  | some direction =>
      cases direction with
      | ascending =>
          have h : Spans c [Keyword.ascending.token] c' := h
          have hdescending := not_seesKeyword_of_spans (k := .descending) h
            (by simp [Keyword.token_inj])
          obtain ⟨hsees, rfl⟩ := spans_keyword_iff.mp h
          simp [hdescending, hsees]
      | descending =>
          have h : Spans c [Keyword.descending.token] c' := h
          obtain ⟨hsees, rfl⟩ := spans_keyword_iff.mp h
          simp [hsees]

theorem orderClause_derives {x : Option (String × Direction)} (h : c.orderClause = .ok (x, c')) :
    ∃ o : Option (String × Option Direction), Spans c (orderingTokens o) c' ∧
      o.map (fun (column, direction) => (column, direction.getD .ascending)) = x := by
  unfold orderClause at h
  split at h
  · next hsees =>
      obtain ⟨c₁, hby, h⟩ := bind_eq_ok_iff.mp h
      obtain ⟨⟨column, c₂⟩, hname, h⟩ := bind_eq_ok_iff.mp h
      cases h
      obtain ⟨o, ho, hdirection⟩ := c₂.direction_derives
      refine ⟨some (column, o), ?_, ?_⟩
      · exact spans_cons_iff.mpr ⟨c.next, spans_keyword hsees, spans_cons_iff.mpr
          ⟨c₁, keyword_ok_iff.mp hby, spans_cons_iff.mpr ⟨c₂, name_ok_iff.mp hname, ho⟩⟩⟩
      · exact congrArg (fun d => some (column, d)) hdirection
  · cases h
    exact ⟨none, Spans.refl _, rfl⟩

/-- An ordering is read where nothing follows it. -/
theorem orderClause_accepts {o : Option (String × Option Direction)}
    (h : Spans c (orderingTokens o) c') (hrest : c'.rest = []) :
    c.orderClause =
      .ok (o.map fun (column, direction) => (column, direction.getD .ascending), c') := by
  unfold orderClause
  cases o with
  | none =>
      obtain rfl := spans_nil_iff.mp h
      have hnone : c'.seesKeyword .order = false := by
        refine not_seesKeyword ?_
        rw [hrest]
        simp
      simp [hnone]
  | some ordering =>
      obtain ⟨c₁, horder, h⟩ := spans_cons_iff.mp h
      obtain ⟨c₂, hby, h⟩ := spans_cons_iff.mp h
      obtain ⟨c₃, hname, hdirection⟩ := spans_cons_iff.mp h
      obtain ⟨hsees, rfl⟩ := spans_keyword_iff.mp horder
      simp only [if_pos hsees, keyword_ok_iff.mpr hby, ok_bind, name_ok_iff.mpr hname,
        direction_accepts hdirection hrest]
      rfl

theorem ending_ok_iff {m : Nat} : c.ending m = .ok () ↔ c.ahead = [] ∧ c.unbound = [] := by
  unfold ending
  cases c.ahead with
  | nil => cases c.unbound <;> simp
  | cons t ts => simp [wants]

end Cursor

/-! ## Statements -/

theorem Selection.placeholders_tokens (selection : Selection) :
    placeholders selection.tokens = 0 := by
  cases selection <;> rfl

theorem placeholders_map_capital (tokens : List Token) :
    placeholders (tokens.map Token.capital) = placeholders tokens := by
  rw [placeholders, List.countP_map]
  refine List.countP_congr fun t _ => ?_
  cases t <;> rfl

/-- From before the first token to behind the last one, with all parameters taken. -/
theorem spans_all_iff {tokens : List Token} {params : List Value} :
    (∃ c, Spans ⟨tokens, 0, params⟩ ts c ∧ c.ahead = [] ∧ c.unbound = []) ↔
      ts = tokens.map Token.capital ∧ placeholders tokens = params.length := by
  constructor
  · rintro ⟨c, h, hahead, hunbound⟩
    have hts := h.rest_eq
    rw [Cursor.rest, Cursor.rest, hahead, List.map_nil, List.append_nil] at hts
    refine ⟨hts.symm, ?_⟩
    have hbound := h.bound
    have hlength := congrArg List.length h.unbound
    rw [hunbound, List.length_drop, List.length_nil] at hlength
    simp only [← hts, placeholders_map_capital] at hbound hlength
    omega
  · rintro ⟨rfl, hcount⟩
    refine ⟨⟨[], tokens.length, []⟩, ⟨⟨tokens, ?_, rfl⟩, ?_, ?_, ?_⟩, rfl, rfl⟩
    · exact (List.append_nil tokens).symm
    · simp
    · rw [placeholders_map_capital, hcount]
    · rw [placeholders_map_capital, hcount, List.drop_length]

namespace Statement

variable {tokens : List Token} {s : Statement}

theorem derives_of_ofTokens? (h : ofTokens? tokens params = .ok s) :
    ∃ d : Derivation, d.tokens = tokens.map Token.capital ∧
      placeholders tokens = params.length ∧ d.statement params = s := by
  obtain ⟨c₁, hselect, h⟩ := bind_eq_ok_iff.mp h
  obtain ⟨⟨selection, c₂⟩, hselection, h⟩ := bind_eq_ok_iff.mp h
  obtain ⟨c₃, hfrom, h⟩ := bind_eq_ok_iff.mp h
  obtain ⟨⟨table, c₄⟩, hname, h⟩ := bind_eq_ok_iff.mp h
  obtain ⟨⟨condition, c₅⟩, hwhere, h⟩ := bind_eq_ok_iff.mp h
  obtain ⟨⟨orderBy, c₆⟩, horder, h⟩ := bind_eq_ok_iff.mp h
  obtain ⟨_, hending, h⟩ := bind_eq_ok_iff.mp h
  cases h
  have hselect := Cursor.keyword_ok_iff.mp hselect
  obtain ⟨hcounted, hselection⟩ := Cursor.selection_derives hselection
  have hfrom := Cursor.keyword_ok_iff.mp hfrom
  have hname := Cursor.name_ok_iff.mp hname
  -- no placeholder stands before the condition
  have hc : c₄.unbound = params.drop 0 := by
    rw [hname.unbound_eq rfl, hfrom.unbound_eq rfl,
      hselection.unbound_eq selection.placeholders_tokens, hselect.unbound_eq rfl]
    rfl
  obtain ⟨a, ha, rfl⟩ := Cursor.whereClause_derives hc hwhere
  obtain ⟨o, ho, rfl⟩ := Cursor.orderClause_derives horder
  obtain ⟨hahead, hunbound⟩ := Cursor.ending_ok_iff.mp hending
  let d : Derivation := ⟨selection, hcounted, table, a, o⟩
  have hall : Spans ⟨tokens, 0, params⟩ d.tokens c₆ :=
    spans_cons_iff.mpr ⟨c₁, hselect, spans_append_iff.mpr ⟨c₂, hselection,
      spans_cons_iff.mpr ⟨c₃, hfrom, spans_cons_iff.mpr ⟨c₄, hname,
        spans_append_iff.mpr ⟨c₅, ha, ho⟩⟩⟩⟩⟩
  obtain ⟨htokens, hcount⟩ := spans_all_iff.mp ⟨c₆, hall, hahead, hunbound⟩
  exact ⟨d, htokens, hcount, rfl⟩

theorem ofTokens?_of_derivation (d : Derivation) (htokens : d.tokens = tokens.map Token.capital)
    (hcount : placeholders tokens = params.length) :
    ofTokens? tokens params = .ok (d.statement params) := by
  obtain ⟨c₆, hall, hahead, hunbound⟩ := spans_all_iff.mpr ⟨htokens, hcount⟩
  obtain ⟨c₁, hselect, h⟩ := spans_cons_iff.mp hall
  obtain ⟨c₂, hselection, h⟩ := spans_append_iff.mp h
  obtain ⟨c₃, hfrom, h⟩ := spans_cons_iff.mp h
  obtain ⟨c₄, hname, h⟩ := spans_cons_iff.mp h
  obtain ⟨c₅, hcondition, hordering⟩ := spans_append_iff.mp h
  have hc : c₄.unbound = params.drop 0 := by
    rw [hname.unbound_eq rfl, hfrom.unbound_eq rfl,
      hselection.unbound_eq d.selection.placeholders_tokens, hselect.unbound_eq rfl]
    rfl
  have hend : c₆.rest = [] := by rw [Cursor.rest, hahead, List.map_nil]
  have hrest : c₅.rest = Derivation.orderingTokens d.ordering := by
    rw [hordering.rest_eq, hend, List.append_nil]
  simp only [ofTokens?, Cursor.keyword_ok_iff.mpr hselect, ok_bind,
    Cursor.selection_accepts d.isCounted hselection, Cursor.keyword_ok_iff.mpr hfrom,
    Cursor.name_ok_iff.mpr hname, Cursor.whereClause_accepts hc hcondition hrest,
    Cursor.orderClause_accepts hordering hend, Cursor.ending_ok_iff.mpr ⟨hahead, hunbound⟩]
  rfl

/-- **The reader accepts the dialect and nothing else.** Tokens and parameters are read as a
statement exactly when the tokens have a derivation, there is a parameter for each placeholder, and
the derivation means that statement. There is one derivation at most. That it has no number of rows
below zero leaves no text out: no text has a negative number. -/
theorem ofTokens?_ok_iff (tokens : List Token) (params : List Value) (s : Statement) :
    (ofTokens? tokens params = .ok s ↔ ∃ d : Derivation, d.tokens = tokens.map Token.capital ∧
      placeholders tokens = params.length ∧ d.statement params = s) ∧
    (∀ d d' : Derivation, d.tokens = tokens.map Token.capital →
      d'.tokens = tokens.map Token.capital → d = d') ∧
    (∀ sql, Token.ofChars? sql = .ok tokens → ∀ w, .number (.int w) ∈ tokens → 0 ≤ w.toInt) := by
  refine ⟨⟨derives_of_ofTokens?, ?_⟩, ?_, fun sql h w hw => nonneg_of_ofChars? h hw⟩
  · rintro ⟨d, htokens, hcount, rfl⟩
    exact ofTokens?_of_derivation d htokens hcount
  · intro d d' h h'
    exact Derivation.eq_of_tokens_eq (h.trans h'.symm)

example :
    read? "select * from [t] where [a] = ? or not [b] is null and [c] like ?".toList
      [.int 1, .text "x%"] =
    .ok ⟨.all, "t", some (.or (.compare (.column "a") .eq (.literal (.int 1)))
      (.and (.not (.isNull (.column "b") false)) (.like (.column "c") (.literal (.text "x%"))))),
      none⟩ := by
  rfl

end Statement

end SheetQuery.Sql
