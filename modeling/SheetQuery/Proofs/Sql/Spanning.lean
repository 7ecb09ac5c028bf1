import SheetQuery.Proofs.Sql.Grammar

/-!
# From one place of a reader to another

Two places of a reader span tokens when those tokens stand between them, words in letters of any
case, and a parameter has been taken for each placeholder. What a reader without nesting accepts is
exactly what its rule derives: it succeeds when its place and the one it gives back span the tokens
of a derivation, and the result is what the derivation means.

Main statements: `Cursor.simpleCondition_derives` and `Cursor.simpleCondition_accepts`,
`Cursor.selection_derives` and `Cursor.selection_accepts`.
-/

namespace SheetQuery.Sql

open Grammar

variable {c c' c'' : Cursor} {t : Token} {ts us : List Token} {k : Keyword}

/-! ## Tokens in capitals -/

theorem Token.capital_eq_iff {s : Token} (ht : ∀ word, t ≠ .word word) :
    s.capital = t ↔ s = t := by
  cases s with
  | word letters =>
      constructor
      · exact fun h => absurd h.symm (ht _)
      · exact fun h => absurd h.symm (ht _)
  | _ => exact Iff.rfl

theorem Token.capital_eq_keyword {s : Token} :
    s.capital = k.token ↔ ∃ letters, s = .word letters ∧ k.isWord letters = true := by
  cases s <;> simp [capital, Keyword.token, Keyword.isWord]

theorem placeholders_append (ts us : List Token) :
    placeholders (ts ++ us) = placeholders ts + placeholders us :=
  List.countP_append

/-! ## Spans -/

/-- Behind the first place stand those tokens, words in letters of any case. Their placeholders find
parameters, and the other place is behind them. -/
structure Spans (c : Cursor) (tokens : List Token) (c' : Cursor) : Prop where
  ahead : ∃ spelled, c.ahead = spelled ++ c'.ahead ∧ spelled.map Token.capital = tokens
  position : c'.position = c.position + tokens.length
  bound : placeholders tokens ≤ c.unbound.length
  unbound : c'.unbound = c.unbound.drop (placeholders tokens)

theorem Spans.refl (c : Cursor) : Spans c [] c :=
  ⟨⟨[], rfl, rfl⟩, rfl, Nat.zero_le _, rfl⟩

/-- What stands behind a place, in capitals. -/
def Cursor.rest (c : Cursor) : List Token :=
  c.ahead.map Token.capital

theorem Spans.rest_eq (h : Spans c ts c') : c.rest = ts ++ c'.rest := by
  obtain ⟨spelled, hahead, rfl⟩ := h.ahead
  rw [Cursor.rest, hahead, List.map_append]
  rfl

theorem Spans.length_le (h : Spans c ts c') : ts.length ≤ c.ahead.length := by
  obtain ⟨spelled, hahead, rfl⟩ := h.ahead
  rw [hahead, List.length_map, List.length_append]
  exact Nat.le_add_right _ _

theorem Spans.unbound_eq (h : Spans c ts c') (hts : placeholders ts = 0) :
    c'.unbound = c.unbound := by
  rw [h.unbound, hts, List.drop_zero]

/-- The parameters that are left are those from the next placeholder on. -/
theorem Spans.unbound_eq_drop {params : List Value} {n : Nat} (h : Spans c ts c')
    (hc : c.unbound = params.drop n) : c'.unbound = params.drop (n + placeholders ts) := by
  rw [h.unbound, hc, List.drop_drop]

theorem spans_append_iff : Spans c (ts ++ us) c'' ↔ ∃ c', Spans c ts c' ∧ Spans c' us c'' := by
  constructor
  · rintro ⟨⟨spelled, hahead, hmap⟩, hposition, hbound, hunbound⟩
    obtain ⟨spelled₁, spelled₂, rfl, rfl, rfl⟩ := List.map_eq_append_iff.mp hmap
    rw [placeholders_append] at hbound hunbound
    refine ⟨⟨spelled₂ ++ c''.ahead, c.position + spelled₁.length,
      c.unbound.drop (placeholders (spelled₁.map Token.capital))⟩, ?_, ?_⟩
    · exact ⟨⟨spelled₁, by rw [hahead, List.append_assoc], rfl⟩, by simp, by omega, rfl⟩
    · refine ⟨⟨spelled₂, rfl, rfl⟩, ?_, ?_, ?_⟩
      · simp only [hposition, List.length_append, List.length_map]
        omega
      · rw [List.length_drop]
        omega
      · rw [hunbound, List.drop_drop]
  · rintro ⟨c', ⟨⟨spelled₁, hahead₁, rfl⟩, hposition₁, hbound₁, hunbound₁⟩,
      ⟨spelled₂, hahead₂, rfl⟩, hposition₂, hbound₂, hunbound₂⟩
    refine ⟨⟨spelled₁ ++ spelled₂, ?_, List.map_append⟩, ?_, ?_, ?_⟩
    · rw [hahead₁, hahead₂, List.append_assoc]
    · rw [hposition₂, hposition₁, List.length_append, Nat.add_assoc]
    · rw [hunbound₁, List.length_drop] at hbound₂
      rw [placeholders_append]
      omega
    · rw [hunbound₂, hunbound₁, List.drop_drop, placeholders_append]

theorem spans_cons_iff : Spans c (t :: ts) c'' ↔ ∃ c', Spans c [t] c' ∧ Spans c' ts c'' := by
  rw [← List.singleton_append, spans_append_iff]

/-- The place behind tokens is one place. -/
theorem Spans.eq_past (h : Spans c ts c') :
    c' = ⟨c.ahead.drop ts.length, c.position + ts.length, c.unbound.drop (placeholders ts)⟩ := by
  obtain ⟨⟨spelled, hahead, rfl⟩, hposition, -, hunbound⟩ := h
  obtain ⟨ahead', position', unbound'⟩ := c'
  cases hposition
  cases hunbound
  rw [hahead, List.length_map, List.drop_left]
  rfl

theorem spans_nil_iff : Spans c [] c' ↔ c' = c := by
  constructor
  · exact fun h => h.eq_past
  · rintro rfl
    exact Spans.refl c'

/-- The first token behind a place is the first of those that it spans. -/
theorem Spans.capital_head {s : Token} {tail : List Token} (h : Spans c (t :: ts) c')
    (hahead : c.ahead = s :: tail) : s.capital = t := by
  have hrest := h.rest_eq
  rw [Cursor.rest, hahead, List.map_cons, List.cons_append] at hrest
  exact (List.cons.inj hrest).1

/-- A token that is no placeholder takes no parameter. -/
theorem spans_singleton_iff (ht : t.isPlaceholder = false) :
    Spans c [t] c' ↔ ∃ s tail, c.ahead = s :: tail ∧ s.capital = t ∧ c' = c.next := by
  have hnone : placeholders [t] = 0 := by simp [placeholders, ht]
  constructor
  · intro h
    obtain ⟨spelled, hahead, hmap⟩ := h.ahead
    obtain ⟨s, rfl, hs⟩ := List.map_eq_singleton_iff.mp hmap
    refine ⟨s, c'.ahead, hahead, hs, ?_⟩
    rw [h.eq_past, hnone, Cursor.next, List.length_singleton, List.drop_one, List.drop_zero]
  · rintro ⟨s, tail, hahead, hs, rfl⟩
    refine ⟨⟨[s], ?_, by simp [hs]⟩, rfl, ?_, ?_⟩
    · simp [hahead, Cursor.next]
    · rw [hnone]
      exact Nat.zero_le _
    · rw [hnone]
      rfl

/-- A token that is neither a word nor a placeholder stands as it is. -/
theorem spans_mark_iff (ht : t.isPlaceholder = false) (hw : ∀ word, t ≠ .word word) :
    Spans c [t] c' ↔ (∃ rest, c.ahead = t :: rest) ∧ c' = c.next := by
  rw [spans_singleton_iff ht]
  constructor
  · rintro ⟨s, rest, hahead, hs, rfl⟩
    exact ⟨⟨rest, (Token.capital_eq_iff hw).mp hs ▸ hahead⟩, rfl⟩
  · rintro ⟨⟨rest, hahead⟩, rfl⟩
    exact ⟨t, rest, hahead, (Token.capital_eq_iff hw).mpr rfl, rfl⟩

/-- A placeholder takes the next parameter. -/
theorem spans_placeholder_iff :
    Spans c [.placeholder] c' ↔ ∃ tail v unbound, c.ahead = .placeholder :: tail ∧
      c.unbound = v :: unbound ∧ c' = { c.next with unbound := unbound } := by
  constructor
  · intro h
    obtain ⟨spelled, hahead, hmap⟩ := h.ahead
    obtain ⟨s, rfl, hs⟩ := List.map_eq_singleton_iff.mp hmap
    obtain rfl := (Token.capital_eq_iff (by simp)).mp hs
    obtain ⟨v, unbound, hv⟩ := List.exists_cons_of_length_pos h.bound
    refine ⟨c'.ahead, v, unbound, hahead, hv, ?_⟩
    rw [h.eq_past, hv, Cursor.next, List.length_singleton, List.drop_one]
    rfl
  · rintro ⟨tail, v, unbound, hahead, hv, rfl⟩
    refine ⟨⟨[.placeholder], ?_, rfl⟩, rfl, ?_, ?_⟩
    · simp [hahead, Cursor.next]
    · rw [hv]
      exact Nat.succ_pos _
    · rw [hv]
      rfl

namespace Cursor

/-! ## Keywords and marks -/

theorem seesKeyword_iff : c.seesKeyword k = true ↔ c.rest.head? = some k.token := by
  unfold seesKeyword rest
  split
  · next letters tail hahead => simp [hahead, Token.capital, Keyword.token, Keyword.isWord]
  · next hne =>
      cases hahead : c.ahead with
      | nil => simp
      | cons s tail =>
          have hs : ∀ letters, s ≠ .word letters := fun letters h => hne letters tail (h ▸ hahead)
          simp [Token.capital_eq_keyword, hs]

theorem not_seesKeyword (h : c.rest.head? ≠ some k.token) : c.seesKeyword k = false :=
  Bool.eq_false_iff.mpr fun hsees => h (seesKeyword_iff.mp hsees)

theorem not_seesKeyword_of_spans (h : Spans c (t :: ts) c') (ht : t ≠ k.token) :
    ¬ c.seesKeyword k = true := by
  rw [seesKeyword_iff, h.rest_eq]
  exact fun hk => ht (Option.some.inj hk)

theorem spans_keyword_iff : Spans c [k.token] c' ↔ c.seesKeyword k = true ∧ c' = c.next := by
  rw [spans_singleton_iff rfl, seesKeyword_iff, rest]
  constructor
  · rintro ⟨s, tail, hahead, hs, rfl⟩
    exact ⟨by rw [hahead, List.map_cons, List.head?_cons, hs], rfl⟩
  · rintro ⟨hsees, rfl⟩
    rw [List.head?_map, Option.map_eq_some_iff] at hsees
    obtain ⟨s, hs, hk⟩ := hsees
    exact ⟨s, c.ahead.tail, (List.cons_head?_tail hs).symm, hk, rfl⟩

theorem spans_keyword (h : c.seesKeyword k = true) : Spans c [k.token] c.next :=
  spans_keyword_iff.mpr ⟨h, rfl⟩

theorem keyword_ok_iff : c.keyword k = .ok c' ↔ Spans c [k.token] c' := by
  rw [spans_keyword_iff]
  unfold keyword
  split
  · next hsees => simp [hsees, eq_comm]
  · next hsees => simp [hsees, wants]

theorem opening_ok_iff : c.opening = .ok c' ↔ Spans c [.opening] c' := by
  rw [spans_mark_iff rfl (by simp)]
  unfold opening
  split
  · next rest heq => simp [heq, eq_comm]
  · next hne => simpa [wants] using fun rest hahead => (hne rest hahead).elim

theorem closing_ok_iff : c.closing = .ok c' ↔ Spans c [.closing] c' := by
  rw [spans_mark_iff rfl (by simp)]
  unfold closing
  split
  · next rest heq => simp [heq, eq_comm]
  · next hne => simpa [wants] using fun rest hahead => (hne rest hahead).elim

theorem star_ok_iff : c.star = .ok c' ↔ Spans c [.star] c' := by
  rw [spans_mark_iff rfl (by simp)]
  unfold star
  split
  · next rest heq => simp [heq, eq_comm]
  · next hne => simpa [wants] using fun rest hahead => (hne rest hahead).elim

theorem name_ok_iff {name : String} : c.name = .ok (name, c') ↔ Spans c [.name name.toList] c' := by
  rw [spans_mark_iff rfl (by simp)]
  unfold Cursor.name
  split
  · next letters rest heq =>
      obtain ⟨letters', rfl⟩ := name.exists_eq_ofList
      simp [heq, String.ofList_inj, eq_comm]
  · next hne => simpa [wants] using fun rest hahead => (hne _ rest hahead).elim

theorem comparisonSign_ok_iff {op : Comparison} :
    c.comparisonSign = .ok (op, c') ↔ Spans c [.comparison op] c' := by
  rw [spans_mark_iff rfl (by simp)]
  unfold comparisonSign
  split
  · next sign rest heq => simp [heq, eq_comm]
  · next hne => simpa [wants] using fun rest hahead => (hne _ rest hahead).elim

theorem argument_ok_iff {column : String} :
    c.argument = .ok (column, c') ↔ Spans c [.opening, .name column.toList, .closing] c' := by
  unfold argument
  simp only [bind_eq_ok_iff, Prod.exists, opening_ok_iff, name_ok_iff, closing_ok_iff, pure,
    Except.pure, Except.ok.injEq, Prod.mk.injEq]
  rw [spans_cons_iff]
  constructor
  · rintro ⟨c₁, hopening, name, c₂, hname, c₃, hclosing, rfl, rfl⟩
    exact ⟨c₁, hopening, spans_cons_iff.mpr ⟨c₂, hname, hclosing⟩⟩
  · rintro ⟨c₁, hopening, h⟩
    obtain ⟨c₂, hname, hclosing⟩ := spans_cons_iff.mp h
    exact ⟨c₁, hopening, column, c₂, hname, c', hclosing, rfl, rfl⟩

/-! ## Conditions without others inside -/

section Conditions

variable {params : List Value} {n : Nat}

/-- The parameter that is taken next is the one at the position of the placeholder. -/
theorem getElem?_of_unbound (hc : c.unbound = params.drop n) {v : Value} {unbound : List Value}
    (hv : c.unbound = v :: unbound) : params[n]? = some v := by
  rw [← List.head?_drop, ← hc, hv, List.head?_cons]

theorem operand_derives (hc : c.unbound = params.drop n) {o : Operand}
    (h : c.operand = .ok (o, c')) :
    ∃ s : Side, Spans c [s.token] c' ∧ s.operand params n = o := by
  unfold operand at h
  split at h
  · next letters rest hahead =>
      cases h
      refine ⟨.name (String.ofList letters), ?_, rfl⟩
      rw [Side.token, String.toList_ofList]
      exact (spans_mark_iff rfl (by simp)).mpr ⟨⟨rest, hahead⟩, rfl⟩
  · next rest hahead =>
      unfold bind at h
      split at h
      · next v unbound hv =>
          cases h
          refine ⟨.placeholder, spans_placeholder_iff.mpr ⟨rest, v, unbound, hahead, hv, rfl⟩, ?_⟩
          rw [Side.operand, getElem?_of_unbound hc hv, Option.getD_some]
      · cases h
  · next letters rest hahead =>
      cases h
      refine ⟨.text (String.ofList letters), ?_, rfl⟩
      rw [Side.token, String.toList_ofList]
      exact (spans_mark_iff rfl (by simp)).mpr ⟨⟨rest, hahead⟩, rfl⟩
  · next v rest hahead =>
      cases h
      refine ⟨.number v, ?_, rfl⟩
      exact (spans_mark_iff rfl (by simp [Side.token])).mpr ⟨⟨rest, hahead⟩, rfl⟩
  · next letters rest hahead =>
      split at h
      · next hword =>
          cases h
          exact ⟨.null, (spans_singleton_iff rfl).mpr
            ⟨_, rest, hahead, Token.capital_eq_keyword.mpr ⟨letters, rfl, hword⟩, rfl⟩, rfl⟩
      · cases h
  · cases h

theorem operand_accepts (hc : c.unbound = params.drop n) {s : Side} (hs : Spans c [s.token] c') :
    c.operand = .ok (s.operand params n, c') := by
  cases s with
  | name column =>
      obtain ⟨⟨rest, hahead⟩, rfl⟩ := (spans_mark_iff rfl (by simp [Side.token])).mp hs
      simp [operand, hahead, Side.token, Side.operand]
  | placeholder =>
      obtain ⟨rest, v, unbound, hahead, hv, rfl⟩ := spans_placeholder_iff.mp hs
      simp [operand, hahead, bind, hv, Side.operand, getElem?_of_unbound hc hv]
  | text content =>
      obtain ⟨⟨rest, hahead⟩, rfl⟩ := (spans_mark_iff rfl (by simp [Side.token])).mp hs
      simp [operand, hahead, Side.token, Side.operand]
  | number v =>
      obtain ⟨⟨rest, hahead⟩, rfl⟩ := (spans_mark_iff rfl (by simp [Side.token])).mp hs
      simp [operand, hahead, Side.token, Side.operand]
  | null =>
      obtain ⟨s, rest, hahead, hnull, rfl⟩ := (spans_singleton_iff rfl).mp hs
      obtain ⟨letters, rfl, hword⟩ := Token.capital_eq_keyword.mp hnull
      simp [operand, hahead, hword, Side.operand]

theorem nullTest_ok_iff {left : Operand} {x : Condition} :
    c.nullTest left = .ok (x, c') ↔ ∃ negated : Bool,
      Spans c ((if negated then [Keyword.not.token] else []) ++ [Keyword.null.token]) c' ∧
        .isNull left negated = x := by
  constructor
  · intro h
    unfold nullTest skipKeyword at h
    by_cases hnot : c.seesKeyword .not = true
    · rw [if_pos hnot] at h
      obtain ⟨c₁, hnull, h⟩ := bind_eq_ok_iff.mp h
      cases h
      exact ⟨true, spans_cons_iff.mpr ⟨c.next, spans_keyword hnot, keyword_ok_iff.mp hnull⟩,
        rfl⟩
    · rw [if_neg hnot] at h
      obtain ⟨c₁, hnull, h⟩ := bind_eq_ok_iff.mp h
      cases h
      exact ⟨false, keyword_ok_iff.mp hnull, rfl⟩
  · rintro ⟨negated, h, rfl⟩
    cases negated with
    | true =>
        obtain ⟨c₁, hnot, hnull⟩ := spans_cons_iff.mp h
        obtain ⟨hsees, rfl⟩ := spans_keyword_iff.mp hnot
        simp [nullTest, skipKeyword, hsees, keyword_ok_iff.mpr hnull, pure, Except.pure]
    | false =>
        have hnull : Spans c [Keyword.null.token] c' := h
        have hsees : ¬ c.seesKeyword .not = true :=
          not_seesKeyword_of_spans hnull (by simp [Keyword.token_inj])
        simp [nullTest, skipKeyword, hsees, keyword_ok_iff.mpr hnull, pure, Except.pure]

theorem simpleCondition_derives (hc : c.unbound = params.drop n) {x : Condition}
    (h : c.simpleCondition = .ok (x, c')) :
    ∃ s : Simple, Spans c s.tokens c' ∧ s.condition params n = x := by
  obtain ⟨⟨l, c₁⟩, hl, h⟩ := bind_eq_ok_iff.mp h
  obtain ⟨left, hleft, rfl⟩ := operand_derives hc hl
  have hc₁ := hleft.unbound_eq_drop hc
  dsimp only at h
  split at h
  · next his =>
      obtain ⟨negated, hnull, rfl⟩ := nullTest_ok_iff.mp h
      exact ⟨.isNull left negated, spans_cons_iff.mpr ⟨c₁, hleft, spans_cons_iff.mpr
        ⟨c₁.next, spans_keyword his, hnull⟩⟩, rfl⟩
  · split at h
    · next hlike =>
        obtain ⟨⟨r, c₂⟩, hr, h⟩ := bind_eq_ok_iff.mp h
        cases h
        obtain ⟨pattern, hpattern, rfl⟩ := operand_derives (c := c₁.next) hc₁ hr
        exact ⟨.like left pattern, spans_cons_iff.mpr ⟨c₁, hleft, spans_cons_iff.mpr
          ⟨c₁.next, spans_keyword hlike, hpattern⟩⟩, rfl⟩
    · obtain ⟨⟨op, c₂⟩, hop, h⟩ := bind_eq_ok_iff.mp h
      obtain ⟨⟨r, c₃⟩, hr, h⟩ := bind_eq_ok_iff.mp h
      cases h
      have hop := comparisonSign_ok_iff.mp hop
      obtain ⟨right, hright, rfl⟩ := operand_derives (hop.unbound_eq_drop hc₁) hr
      exact ⟨.compare left op right, spans_cons_iff.mpr ⟨c₁, hleft, spans_cons_iff.mpr
        ⟨c₂, hop, hright⟩⟩, rfl⟩

/-- **A condition without others inside is read as what it means.** The token behind the first side
decides how the reader goes on. -/
theorem simpleCondition_accepts (hc : c.unbound = params.drop n) {s : Simple}
    (h : Spans c s.tokens c') : c.simpleCondition = .ok (s.condition params n, c') := by
  cases s with
  | isNull side negated =>
      obtain ⟨c₁, hside, h⟩ := spans_cons_iff.mp h
      obtain ⟨c₂, his, hnull⟩ := spans_cons_iff.mp h
      obtain ⟨hsees, rfl⟩ := spans_keyword_iff.mp his
      have htest : c₁.next.nullTest (side.operand params n) =
          .ok (.isNull (side.operand params n) negated, c') :=
        nullTest_ok_iff.mpr ⟨negated, hnull, rfl⟩
      simp only [simpleCondition, operand_accepts hc hside, ok_bind, if_pos hsees, htest]
      rfl
  | like target pattern =>
      obtain ⟨c₁, htarget, h⟩ := spans_cons_iff.mp h
      obtain ⟨c₂, hlike, hpattern⟩ := spans_cons_iff.mp h
      have his := not_seesKeyword_of_spans (k := .is) hlike (by simp [Keyword.token_inj])
      obtain ⟨hsees, rfl⟩ := spans_keyword_iff.mp hlike
      have hright := operand_accepts (c := c₁.next) (htarget.unbound_eq_drop hc) hpattern
      simp only [simpleCondition, operand_accepts hc htarget, ok_bind, if_neg his, if_pos hsees,
        hright]
      rfl
  | compare left op right =>
      obtain ⟨c₁, hleft, h⟩ := spans_cons_iff.mp h
      obtain ⟨c₂, hop, hright⟩ := spans_cons_iff.mp h
      have his := not_seesKeyword_of_spans (k := .is) hop (by simp [Keyword.token])
      have hlike := not_seesKeyword_of_spans (k := .like) hop (by simp [Keyword.token])
      have hright :=
        operand_accepts (hop.unbound_eq_drop (hleft.unbound_eq_drop hc)) hright
      simp only [simpleCondition, operand_accepts hc hleft, ok_bind, if_neg his, if_neg hlike,
        comparisonSign_ok_iff.mpr hop, hright]
      rfl

end Conditions

/-! ## Selections -/

theorem rowCount_ok_iff {m : Nat} : c.rowCount = .ok (m, c') ↔
    m < 2 ^ 63 ∧ Spans c [.number (.int (Int64.ofNat m))] c' := by
  rw [spans_mark_iff rfl (by simp)]
  constructor
  · intro h
    unfold rowCount at h
    split at h
    · next w rest hahead =>
        split at h
        · next hw =>
            cases h
            have hlt : w.toInt < 2 ^ 63 := w.toInt_lt
            have hword : Int64.ofNat w.toInt.toNat = w := by
              rw [← Int64.toInt_inj, Int64.toInt_ofNat_of_lt (by omega), Int.toNat_of_nonneg hw]
            exact ⟨by omega, ⟨rest, by rw [hword, hahead]⟩, rfl⟩
        · cases h
    · cases h
  · rintro ⟨hm, ⟨rest, hahead⟩, rfl⟩
    have hword : (Int64.ofNat m).toInt = m := Int64.toInt_ofNat_of_lt hm
    simp [rowCount, hahead, hword]

/-- The word of a function tells what is selected. -/
theorem tokens_of_functionSelection? {function column : String} {selection : Selection}
    (h : functionSelection? function.toList column = .ok selection) :
    selection.IsCounted ∧ selection.tokens = Selection.callTokens function column := by
  unfold functionSelection? at h
  rw [String.ofList_toList] at h
  split at h <;> cases h <;> exact ⟨trivial, rfl⟩

theorem functionCall_ok_iff {selection : Selection} : c.functionCall = .ok (selection, c') ↔
    ∃ function column, functionSelection? function.toList column = .ok selection ∧
      Spans c (Selection.callTokens function column) c' := by
  constructor
  · intro h
    unfold functionCall at h
    split at h
    · next letters rest hahead =>
        obtain ⟨⟨column, c₁⟩, hargument, h⟩ := bind_eq_ok_iff.mp h
        obtain ⟨found, hfound, h⟩ := bind_eq_ok_iff.mp h
        cases h
        refine ⟨String.ofList (Text.upperAscii letters), column, ?_, spans_cons_iff.mpr
          ⟨c.next, (spans_singleton_iff rfl).mpr ⟨_, rest, hahead, ?_, rfl⟩,
            argument_ok_iff.mp hargument⟩⟩
        · rw [String.toList_ofList]
          exact hfound
        · rw [String.toList_ofList]
          rfl
    · cases h
  · rintro ⟨function, column, hfound, h⟩
    obtain ⟨c₁, hword, hargument⟩ := spans_cons_iff.mp h
    obtain ⟨s, rest, hahead, hs, rfl⟩ := (spans_singleton_iff rfl).mp hword
    cases s with
    | word letters =>
      have hletters : Text.upperAscii letters = function.toList := Token.word.inj hs
      simp only [functionCall, hahead, argument_ok_iff.mpr hargument, ok_bind, hletters, hfound]
      rfl
    | _ => cases hs

theorem selection_of_spans_word {letters : List Char} (h : Spans c (.word letters :: ts) c') :
    c.selection =
      if c.seesKeyword .top then do
        let (n, c) ← c.next.rowCount
        let c ← c.star
        return (.top n, c)
      else if c.seesKeyword .count then do
        let c ← c.next.opening
        let c ← c.star
        let c ← c.closing
        return (.count, c)
      else c.functionCall := by
  unfold Cursor.selection
  split
  · next rest hahead => exact Token.noConfusion (h.capital_head hahead)
  · rfl

/-- No function of a column has the word of another kind of selection. -/
theorem selection_of_spans_call {function column : String} {selection : Selection}
    (hfound : functionSelection? function.toList column = .ok selection)
    (h : Spans c (Selection.callTokens function column) c') :
    c.selection = .ok (selection, c') := by
  have hne : ∀ k : Keyword, functionSelection? k.chars column ≠ .ok selection →
      ¬ c.seesKeyword k = true := by
    intro k hk
    refine not_seesKeyword_of_spans h fun hword => hk ?_
    rw [← Token.word.inj hword]
    exact hfound
  rw [selection_of_spans_word h, if_neg (hne .top nofun), if_neg (hne .count nofun)]
  exact functionCall_ok_iff.mpr ⟨function, column, hfound, h⟩

theorem selection_derives {selection : Selection} (h : c.selection = .ok (selection, c')) :
    selection.IsCounted ∧ Spans c selection.tokens c' := by
  unfold Cursor.selection at h
  split at h
  · next rest hahead =>
      cases h
      exact ⟨trivial, (spans_mark_iff rfl (by simp)).mpr ⟨⟨rest, hahead⟩, rfl⟩⟩
  · split at h
    · next htop =>
        obtain ⟨⟨m, c₁⟩, hcount, h⟩ := bind_eq_ok_iff.mp h
        obtain ⟨c₂, hstar, h⟩ := bind_eq_ok_iff.mp h
        cases h
        obtain ⟨hm, hcount⟩ := rowCount_ok_iff.mp hcount
        exact ⟨hm, spans_cons_iff.mpr ⟨c.next, spans_keyword htop,
          spans_cons_iff.mpr ⟨c₁, hcount, star_ok_iff.mp hstar⟩⟩⟩
    · split at h
      · next hcount =>
          obtain ⟨c₁, hopening, h⟩ := bind_eq_ok_iff.mp h
          obtain ⟨c₂, hstar, h⟩ := bind_eq_ok_iff.mp h
          obtain ⟨c₃, hclosing, h⟩ := bind_eq_ok_iff.mp h
          cases h
          exact ⟨trivial, spans_cons_iff.mpr ⟨c.next, spans_keyword hcount,
            spans_cons_iff.mpr ⟨c₁, opening_ok_iff.mp hopening, spans_cons_iff.mpr
              ⟨c₂, star_ok_iff.mp hstar, closing_ok_iff.mp hclosing⟩⟩⟩⟩
      · obtain ⟨function, column, hfound, hspans⟩ := functionCall_ok_iff.mp h
        obtain ⟨hcounted, htokens⟩ := tokens_of_functionSelection? hfound
        exact ⟨hcounted, htokens ▸ hspans⟩

/-- **A selection is read as itself.** -/
theorem selection_accepts {selection : Selection} (hcounted : selection.IsCounted)
    (h : Spans c selection.tokens c') : c.selection = .ok (selection, c') := by
  cases selection with
  | all =>
      obtain ⟨⟨rest, hahead⟩, rfl⟩ := (spans_mark_iff rfl (by simp)).mp h
      simp [Cursor.selection, hahead]
  | top m =>
      obtain ⟨c₁, htop, htail⟩ := spans_cons_iff.mp h
      obtain ⟨c₂, hcount, hstar⟩ := spans_cons_iff.mp htail
      obtain ⟨hsees, rfl⟩ := spans_keyword_iff.mp htop
      simp only [selection_of_spans_word h, if_pos hsees,
        rowCount_ok_iff.mpr ⟨hcounted, hcount⟩, ok_bind, star_ok_iff.mpr hstar]
      rfl
  | count =>
      obtain ⟨c₁, hcount, htail⟩ := spans_cons_iff.mp h
      obtain ⟨c₂, hopening, htail⟩ := spans_cons_iff.mp htail
      obtain ⟨c₃, hstar, hclosing⟩ := spans_cons_iff.mp htail
      have htop := not_seesKeyword_of_spans (k := .top) h (by simp [Keyword.token_inj])
      obtain ⟨hsees, rfl⟩ := spans_keyword_iff.mp hcount
      simp only [selection_of_spans_word h, if_neg htop, if_pos hsees,
        opening_ok_iff.mpr hopening, ok_bind, star_ok_iff.mpr hstar, closing_ok_iff.mpr hclosing]
      rfl
  | distinct column => exact selection_of_spans_call rfl h
  | aggregate function column =>
      cases function with
      | sum => exact selection_of_spans_call rfl h
      | min => exact selection_of_spans_call rfl h
      | max => exact selection_of_spans_call rfl h
      | average => exact selection_of_spans_call rfl h

end Cursor

end SheetQuery.Sql
