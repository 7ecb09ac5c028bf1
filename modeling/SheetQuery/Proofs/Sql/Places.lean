import SheetQuery.Proofs.Outcome
import SheetQuery.Sql.Parser

/-!
# Reading from another place

The place of a cursor is there for messages. A reader that succeeds gives the same from any other
place, so what stands in front of a part of a statement cannot change how the part is read.

Main statement: `Statement.tail_moved`, for everything behind the selection.
-/

namespace SheetQuery.Sql

namespace Cursor

/-- The cursor with a number of tokens more behind it. -/
def moved (k : Nat) (c : Cursor) : Cursor :=
  { c with position := c.position + k }

@[simp] theorem moved_ahead (k : Nat) (c : Cursor) : (c.moved k).ahead = c.ahead := rfl

@[simp] theorem moved_unbound (k : Nat) (c : Cursor) : (c.moved k).unbound = c.unbound := rfl

@[simp] theorem moved_seesKeyword (k : Nat) (c : Cursor) (word : Keyword) :
    (c.moved k).seesKeyword word = c.seesKeyword word := rfl

@[simp] theorem moved_next (k : Nat) (c : Cursor) : (c.moved k).next = c.next.moved k := by
  simp only [next, moved, Cursor.mk.injEq, true_and, and_true]
  omega

/-- A reader that gives the same from every place. -/
def Steady {α : Type} (reader : Cursor → Except Fault (α × Cursor)) : Prop :=
  ∀ {c c' : Cursor} {a : α} (k : Nat), reader c = .ok (a, c') →
    reader (c.moved k) = .ok (a, c'.moved k)

theorem moved_keyword {c c' : Cursor} {word : Keyword} (k : Nat) (h : c.keyword word = .ok c') :
    (c.moved k).keyword word = .ok (c'.moved k) := by
  simp only [keyword] at h ⊢
  split at h
  · next hs =>
      cases h
      simp [hs]
  · cases h

theorem moved_closing {c c' : Cursor} (k : Nat) (h : c.closing = .ok c') :
    (c.moved k).closing = .ok (c'.moved k) := by
  simp only [closing] at h
  split at h
  · next rest hahead =>
      cases h
      simp [closing, hahead]
  · cases h

theorem steady_name : Steady name := by
  intro c c' a k h
  simp only [name] at h
  split at h
  · next text rest hahead =>
      cases h
      simp [name, hahead]
  · cases h

theorem steady_bind : Steady bind := by
  intro c c' a k h
  simp only [bind] at h
  split at h
  · next value unbound hunbound =>
      cases h
      simp only [bind, moved_unbound, hunbound, moved_next]
      rfl
  · cases h

theorem steady_operand : Steady operand := by
  intro c c' a k h
  simp only [operand] at h
  split at h
  · next text rest hahead =>
      cases h
      simp [operand, hahead]
  · next rest hahead =>
      have hb := steady_bind k h
      simp [operand, hahead, hb]
  · next text rest hahead =>
      cases h
      simp [operand, hahead]
  · next value rest hahead =>
      cases h
      simp [operand, hahead]
  · next word rest hahead =>
      split at h
      · next hword =>
          cases h
          simp [operand, hahead, hword]
      · cases h
  · cases h

theorem steady_comparisonSign : Steady comparisonSign := by
  intro c c' a k h
  simp only [comparisonSign] at h
  split at h
  · next op rest hahead =>
      cases h
      simp [comparisonSign, hahead]
  · cases h

theorem moved_skipKeyword (k : Nat) (c : Cursor) (word : Keyword) :
    (c.moved k).skipKeyword word =
      ((c.skipKeyword word).1, (c.skipKeyword word).2.moved k) := by
  by_cases h : c.seesKeyword word = true <;> simp [skipKeyword, h]

theorem steady_nullTest (left : Operand) : Steady (nullTest left) := by
  have hnull : ∀ c, nullTest left c = (c.skipKeyword .not).2.keyword .null >>= fun c' =>
      .ok (.isNull left (c.skipKeyword .not).1, c') := fun _ => rfl
  intro c c' a k h
  rw [hnull] at h ⊢
  obtain ⟨c₁, hk, h⟩ := bind_eq_ok_iff.mp h
  cases h
  rw [moved_skipKeyword, moved_keyword k hk, ok_bind]

theorem steady_simpleCondition : Steady simpleCondition := by
  intro c c' a k h
  obtain ⟨⟨left, c₁⟩, hleft, h⟩ := bind_eq_ok_iff.mp h
  simp only [simpleCondition, steady_operand k hleft, ok_bind, moved_seesKeyword, moved_next]
  -- which test follows is decided by the tokens ahead, which are the same from both places
  dsimp only at h
  split at h
  · next his =>
      rw [if_pos his]
      exact steady_nullTest left k h
  · next his =>
      rw [if_neg his]
      split at h
      · next hlike =>
          rw [if_pos hlike]
          obtain ⟨⟨pattern, c₂⟩, hpattern, h⟩ := bind_eq_ok_iff.mp h
          cases h
          simp only [steady_operand k hpattern, ok_bind]
          rfl
      · next hlike =>
          rw [if_neg hlike]
          obtain ⟨⟨op, c₂⟩, hop, h⟩ := bind_eq_ok_iff.mp h
          obtain ⟨⟨right, c₃⟩, hright, h⟩ := bind_eq_ok_iff.mp h
          cases h
          simp only [steady_comparisonSign k hop, steady_operand k hright, ok_bind]
          rfl

/-! ## Conditions that nest -/

section Connectives

variable {item : Cursor → Except Fault (Condition × Cursor)} {word : Keyword}
  {join : Condition → Condition → Condition}

theorem steady_chain (hitem : Steady item) (n : Nat) (left : Condition) :
    Steady (chain word join item n left) := by
  induction n generalizing left with
  | zero =>
      intro c c' a k h
      cases h
      rfl
  | succ n ih =>
      intro c c' a k h
      rw [chain] at h ⊢
      rw [moved_seesKeyword]
      split at h
      · next hword =>
          rw [if_pos hword]
          obtain ⟨⟨right, c₁⟩, hright, h⟩ := bind_eq_ok_iff.mp h
          simp only [moved_next, hitem k hright, ok_bind]
          exact ih _ k h
      · next hword =>
          rw [if_neg hword]
          cases h
          rfl

theorem steady_chained (hitem : Steady item) (n : Nat) : Steady (chained word join item n) := by
  intro c c' a k h
  obtain ⟨⟨left, c₁⟩, hleft, h⟩ := bind_eq_ok_iff.mp h
  simp only [chained, hitem k hleft, ok_bind]
  exact steady_chain hitem n left k h

theorem steady_alternatives (hitem : Steady item) (n : Nat) : Steady (alternatives item n) :=
  steady_chained (steady_chained hitem n) n

theorem steady_enclosed (hitem : Steady item) : Steady (enclosed item) := by
  intro c c' a k h
  obtain ⟨⟨condition, c₁⟩, hcondition, h⟩ := bind_eq_ok_iff.mp h
  obtain ⟨c₂, hclosing, h⟩ := bind_eq_ok_iff.mp h
  cases h
  simp only [enclosed, hitem k hcondition, moved_closing k hclosing, ok_bind]
  rfl

end Connectives

/-- A condition is the same from every place. By induction on the depth. -/
theorem steady_unit (n : Nat) : Steady (unit n) := by
  induction n with
  | zero =>
      intro c c' a k h
      cases h
  | succ n ih =>
      intro c c' a k h
      rw [unit] at h ⊢
      rw [moved_seesKeyword]
      split at h
      · next hnot =>
          rw [if_pos hnot]
          obtain ⟨⟨condition, c₁⟩, hcondition, h⟩ := bind_eq_ok_iff.mp h
          cases h
          simp only [moved_next, ih k hcondition, ok_bind]
          rfl
      · next hnot =>
          rw [if_neg hnot, moved_ahead]
          split at h
          · rw [moved_next]
            exact steady_enclosed (steady_alternatives ih n) k h
          · exact steady_simpleCondition k h

theorem steady_condition : Steady condition := by
  intro c c' a k h
  exact steady_alternatives (steady_unit _) _ k h

/-! ## Clauses -/

theorem steady_whereClause : Steady whereClause := by
  intro c c' a k h
  simp only [whereClause, moved_seesKeyword, moved_next] at h ⊢
  split at h
  · next hwhere =>
      rw [if_pos hwhere]
      obtain ⟨⟨condition, c₁⟩, hcondition, h⟩ := bind_eq_ok_iff.mp h
      cases h
      simp only [steady_condition k hcondition, ok_bind]
      rfl
  · next hwhere =>
      rw [if_neg hwhere]
      cases h
      rfl

theorem moved_direction (k : Nat) (c : Cursor) :
    (c.moved k).direction = (c.direction.1, c.direction.2.moved k) := by
  simp only [direction, moved_seesKeyword, moved_skipKeyword]
  split <;> simp

theorem steady_orderClause : Steady orderClause := by
  intro c c' a k h
  simp only [orderClause, moved_seesKeyword, moved_next] at h ⊢
  split at h
  · next horder =>
      rw [if_pos horder]
      obtain ⟨c₁, hby, h⟩ := bind_eq_ok_iff.mp h
      obtain ⟨⟨column, c₂⟩, hname, h⟩ := bind_eq_ok_iff.mp h
      cases h
      simp only [moved_keyword k hby, steady_name k hname, ok_bind, moved_direction]
      rfl
  · next horder =>
      rw [if_neg horder]
      cases h
      rfl

theorem moved_ending {c : Cursor} {parameters : Nat} (k : Nat) (h : c.ending parameters = .ok ()) :
    (c.moved k).ending parameters = .ok () := by
  unfold ending at h ⊢
  split at h
  · cases h
  · next hahead =>
      rw [moved_ahead, if_neg hahead]
      exact h

end Cursor

/-! ## Statements -/

/-- Everything of a statement that is read behind its selection: the table, the condition and the
ordering. -/
structure Statement.Tail where
  table : String
  condition : Option Condition
  orderBy : Option (String × Direction)

/-- Reads what stands behind the selection of a statement. -/
def Statement.tail (parameters : Nat) (c : Cursor) : Except Fault Tail := do
  let c ← c.keyword .from
  let (table, c) ← c.name
  let (condition, c) ← c.whereClause
  let (orderBy, c) ← c.orderClause
  c.ending parameters
  return ⟨table, condition, orderBy⟩

theorem Statement.tail_moved {parameters : Nat} {c : Cursor} {t : Tail} (k : Nat)
    (h : tail parameters c = .ok t) : tail parameters (c.moved k) = .ok t := by
  obtain ⟨c₁, hfrom, h⟩ := bind_eq_ok_iff.mp h
  obtain ⟨⟨table, c₂⟩, htable, h⟩ := bind_eq_ok_iff.mp h
  obtain ⟨⟨condition, c₃⟩, hcondition, h⟩ := bind_eq_ok_iff.mp h
  obtain ⟨⟨orderBy, c₄⟩, horder, h⟩ := bind_eq_ok_iff.mp h
  obtain ⟨u, hending, h⟩ := bind_eq_ok_iff.mp h
  have hfrom' := Cursor.moved_keyword k hfrom
  simp only [tail, hfrom', Cursor.steady_name k htable, Cursor.steady_whereClause k hcondition,
    Cursor.steady_orderClause k horder, Cursor.moved_ending k hending, ok_bind]
  exact h

/-- A statement is its selection and its tail. -/
theorem Statement.ofTokens?_eq (tokens : List Token) (params : List Value) :
    ofTokens? tokens params = (do
      let c ← (⟨tokens, 0, params⟩ : Cursor).keyword .select
      let (selection, c) ← c.selection
      let t ← tail params.length c
      return ⟨selection, t.table, t.condition, t.orderBy⟩) := by
  simp only [ofTokens?, tail, bind_assoc]
  rfl

end SheetQuery.Sql
