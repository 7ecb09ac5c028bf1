import SheetQuery.Proofs.Filter.Complement

/-!
# Predicates spelled in another way

Two spellings of a predicate differ in nothing that a statement shows: conversions stand anywhere or
nowhere, and a comparison of a column with something else is written from either end. Such changes
may be made at any number of nodes of a tree, one inside another.

What a node contributes to the filter around it depends on the node that it stands below: a column
gives its name, a constant its value, a test for emptiness its column, a predicate its filter. All of
these are carried through together (`Expr.ReadsAlike`), so the induction goes over the changes and
not over the two trees.

Main statement: spelling does not change the filter, nor whether there is one
(`Filter.translation_of_respelled`).
-/

namespace SheetQuery

open Sql

namespace Expr

/-- **The same expression in another spelling.** The least congruence that passes through
conversions and turns around comparisons with a column on one side. -/
inductive Respelled : Expr → Expr → Prop where
  | refl (e : Expr) : Respelled e e
  | symm {e e' : Expr} (h : Respelled e e') : Respelled e' e
  | trans {e e' e'' : Expr} (h : Respelled e e') (h' : Respelled e' e'') : Respelled e e''
  | unconvert (kind : Kind) (e : Expr) : Respelled (.convert kind e) e
  | flip (op : Comparison) {l r : Expr} (h : l.isColumnAccess ≠ r.isColumnAccess) :
      Respelled (.binary (.compare op) l r) (.binary (.compare op.flipped) r l)
  | binary (op : BinaryOp) {l l' r r' : Expr} (hl : Respelled l l') (hr : Respelled r r') :
      Respelled (.binary op l r) (.binary op l' r')
  | not {e e' : Expr} (h : Respelled e e') : Respelled (.not e) (.not e')
  | target (test : TextTest) {e e' : Expr} (h : Respelled e e') (argument : Option Expr) :
      Respelled (.test test e argument) (.test test e' argument)
  | argument (test : TextTest) (target : Expr) {e e' : Expr} (h : Respelled e e') :
      Respelled (.test test target (some e)) (.test test target (some e'))
  | apply (function : TextFunction) {e e' : Expr} (h : Respelled e e') :
      Respelled (.apply function e) (.apply function e')
  | convert (kind : Kind) {e e' : Expr} (h : Respelled e e') :
      Respelled (.convert kind e) (.convert kind e')
  | field (before after : List (String × Expr)) (name : String) {e e' : Expr}
      (h : Respelled e e') :
      Respelled (.record (before ++ (name, e) :: after)) (.record (before ++ (name, e') :: after))

/-- **Nothing that a filter reads off an expression tells the two apart.** -/
structure ReadsAlike (mapper : Mapper) (shape : ItemShape) (e e' : Expr) : Prop where
  access : e.isColumnAccess = e'.isColumnAccess
  names : ∀ column, e.Names mapper shape column ↔ e'.Names mapper shape column
  literal : ∀ v, e.IsLiteral v ↔ e'.IsLiteral v
  isTest : e.emptinessTarget? = none ↔ e'.emptinessTarget? = none
  tests : ∀ column, e.TestsEmptiness mapper shape column ↔ e'.TestsEmptiness mapper shape column
  filter : ∀ f, Filter.ofExpr mapper shape e = .ok f ↔ Filter.ofExpr mapper shape e' = .ok f

/-- The outermost node is neither a column nor a constant, and no conversion either. -/
def IsCompound (e : Expr) : Prop :=
  e.unwrapped = e ∧ e.isColumnAccess = false ∧ ∀ v, e ≠ .literal v

section

variable {mapper : Mapper} {shape : ItemShape} {e e' e'' : Expr}

/-! ## Reading alike -/

theorem ReadsAlike.refl (e : Expr) : e.ReadsAlike mapper shape e :=
  ⟨rfl, fun _ => Iff.rfl, fun _ => Iff.rfl, Iff.rfl, fun _ => Iff.rfl, fun _ => Iff.rfl⟩

theorem ReadsAlike.symm (h : e.ReadsAlike mapper shape e') : e'.ReadsAlike mapper shape e :=
  ⟨h.access.symm, fun c => (h.names c).symm, fun v => (h.literal v).symm, h.isTest.symm,
    fun c => (h.tests c).symm, fun f => (h.filter f).symm⟩

theorem ReadsAlike.trans (h : e.ReadsAlike mapper shape e')
    (h' : e'.ReadsAlike mapper shape e'') : e.ReadsAlike mapper shape e'' :=
  ⟨h.access.trans h'.access, fun c => (h.names c).trans (h'.names c),
    fun v => (h.literal v).trans (h'.literal v), h.isTest.trans h'.isTest,
    fun c => (h.tests c).trans (h'.tests c), fun f => (h.filter f).trans (h'.filter f)⟩

theorem names_convert (kind : Kind) {column : String} :
    (Expr.convert kind e).Names mapper shape column ↔ e.Names mapper shape column := by
  rw [← resolveColumn_eq_ok_iff, ← resolveColumn_eq_ok_iff, resolveColumn_convert]

/-- A conversion leaves all that is read as it is. -/
theorem readsAlike_convert (kind : Kind) (e : Expr) :
    (Expr.convert kind e).ReadsAlike mapper shape e where
  access := by simp only [isColumnAccess, unwrapped_convert]
  names _ := names_convert kind
  literal v := by rw [isLiteral_iff, isLiteral_iff, unwrapped_convert]
  isTest := by rw [emptinessTarget?_convert]
  tests column := by simp only [TestsEmptiness, emptinessTarget?_convert]
  filter f := by rw [Filter.ofExpr]

theorem IsCompound.not_names (h : e.IsCompound) (column : String) :
    ¬ e.Names mapper shape column := by
  intro hn
  cases hn.isColumnAccess.symm.trans h.2.1

theorem IsCompound.not_isLiteral (h : e.IsCompound) (v : Value) : ¬ e.IsLiteral v := by
  rw [isLiteral_iff, h.1]
  exact h.2.2 v

/-- Compound expressions are read for their tests and for their filters only. -/
theorem IsCompound.readsAlike (h : e.IsCompound) (h' : e'.IsCompound)
    (isTest : e.emptinessTarget? = none ↔ e'.emptinessTarget? = none)
    (tests : ∀ column,
      e.TestsEmptiness mapper shape column ↔ e'.TestsEmptiness mapper shape column)
    (filter : ∀ f, Filter.ofExpr mapper shape e = .ok f ↔ Filter.ofExpr mapper shape e' = .ok f) :
    e.ReadsAlike mapper shape e' where
  access := h.2.1.trans h'.2.1.symm
  names column := iff_of_false (h.not_names column) (h'.not_names column)
  literal v := iff_of_false (h.not_isLiteral v) (h'.not_isLiteral v)
  isTest := isTest
  tests := tests
  filter := filter

theorem not_testsEmptiness (h : e.emptinessTarget? = none) (column : String) :
    ¬ e.TestsEmptiness mapper shape column := by
  rintro ⟨target, ht, -⟩
  rw [h] at ht
  cases ht

/-- Compound expressions that test nothing are read for their filters only. -/
theorem IsCompound.readsAlike_of_filter (h : e.IsCompound) (h' : e'.IsCompound)
    (ht : e.emptinessTarget? = none) (ht' : e'.emptinessTarget? = none)
    (filter : ∀ f, Filter.ofExpr mapper shape e = .ok f ↔ Filter.ofExpr mapper shape e' = .ok f) :
    e.ReadsAlike mapper shape e' :=
  h.readsAlike h' (iff_of_true ht ht')
    (fun column => iff_of_false (not_testsEmptiness ht column) (not_testsEmptiness ht' column))
    filter

end

theorem isCompound_binary (op : BinaryOp) (l r : Expr) : (Expr.binary op l r).IsCompound :=
  ⟨by simp [unwrapped], by simp [isColumnAccess, unwrapped], nofun⟩

theorem isCompound_not (e : Expr) : (Expr.not e).IsCompound :=
  ⟨by simp [unwrapped], by simp [isColumnAccess, unwrapped], nofun⟩

theorem isCompound_test (test : TextTest) (target : Expr) (argument : Option Expr) :
    (Expr.test test target argument).IsCompound :=
  ⟨by simp [unwrapped], by simp [isColumnAccess, unwrapped], nofun⟩

theorem isCompound_apply (function : TextFunction) (e : Expr) : (Expr.apply function e).IsCompound :=
  ⟨by simp [unwrapped], by simp [isColumnAccess, unwrapped], nofun⟩

theorem isCompound_record (fields : List (String × Expr)) : (Expr.record fields).IsCompound :=
  ⟨by simp [unwrapped], by simp [isColumnAccess, unwrapped], nofun⟩

end Expr

namespace Filter

open SheetQuery.Expr

variable {mapper : Mapper} {shape : ItemShape} {e e' l l' r r' : Expr} {f : Filter}

/-! ## Comparisons -/

/-- What a comparison with a column becomes is told by the name on one side and by the constant or
the name on the other. -/
theorem ofColumnComparison_eq_ok_iff {access other : Expr} {op : Comparison} :
    ofColumnComparison mapper shape access op other = .ok f ↔
      ∃ column, access.Names mapper shape column ∧
        ((∃ negated, other.IsLiteral .null ∧ op = Comparison.nullTest negated ∧
            f = .isNull column negated) ∨
          (∃ v, other.IsLiteral v ∧ v.isNull = false ∧ f = .compare column op (.parameter v)) ∨
          (∃ b, other.Names mapper shape b ∧ f = .compare column op (.column b))) := by
  refine ⟨ofColumnComparison_cases, ?_⟩
  rintro ⟨column, ha, ⟨negated, ho, rfl, rfl⟩ | ⟨v, ho, hv, rfl⟩ | ⟨b, ho, rfl⟩⟩
  · exact ofColumnComparison_null ha ho negated
  · exact ofColumnComparison_literal ha ho hv op
  · exact ofColumnComparison_column ha ho op

theorem ofColumnComparison_congr (hl : l.ReadsAlike mapper shape l')
    (hr : r.ReadsAlike mapper shape r') (op : Comparison) :
    ofColumnComparison mapper shape l op r = .ok f ↔
      ofColumnComparison mapper shape l' op r' = .ok f := by
  simp only [ofColumnComparison_eq_ok_iff, hl.names, hr.literal, hr.names]

theorem ofComparison_congr (hl : l.ReadsAlike mapper shape l')
    (hr : r.ReadsAlike mapper shape r') (op : Comparison) :
    ofComparison mapper shape op l r = .ok f ↔ ofComparison mapper shape op l' r' = .ok f := by
  unfold ofComparison
  rw [hl.access, hr.access]
  split
  · exact ofColumnComparison_congr hl hr op
  · split
    · exact ofColumnComparison_congr hr hl op.flipped
    · exact iff_of_false nofun nofun

/-- A comparison with a column on one side means the same from either end. -/
theorem ofComparison_flip (op : Comparison) (h : l.isColumnAccess ≠ r.isColumnAccess) :
    ofComparison mapper shape op.flipped r l = ofComparison mapper shape op l r := by
  unfold ofComparison
  cases hl : l.isColumnAccess with
  | true =>
      have hr : r.isColumnAccess = false := Bool.eq_false_iff.mpr (hl ▸ h).symm
      simp [hr]
  | false =>
      have hr : r.isColumnAccess = true := Bool.ne_false_iff.mp (hl ▸ h).symm
      simp [hr]

/-! ## Tests on text -/

theorem ofTest_congr_target (test : TextTest) (argument : Option Expr)
    (h : e.ReadsAlike mapper shape e') :
    ofTest mapper shape test e argument = .ok f ↔ ofTest mapper shape test e' argument = .ok f := by
  unfold ofTest
  rw [h.access]
  split
  · simp only [bind_eq_ok_iff, resolveColumn_eq_ok_iff, h.names]
  · exact iff_of_false nofun nofun

theorem argumentText_congr (test : TextTest) (h : e.ReadsAlike mapper shape e') {text : String} :
    argumentText test (some e) = .ok text ↔ argumentText test (some e') = .ok text := by
  simp only [argumentText_eq_ok_iff, Option.some.injEq, exists_and_left, exists_eq_left',
    h.literal]

theorem ofTest_congr_argument (test : TextTest) (target : Expr)
    (h : e.ReadsAlike mapper shape e') :
    ofTest mapper shape test target (some e) = .ok f ↔
      ofTest mapper shape test target (some e') = .ok f := by
  unfold ofTest
  split
  · cases test <;> simp only [bind_eq_ok_iff, argumentText_congr _ h]
  · exact Iff.rfl

/-! ## Predicates -/

/-- A negated predicate has a filter when the predicate has one, or when it tests a column for
emptiness. -/
theorem ofExpr_not_eq_ok_iff : ofExpr mapper shape (.not e) = .ok f ↔
    (e.emptinessTarget? = none ∧ ∃ g, ofExpr mapper shape e = .ok g ∧ g.not = f) ∨
      ∃ column, e.TestsEmptiness mapper shape column ∧ f = .isNotEmpty column := by
  cases ht : e.emptinessTarget? with
  | none => simp [ofExpr_not ht, map_eq_ok_iff, not_testsEmptiness ht]
  | some target =>
      obtain ⟨argument, ha⟩ := emptinessTarget?_eq_some_iff.mp ht
      have hnot : ofExpr mapper shape (.not e) =
          (resolveColumn mapper shape target).map .isNotEmpty := by simp only [ofExpr, ha]
      simp [hnot, map_eq_ok_iff, resolveColumn_eq_ok_iff, TestsEmptiness, ht, eq_comm (a := f)]

theorem ofExpr_binary_congr (op : BinaryOp) (hl : l.ReadsAlike mapper shape l')
    (hr : r.ReadsAlike mapper shape r') :
    ofExpr mapper shape (.binary op l r) = .ok f ↔
      ofExpr mapper shape (.binary op l' r') = .ok f := by
  cases op with
  | compare op =>
      rw [ofExpr, ofExpr]
      exact ofComparison_congr hl hr op
  | arithmetic op => rw [ofExpr, ofExpr]
  | _ =>
      rw [ofExpr, ofExpr]
      simp only [bind_eq_ok_iff, hl.filter, hr.filter]

/-- **Spellings of one expression read alike.** By induction on the changes: each of them leaves what
is read off its own node, and a node around it takes nothing else from there. -/
theorem readsAlike_of_respelled (mapper : Mapper) (shape : ItemShape) (h : e.Respelled e') :
    e.ReadsAlike mapper shape e' := by
  induction h with
  | refl e => exact .refl e
  | symm h ih => exact ih.symm
  | trans h h' ih ih' => exact ih.trans ih'
  | unconvert kind e => exact readsAlike_convert kind e
  | convert kind h ih =>
      exact (readsAlike_convert kind _).trans (ih.trans (readsAlike_convert kind _).symm)
  | flip op h =>
      refine (isCompound_binary _ _ _).readsAlike_of_filter (isCompound_binary _ _ _)
        (by simp [emptinessTarget?, unwrapped]) (by simp [emptinessTarget?, unwrapped]) fun f => ?_
      rw [ofExpr, ofExpr, ofComparison_flip op h]
  | binary op hl hr ihl ihr =>
      exact (isCompound_binary _ _ _).readsAlike_of_filter (isCompound_binary _ _ _)
        (by simp [emptinessTarget?, unwrapped]) (by simp [emptinessTarget?, unwrapped])
        fun f => ofExpr_binary_congr op ihl ihr
  | not h ih =>
      refine (isCompound_not _).readsAlike_of_filter (isCompound_not _)
        (by simp [emptinessTarget?, unwrapped]) (by simp [emptinessTarget?, unwrapped]) fun f => ?_
      simp only [ofExpr_not_eq_ok_iff, ih.isTest, ih.filter, ih.tests]
  | target test h argument ih =>
      -- the test itself may stand below a negation, where its column is all that counts
      refine (isCompound_test _ _ _).readsAlike (isCompound_test _ _ _) ?_ (fun column => ?_)
        fun f => ?_
      · cases test <;> simp [emptinessTarget?, unwrapped]
      · cases test <;> simp [TestsEmptiness, emptinessTarget?, unwrapped, ih.names]
      · rw [ofExpr, ofExpr]
        exact ofTest_congr_target test argument ih
  | argument test target h ih =>
      refine (isCompound_test _ _ _).readsAlike (isCompound_test _ _ _) ?_ (fun column => ?_)
        fun f => ?_
      · cases test <;> simp [emptinessTarget?, unwrapped]
      · cases test <;> simp [TestsEmptiness, emptinessTarget?, unwrapped]
      · rw [ofExpr, ofExpr]
        exact ofTest_congr_argument test target ih
  | apply function h ih =>
      refine (isCompound_apply _ _).readsAlike_of_filter (isCompound_apply _ _)
        (by simp [emptinessTarget?, unwrapped]) (by simp [emptinessTarget?, unwrapped]) fun f => ?_
      simp [ofExpr, unsupported]
  | field before after name h ih =>
      refine (isCompound_record _).readsAlike_of_filter (isCompound_record _)
        (by simp [emptinessTarget?, unwrapped]) (by simp [emptinessTarget?, unwrapped]) fun f => ?_
      simp [ofExpr, unsupported]

/-- **The spelling of a predicate makes no difference.** There is a filter for both spellings or for
neither, and then with the same text, the same parameters in the same order and the same columns in
the order of their first uses. -/
theorem translation_of_respelled (mapper : Mapper) (shape : ItemShape) (h : e.Respelled e') :
    ((∃ f, ofExpr mapper shape e = .ok f) ↔ ∃ f', ofExpr mapper shape e' = .ok f') ∧
      ∀ f f', ofExpr mapper shape e = .ok f → ofExpr mapper shape e' = .ok f' →
        f'.chars = f.chars ∧ f'.params = f.params ∧
          firstUses f'.columns = firstUses f.columns := by
  have hsame := (readsAlike_of_respelled mapper shape h).filter
  refine ⟨exists_congr hsame, fun f f' hf hf' => ?_⟩
  rw [hsame, hf'] at hf
  cases hf
  exact ⟨rfl, rfl, rfl⟩

/-- A comparison turned around below a conjunction, and conversions moved within a negated test. -/
theorem translation_of_adult :
    ∃ f, ofExpr .empty (.record "Person")
      (.binary .and (.binary (.compare .lt) (.literal (.int 18)) (.convert .integer (.member 0 "Age")))
        (.not (.convert .boolean (.test .isNullOrEmpty (.member 0 "Name") none)))) = .ok f ∧
      ∃ f', ofExpr .empty (.record "Person")
        (.binary .and (.binary (.compare .gt) (.member 0 "Age") (.literal (.int 18)))
          (.not (.test .isNullOrEmpty (.convert .text (.member 0 "Name")) none))) = .ok f' ∧
        f'.chars = f.chars ∧ f'.params = f.params ∧ firstUses f'.columns = firstUses f.columns := by
  obtain ⟨hiff, hsame⟩ := translation_of_respelled .empty (.record "Person")
    (.binary .and (.trans (.binary (.compare .lt) (.refl (.literal (.int 18)))
      (.unconvert .integer (.member 0 "Age"))) (.flip .lt (by decide)))
      (.not (.trans (.unconvert .boolean (.test .isNullOrEmpty (.member 0 "Name") none))
        (.target .isNullOrEmpty (.symm (.unconvert .text (.member 0 "Name"))) none))))
  obtain ⟨f', hf'⟩ := hiff.mp ⟨_, rfl⟩
  exact ⟨_, rfl, f', hf', hsame _ f' rfl hf'⟩

end Filter

end SheetQuery
