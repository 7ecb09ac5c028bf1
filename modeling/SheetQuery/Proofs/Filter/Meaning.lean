import SheetQuery.Filter.OfExpr
import SheetQuery.Proofs.Outcome

/-!
# What a predicate asks for

The intent of a predicate, said without any statement text: a condition in the trees of the
statement dialect. Conversions are looked through, a column always stands on the left of a
comparison, and comparisons with the missing value are tests for it.

Main statement: a predicate has a filter exactly when it asks for some condition, and the filter's
condition is that one (`ofExpr_ok_iff_asks`). So the condition a predicate asks for is unique
(`Expr.Asks.unique`).
-/

namespace SheetQuery

open Sql

namespace Comparison

/-- The comparison that a test for a missing value is written as. -/
def nullTest (negated : Bool) : Comparison :=
  if negated then .ne else .eq

@[simp] theorem flipped_nullTest (negated : Bool) :
    (nullTest negated).flipped = nullTest negated := by
  cases negated <;> rfl

end Comparison

namespace Expr

variable {mapper : Mapper} {shape : ItemShape}

/-- The column that an access names, possibly below conversions. Members are mapped; a name needs
rows with a header, a position needs rows without one. -/
inductive Names (mapper : Mapper) (shape : ItemShape) : Expr → String → Prop where
  | member (name : String) : Names mapper shape (.member mainSource name) (mapper.map name)
  | named (name : String) (h : shape ≠ .headerless) :
      Names mapper shape (.column mainSource (.named name)) name
  | positioned (index : Nat) (h : shape = .headerless) :
      Names mapper shape (.column mainSource (.positioned index)) (positionName index)
  | convert (kind : Kind) {e : Expr} {column : String} (h : Names mapper shape e column) :
      Names mapper shape (.convert kind e) column

/-- The literal of a value, possibly below conversions. -/
inductive IsLiteral (v : Value) : Expr → Prop where
  | literal : IsLiteral v (.literal v)
  | convert (kind : Kind) {e : Expr} (h : IsLiteral v e) : IsLiteral v (.convert kind e)

/-- What a test for a missing or empty text is about, where the expression is such a test, possibly
below conversions. -/
def emptinessTarget? (e : Expr) : Option Expr :=
  match e.unwrapped with
  | .test .isNullOrEmpty target _ => some target
  | _ => none

/-- **The intended condition of a predicate.** One constructor for each shape of predicate. -/
inductive Asks (mapper : Mapper) (shape : ItemShape) : Expr → Condition → Prop where
  | convert (kind : Kind) {e : Expr} {c : Condition} (h : Asks mapper shape e c) :
      Asks mapper shape (.convert kind e) c
  | and {l r : Expr} {a b : Condition} (hl : Asks mapper shape l a) (hr : Asks mapper shape r b) :
      Asks mapper shape (.binary .and l r) (.and a b)
  | or {l r : Expr} {a b : Condition} (hl : Asks mapper shape l a) (hr : Asks mapper shape r b) :
      Asks mapper shape (.binary .or l r) (.or a b)
  | not {e : Expr} {c : Condition} (ht : e.emptinessTarget? = none) (h : Asks mapper shape e c) :
      Asks mapper shape (.not e) (.not c)
  | notEmpty {e target : Expr} {column : String} (ht : e.emptinessTarget? = some target)
      (h : Names mapper shape target column) :
      Asks mapper shape (.not e)
        (.or (.compare (.column column) .ne (.literal (.text ""))) (.isNull (.column column) true))
  | columnLiteral (op : Comparison) {l r : Expr} {column : String} {v : Value}
      (hl : Names mapper shape l column) (hr : IsLiteral v r) (hv : v.isNull = false) :
      Asks mapper shape (.binary (.compare op) l r) (.compare (.column column) op (.literal v))
  | literalColumn (op : Comparison) {l r : Expr} {column : String} {v : Value}
      (hl : IsLiteral v l) (hr : Names mapper shape r column) (hv : v.isNull = false) :
      Asks mapper shape (.binary (.compare op) l r)
        (.compare (.column column) op.flipped (.literal v))
  | columns (op : Comparison) {l r : Expr} {a b : String}
      (hl : Names mapper shape l a) (hr : Names mapper shape r b) :
      Asks mapper shape (.binary (.compare op) l r) (.compare (.column a) op (.column b))
  | columnNull (negated : Bool) {l r : Expr} {column : String}
      (hl : Names mapper shape l column) (hr : IsLiteral .null r) :
      Asks mapper shape (.binary (.compare (Comparison.nullTest negated)) l r)
        (.isNull (.column column) negated)
  | nullColumn (negated : Bool) {l r : Expr} {column : String}
      (hl : IsLiteral .null l) (hr : Names mapper shape r column) :
      Asks mapper shape (.binary (.compare (Comparison.nullTest negated)) l r)
        (.isNull (.column column) negated)
  | contains {target argument : Expr} {column : String} {v : Value}
      (ht : Names mapper shape target column) (ha : IsLiteral v argument) :
      Asks mapper shape (.test .contains target (some argument))
        (.like (.column column) (.literal (.text ("%" ++ v.display ++ "%"))))
  | startsWith {target argument : Expr} {column : String} {v : Value}
      (ht : Names mapper shape target column) (ha : IsLiteral v argument) :
      Asks mapper shape (.test .startsWith target (some argument))
        (.like (.column column) (.literal (.text (v.display ++ "%"))))
  | endsWith {target argument : Expr} {column : String} {v : Value}
      (ht : Names mapper shape target column) (ha : IsLiteral v argument) :
      Asks mapper shape (.test .endsWith target (some argument))
        (.like (.column column) (.literal (.text ("%" ++ v.display))))
  | equals {target argument : Expr} {column : String} {v : Value}
      (ht : Names mapper shape target column) (ha : IsLiteral v argument) :
      Asks mapper shape (.test .equals target (some argument))
        (.compare (.column column) .eq (.literal (.text v.display)))
  | isEmpty (argument : Option Expr) {target : Expr} {column : String}
      (ht : Names mapper shape target column) :
      Asks mapper shape (.test .isNullOrEmpty target argument)
        (.or (.compare (.column column) .eq (.literal (.text "")))
          (.isNull (.column column) false))
  | column {e : Expr} {column : String} (h : Names mapper shape e column) :
      Asks mapper shape e (.compare (.column column) .eq (.literal (.bool true)))
  | truth (b : Bool) :
      Asks mapper shape (.literal (.bool b))
        (.compare (.literal (.int 1)) .eq (.literal (.int (if b then 1 else 0))))

/-! ## Columns and literals -/

@[simp] theorem checkMainSource_eq_ok_iff {source : Nat} :
    checkMainSource source = .ok () ↔ source = mainSource := by
  unfold checkMainSource
  by_cases h : source = mainSource
  · simp [h]
  · simp [h, unsupported]

theorem resolveColumn_convert (kind : Kind) (e : Expr) :
    resolveColumn mapper shape (.convert kind e) = resolveColumn mapper shape e := by
  simp only [resolveColumn, unwrapped_convert]

theorem resolveColumn_of_names {e : Expr} {column : String} (h : e.Names mapper shape column) :
    resolveColumn mapper shape e = .ok column := by
  induction h with
  | member name => simp [resolveColumn, unwrapped, checkMainSource, pure, Except.pure]
  | named name h =>
      cases shape with
      | headerless => exact absurd rfl h
      | row => simp [resolveColumn, unwrapped, checkMainSource, pure, Except.pure]
      | record t => simp [resolveColumn, unwrapped, checkMainSource, pure, Except.pure]
  | positioned index h =>
      subst h
      simp [resolveColumn, unwrapped, checkMainSource, pure, Except.pure]
  | convert kind h ih => rw [resolveColumn_convert, ih]

theorem names_of_resolveColumn {e : Expr} {column : String}
    (h : resolveColumn mapper shape e = .ok column) : e.Names mapper shape column := by
  induction e using Expr.unwrapped.induct with
  | case1 kind e ih =>
      rw [resolveColumn_convert] at h
      exact .convert kind (ih h)
  | case2 e hne =>
      have he : e.unwrapped = e := by rw [unwrapped]; exact hne
      simp only [resolveColumn, he] at h
      cases e with
      | member source name =>
          obtain ⟨u, hs, h⟩ := bind_eq_ok_iff.mp h
          obtain rfl := checkMainSource_eq_ok_iff.mp hs
          cases h
          exact .member name
      | column source column =>
          obtain ⟨u, hs, h⟩ := bind_eq_ok_iff.mp h
          obtain rfl := checkMainSource_eq_ok_iff.mp hs
          cases column <;> cases shape <;> cases h
          · exact .named _ (by simp)
          · exact .named _ (by simp)
          · exact .positioned _ rfl
      | _ => cases h

/-- Resolving an access gives the column it names. -/
theorem resolveColumn_eq_ok_iff {e : Expr} {column : String} :
    resolveColumn mapper shape e = .ok column ↔ e.Names mapper shape column :=
  ⟨names_of_resolveColumn, resolveColumn_of_names⟩

/-- Conversions do not matter, and positions are counted from one. -/
example : (resolveColumn .empty .headerless
    (.convert .text (.column mainSource (.positioned 2)))).toOption = some "F3" := by
  decide +kernel

theorem Names.unique {e : Expr} {a b : String} (ha : e.Names mapper shape a)
    (hb : e.Names mapper shape b) : a = b := by
  have h := resolveColumn_of_names ha
  rw [resolveColumn_of_names hb] at h
  cases h
  rfl

theorem isLiteral_iff {v : Value} {e : Expr} : e.IsLiteral v ↔ e.unwrapped = .literal v := by
  constructor
  · intro h
    induction h with
    | literal => rw [unwrapped]; simp
    | convert kind h ih => rwa [unwrapped_convert]
  · intro h
    induction e using Expr.unwrapped.induct with
    | case1 kind e ih =>
        rw [unwrapped_convert] at h
        exact .convert kind (ih h)
    | case2 e hne =>
        have he : e.unwrapped = e := by rw [unwrapped]; exact hne
        rw [he] at h
        subst h
        exact .literal

theorem IsLiteral.unique {v w : Value} {e : Expr} (hv : e.IsLiteral v) (hw : e.IsLiteral w) :
    v = w := by
  rw [isLiteral_iff] at hv hw
  rw [hv] at hw
  exact Expr.literal.inj hw

theorem Names.isColumnAccess {e : Expr} {column : String} (h : e.Names mapper shape column) :
    e.isColumnAccess = true := by
  induction h with
  | convert kind h ih => simpa [Expr.isColumnAccess] using ih
  | _ => simp [Expr.isColumnAccess, unwrapped]

theorem IsLiteral.not_isColumnAccess {e : Expr} {v : Value} (h : e.IsLiteral v) :
    e.isColumnAccess = false := by
  rw [isLiteral_iff] at h
  simp [Expr.isColumnAccess, h]

end Expr

namespace Filter

open SheetQuery.Expr

variable {mapper : Mapper} {shape : ItemShape}

/-! ## Comparisons -/

/-- **Everything a comparison with a column can become**: a test for a missing value, a comparison
with a parameter, or one with another column. -/
theorem ofColumnComparison_cases {access other : Expr} {op : Comparison} {f : Filter}
    (h : ofColumnComparison mapper shape access op other = .ok f) :
    ∃ column, access.Names mapper shape column ∧
      ((∃ negated, other.IsLiteral .null ∧ op = Comparison.nullTest negated ∧
          f = .isNull column negated) ∨
        (∃ v, other.IsLiteral v ∧ v.isNull = false ∧ f = .compare column op (.parameter v)) ∨
        (∃ b, other.Names mapper shape b ∧ f = .compare column op (.column b))) := by
  obtain ⟨column, hc, h⟩ := bind_eq_ok_iff.mp h
  refine ⟨column, names_of_resolveColumn hc, ?_⟩
  -- the missing value is never a parameter, it takes a test of its own
  by_cases hnull : other.unwrapped.isNullLiteral = true
  · rw [if_pos hnull] at h
    have hlit : other.IsLiteral .null := by
      rw [isLiteral_iff]
      unfold isNullLiteral at hnull
      split at hnull
      · assumption
      · cases hnull
    cases op <;> cases h
    · exact Or.inl ⟨false, hlit, rfl, rfl⟩
    · exact Or.inl ⟨true, hlit, rfl, rfl⟩
  · rw [if_neg hnull] at h
    obtain ⟨operand, ho, h⟩ := bind_eq_ok_iff.mp h
    cases h
    unfold ofOperand at ho
    split at ho
    · next v hv =>
        cases ho
        refine Or.inr (Or.inl ⟨v, isLiteral_iff.mpr hv, ?_, rfl⟩)
        cases v with
        | null => exact absurd (by rw [hv]; rfl) hnull
        | _ => rfl
    · split at ho
      · obtain ⟨b, hb, rfl⟩ := map_eq_ok_iff.mp ho
        have hb' : resolveColumn mapper shape other = .ok b := by
          rw [← hb]
          simp only [resolveColumn, unwrapped_unwrapped]
        exact Or.inr (Or.inr ⟨b, names_of_resolveColumn hb', rfl⟩)
      · cases ho

theorem ofColumnComparison_null {access other : Expr} {column : String}
    (ha : access.Names mapper shape column) (ho : other.IsLiteral .null) (negated : Bool) :
    ofColumnComparison mapper shape access (Comparison.nullTest negated) other =
      .ok (.isNull column negated) := by
  rw [isLiteral_iff] at ho
  cases negated <;>
    simp [ofColumnComparison, resolveColumn_of_names ha, ho, isNullLiteral, Comparison.nullTest,
      pure, Except.pure]

theorem ofColumnComparison_literal {access other : Expr} {column : String} {v : Value}
    (ha : access.Names mapper shape column) (ho : other.IsLiteral v) (hv : v.isNull = false)
    (op : Comparison) :
    ofColumnComparison mapper shape access op other =
      .ok (.compare column op (.parameter v)) := by
  rw [isLiteral_iff] at ho
  have hnull : (Expr.literal v).isNullLiteral = false := by
    cases v with
    | null => cases hv
    | _ => rfl
  simp [ofColumnComparison, resolveColumn_of_names ha, ho, hnull, ofOperand, pure, Except.pure]

theorem ofColumnComparison_column {access other : Expr} {column b : String}
    (ha : access.Names mapper shape column) (ho : other.Names mapper shape b)
    (op : Comparison) :
    ofColumnComparison mapper shape access op other =
      .ok (.compare column op (.column b)) := by
  have hacc : other.unwrapped.isColumnAccess = true := by
    simpa [Expr.isColumnAccess] using ho.isColumnAccess
  have hres : resolveColumn mapper shape other.unwrapped = .ok b := by
    rw [← resolveColumn_of_names ho]
    simp only [resolveColumn, unwrapped_unwrapped]
  have hnull : other.unwrapped.isNullLiteral = false := by
    unfold Expr.isColumnAccess at hacc
    unfold isNullLiteral
    split
    · next h => simp [h, unwrapped] at hacc
    · rfl
  have hoperand : ofOperand mapper shape op other.unwrapped = .ok (.column b) := by
    unfold ofOperand
    split
    · next v hv => simp [hv, Expr.isColumnAccess, unwrapped] at hacc
    · simp [hacc, hres, Except.map]
  simp [ofColumnComparison, resolveColumn_of_names ha, hnull, hoperand, pure, Except.pure]

/-- A comparison that has a filter asks for the filter's condition. -/
theorem asks_of_ofComparison {op : Comparison} {l r : Expr} {f : Filter}
    (h : ofComparison mapper shape op l r = .ok f) :
    (Expr.binary (.compare op) l r).Asks mapper shape f.condition := by
  unfold ofComparison at h
  split at h
  · obtain ⟨column, hl, hf⟩ := ofColumnComparison_cases h
    rcases hf with ⟨negated, hr, rfl, rfl⟩ | ⟨v, hr, hv, rfl⟩ | ⟨b, hr, rfl⟩
    · exact .columnNull negated hl hr
    · exact .columnLiteral op hl hr hv
    · exact .columns op hl hr
  · next hleft =>
    split at h
    · obtain ⟨column, hr, hf⟩ := ofColumnComparison_cases h
      rcases hf with ⟨negated, hl, hop, rfl⟩ | ⟨v, hl, hv, rfl⟩ | ⟨b, hl, rfl⟩
      · obtain rfl : op = Comparison.nullTest negated := by
          rw [← Comparison.flipped_flipped op, hop, Comparison.flipped_nullTest]
        exact .nullColumn negated hl hr
      · exact .literalColumn op hl hr hv
      · exact absurd hl.isColumnAccess hleft
    · cases h

/-! ## Tests on text -/

theorem argumentText_eq_ok_iff {test : TextTest} {argument : Option Expr} {text : String} :
    argumentText test argument = .ok text ↔
      ∃ e v, argument = some e ∧ e.IsLiteral v ∧ text = v.display := by
  constructor
  · intro h
    unfold argumentText at h
    split at h
    · next v hv =>
        obtain ⟨e, rfl, he⟩ := Option.map_eq_some_iff.mp hv
        cases h
        exact ⟨e, v, rfl, isLiteral_iff.mpr he, rfl⟩
    · cases h
    · cases h
  · rintro ⟨e, v, rfl, he, rfl⟩
    rw [isLiteral_iff] at he
    simp [argumentText, he]

/-- A filter made of an argument's text is made of the text that a literal is shown with. -/
theorem bind_argumentText_eq_ok {test : TextTest} {argument : Option Expr} {make : String → Filter}
    {f : Filter} (h : (argumentText test argument >>= fun text => .ok (make text)) = .ok f) :
    ∃ e v, argument = some e ∧ e.IsLiteral v ∧ f = make v.display := by
  obtain ⟨text, ht, h⟩ := bind_eq_ok_iff.mp h
  obtain ⟨e, v, he, hv, rfl⟩ := argumentText_eq_ok_iff.mp ht
  cases h
  exact ⟨e, v, he, hv, rfl⟩

/-- A test that has a filter asks for the filter's condition. -/
theorem asks_of_ofTest {test : TextTest} {target : Expr} {argument : Option Expr} {f : Filter}
    (h : ofTest mapper shape test target argument = .ok f) :
    (Expr.test test target argument).Asks mapper shape f.condition := by
  unfold ofTest at h
  split at h
  · obtain ⟨column, hc, h⟩ := bind_eq_ok_iff.mp h
    have hn := names_of_resolveColumn hc
    cases test with
    | isNullOrEmpty =>
        cases h
        exact .isEmpty argument hn
    | contains =>
        obtain ⟨e, v, rfl, he, rfl⟩ := bind_argumentText_eq_ok h
        exact .contains hn he
    | startsWith =>
        obtain ⟨e, v, rfl, he, rfl⟩ := bind_argumentText_eq_ok h
        exact .startsWith hn he
    | endsWith =>
        obtain ⟨e, v, rfl, he, rfl⟩ := bind_argumentText_eq_ok h
        exact .endsWith hn he
    | equals =>
        obtain ⟨e, v, rfl, he, rfl⟩ := bind_argumentText_eq_ok h
        exact .equals hn he
  · cases h

theorem bind_argumentText {argument : Expr} {v : Value} (ha : argument.IsLiteral v)
    (test : TextTest) (make : String → Filter) :
    (argumentText test (some argument) >>= fun text => .ok (make text)) = .ok (make v.display) :=
  bind_eq_ok_iff.mpr ⟨v.display, argumentText_eq_ok_iff.mpr ⟨argument, v, rfl, ha, rfl⟩, rfl⟩

/-! ## Predicates -/

theorem emptinessTarget?_eq_some_iff {e target : Expr} :
    e.emptinessTarget? = some target ↔
      ∃ argument, e.unwrapped = .test .isNullOrEmpty target argument := by
  unfold emptinessTarget?
  split
  · next t argument h => simp [h]
  · next h =>
    simp only [reduceCtorEq, false_iff]
    rintro ⟨argument, ha⟩
    exact h _ _ ha

theorem emptinessTarget?_eq_none {e : Expr}
    (h : ∀ target argument, e.unwrapped = .test .isNullOrEmpty target argument → False) :
    e.emptinessTarget? = none := by
  unfold emptinessTarget?
  split
  · next target argument ha => exact (h target argument ha).elim
  · rfl

/-- Every negation but that of a test for emptiness is written as one. -/
theorem ofExpr_not {e : Expr} (h : e.emptinessTarget? = none) :
    ofExpr mapper shape (.not e) = (ofExpr mapper shape e).map .not := by
  rw [ofExpr]
  split
  · next target argument ha =>
      rw [emptinessTarget?_eq_some_iff.mpr ⟨argument, ha⟩] at h
      cases h
  · rfl

/-- A predicate that has a filter asks for the filter's condition. By induction on the recursion of
the translation, one case for each shape of node. -/
theorem asks_of_ofExpr {e : Expr} {f : Filter} (h : ofExpr mapper shape e = .ok f) :
    e.Asks mapper shape f.condition := by
  induction e using ofExpr.induct generalizing f with
  | case1 kind e ih =>
      rw [ofExpr] at h
      exact .convert kind (ih h)
  | case2 l r ihl ihr =>
      rw [ofExpr] at h
      obtain ⟨a, hl, h⟩ := bind_eq_ok_iff.mp h
      obtain ⟨b, hr, h⟩ := bind_eq_ok_iff.mp h
      cases h
      exact .and (ihl hl) (ihr hr)
  | case3 l r ihl ihr =>
      rw [ofExpr] at h
      obtain ⟨a, hl, h⟩ := bind_eq_ok_iff.mp h
      obtain ⟨b, hr, h⟩ := bind_eq_ok_iff.mp h
      cases h
      exact .or (ihl hl) (ihr hr)
  | case4 op l r =>
      rw [ofExpr] at h
      exact asks_of_ofComparison h
  | case5 op l r =>
      rw [ofExpr] at h
      cases h
  | case6 e target argument he =>
      -- the one negation that does not negate: the test is spelled out the other way round
      simp only [ofExpr, he] at h
      obtain ⟨column, hc, rfl⟩ := map_eq_ok_iff.mp h
      exact .notEmpty (emptinessTarget?_eq_some_iff.mpr ⟨argument, he⟩)
        (names_of_resolveColumn hc)
  | case7 e he ih =>
      have hnone : e.emptinessTarget? = none := by
        cases ht : e.emptinessTarget? with
        | none => rfl
        | some target =>
            obtain ⟨argument, ha⟩ := emptinessTarget?_eq_some_iff.mp ht
            exact (he target argument ha).elim
      rw [ofExpr] at h
      split at h
      · next target argument ha => exact (he target argument ha).elim
      · obtain ⟨a, hi, rfl⟩ := map_eq_ok_iff.mp h
        exact .not hnone (ih hi)
  | case8 test target argument =>
      rw [ofExpr] at h
      exact asks_of_ofTest h
  | case9 source name =>
      rw [ofExpr] at h
      obtain ⟨column, hc, rfl⟩ := map_eq_ok_iff.mp h
      exact .column (names_of_resolveColumn hc)
  | case10 source column =>
      rw [ofExpr] at h
      obtain ⟨column, hc, rfl⟩ := map_eq_ok_iff.mp h
      exact .column (names_of_resolveColumn hc)
  | case11 b =>
      rw [ofExpr] at h
      cases h
      cases b <;> exact .truth _
  | case12 e =>
      -- no other shape has a filter
      rw [ofExpr] at h <;> first | assumption | cases h

/-- What names a column is itself a predicate: the column must be true. -/
theorem ofExpr_of_names {e : Expr} {column : String} (h : e.Names mapper shape column) :
    ofExpr mapper shape e = .ok (.compare column .eq (.parameter (.bool true))) := by
  induction h with
  | convert kind h ih => rw [ofExpr, ih]
  | member name =>
      rw [ofExpr, ofBareColumn, resolveColumn_of_names (.member name)]
      rfl
  | named name h =>
      rw [ofExpr, ofBareColumn, resolveColumn_of_names (.named name h)]
      rfl
  | positioned index h =>
      rw [ofExpr, ofBareColumn, resolveColumn_of_names (.positioned index h)]
      rfl

/-- A predicate that asks for a condition has a filter with that condition. -/
theorem ofExpr_of_asks {e : Expr} {c : Condition} (h : e.Asks mapper shape c) :
    ∃ f, ofExpr mapper shape e = .ok f ∧ f.condition = c := by
  induction h with
  | convert kind h ih =>
      obtain ⟨f, hf, hc⟩ := ih
      exact ⟨f, by rw [ofExpr, hf], hc⟩
  | and hl hr ihl ihr =>
      obtain ⟨f, hf, rfl⟩ := ihl
      obtain ⟨g, hg, rfl⟩ := ihr
      exact ⟨.and f g, by rw [ofExpr, hf, hg]; rfl, rfl⟩
  | or hl hr ihl ihr =>
      obtain ⟨f, hf, rfl⟩ := ihl
      obtain ⟨g, hg, rfl⟩ := ihr
      exact ⟨.or f g, by rw [ofExpr, hf, hg]; rfl, rfl⟩
  | @not e c ht h ih =>
      obtain ⟨f, hf, rfl⟩ := ih
      refine ⟨.not f, ?_, rfl⟩
      rw [ofExpr]
      split
      · next target argument ha =>
          rw [emptinessTarget?_eq_some_iff.mpr ⟨argument, ha⟩] at ht
          cases ht
      · rw [hf]
        rfl
  | @notEmpty e target column ht h =>
      obtain ⟨argument, ha⟩ := emptinessTarget?_eq_some_iff.mp ht
      refine ⟨.isNotEmpty column, ?_, rfl⟩
      simp only [ofExpr, ha, resolveColumn_of_names h]
      rfl
  | columnLiteral op hl hr hv =>
      refine ⟨.compare _ op (.parameter _), ?_, rfl⟩
      rw [ofExpr, ofComparison, if_pos hl.isColumnAccess, ofColumnComparison_literal hl hr hv]
  | literalColumn op hl hr hv =>
      -- a literal is no column access, so the operands trade places
      refine ⟨.compare _ op.flipped (.parameter _), ?_, rfl⟩
      rw [ofExpr, ofComparison, if_neg (by simp [hl.not_isColumnAccess]),
        if_pos hr.isColumnAccess, ofColumnComparison_literal hr hl hv]
  | columns op hl hr =>
      refine ⟨.compare _ op (.column _), ?_, rfl⟩
      rw [ofExpr, ofComparison, if_pos hl.isColumnAccess, ofColumnComparison_column hl hr]
  | columnNull negated hl hr =>
      refine ⟨.isNull _ negated, ?_, rfl⟩
      rw [ofExpr, ofComparison, if_pos hl.isColumnAccess, ofColumnComparison_null hl hr]
  | nullColumn negated hl hr =>
      refine ⟨.isNull _ negated, ?_, rfl⟩
      rw [ofExpr, ofComparison, if_neg (by simp [hl.not_isColumnAccess]),
        if_pos hr.isColumnAccess, Comparison.flipped_nullTest, ofColumnComparison_null hr hl]
  | contains ht ha =>
      refine ⟨.like _ ("%" ++ _ ++ "%"), ?_, rfl⟩
      rw [ofExpr, ofTest, if_pos ht.isColumnAccess, resolveColumn_of_names ht, ok_bind]
      exact bind_argumentText ha _ _
  | startsWith ht ha =>
      refine ⟨.like _ (_ ++ "%"), ?_, rfl⟩
      rw [ofExpr, ofTest, if_pos ht.isColumnAccess, resolveColumn_of_names ht, ok_bind]
      exact bind_argumentText ha _ _
  | endsWith ht ha =>
      refine ⟨.like _ ("%" ++ _), ?_, rfl⟩
      rw [ofExpr, ofTest, if_pos ht.isColumnAccess, resolveColumn_of_names ht, ok_bind]
      exact bind_argumentText ha _ _
  | equals ht ha =>
      refine ⟨.compare _ .eq (.parameter (.text _)), ?_, rfl⟩
      rw [ofExpr, ofTest, if_pos ht.isColumnAccess, resolveColumn_of_names ht, ok_bind]
      exact bind_argumentText ha _ _
  | isEmpty argument ht =>
      refine ⟨.isEmpty _, ?_, rfl⟩
      rw [ofExpr, ofTest, if_pos ht.isColumnAccess, resolveColumn_of_names ht, ok_bind]
      rfl
  | column h => exact ⟨_, ofExpr_of_names h, rfl⟩
  | truth b => exact ⟨.constant b, by rw [ofExpr], by cases b <;> rfl⟩

/-- **The translation does what is asked, and only that.** -/
theorem ofExpr_ok_iff_asks {e : Expr} {c : Condition} :
    (∃ f, ofExpr mapper shape e = .ok f ∧ f.condition = c) ↔ e.Asks mapper shape c := by
  constructor
  · rintro ⟨f, hf, rfl⟩
    exact asks_of_ofExpr hf
  · exact ofExpr_of_asks

end Filter

/-- A predicate asks for one condition at most. -/
theorem Expr.Asks.unique {mapper : Mapper} {shape : ItemShape} {e : Expr} {a b : Condition}
    (ha : e.Asks mapper shape a) (hb : e.Asks mapper shape b) : a = b := by
  obtain ⟨f, hf, rfl⟩ := Filter.ofExpr_of_asks ha
  obtain ⟨g, hg, rfl⟩ := Filter.ofExpr_of_asks hb
  rw [hf] at hg
  cases hg
  rfl

end SheetQuery
