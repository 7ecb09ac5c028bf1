import SheetQuery.Proofs.Filter.Meaning

/-!
# The language of predicates

Which predicates a statement can carry, said without a mapper and without the condition that comes
out. A column of a predicate is resolvable by its shape alone, a comparison needs a column on one
side, and the missing value may only be tested for.

Main statement: the predicates of the language are exactly those that ask for a condition
(`Expr.isPredicate_iff_asks`), whatever the mapper is.
-/

namespace SheetQuery

namespace Expr

variable {mapper : Mapper} {shape : ItemShape}

/-- A column of the main source that statements can name, possibly below conversions. -/
inductive IsResolvable (shape : ItemShape) : Expr → Prop where
  | member (name : String) : IsResolvable shape (.member mainSource name)
  | named (name : String) (h : shape ≠ .headerless) :
      IsResolvable shape (.column mainSource (.named name))
  | positioned (index : Nat) (h : shape = .headerless) :
      IsResolvable shape (.column mainSource (.positioned index))
  | convert (kind : Kind) {e : Expr} (h : IsResolvable shape e) :
      IsResolvable shape (.convert kind e)

/-- A comparison may have that value on a side. -/
def Comparable (op : Comparison) (v : Value) : Prop :=
  v = .null → op = .eq ∨ op = .ne

/-- **The predicates that a statement can carry.** -/
inductive IsPredicate (shape : ItemShape) : Expr → Prop where
  | convert (kind : Kind) {e : Expr} (h : IsPredicate shape e) : IsPredicate shape (.convert kind e)
  | and {l r : Expr} (hl : IsPredicate shape l) (hr : IsPredicate shape r) :
      IsPredicate shape (.binary .and l r)
  | or {l r : Expr} (hl : IsPredicate shape l) (hr : IsPredicate shape r) :
      IsPredicate shape (.binary .or l r)
  | not {e : Expr} (h : IsPredicate shape e) : IsPredicate shape (.not e)
  | truth (b : Bool) : IsPredicate shape (.literal (.bool b))
  | column {e : Expr} (h : IsResolvable shape e) : IsPredicate shape e
  | isEmpty (argument : Option Expr) {target : Expr} (ht : IsResolvable shape target) :
      IsPredicate shape (.test .isNullOrEmpty target argument)
  | onText {test : TextTest} (hne : test ≠ .isNullOrEmpty) {target argument : Expr} {v : Value}
      (ht : IsResolvable shape target) (ha : IsLiteral v argument) :
      IsPredicate shape (.test test target (some argument))
  | columnLiteral (op : Comparison) {l r : Expr} {v : Value} (hl : IsResolvable shape l)
      (hr : IsLiteral v r) (hv : Comparable op v) : IsPredicate shape (.binary (.compare op) l r)
  | literalColumn (op : Comparison) {l r : Expr} {v : Value} (hl : IsLiteral v l)
      (hr : IsResolvable shape r) (hv : Comparable op v) :
      IsPredicate shape (.binary (.compare op) l r)
  | columns (op : Comparison) {l r : Expr} (hl : IsResolvable shape l)
      (hr : IsResolvable shape r) : IsPredicate shape (.binary (.compare op) l r)

/-! ## Columns -/

theorem Names.isResolvable {e : Expr} {column : String} (h : e.Names mapper shape column) :
    e.IsResolvable shape := by
  induction h with
  | member name => exact .member name
  | named name h => exact .named name h
  | positioned index h => exact .positioned index h
  | convert kind h ih => exact .convert kind ih

theorem IsResolvable.names {e : Expr} (h : e.IsResolvable shape) (mapper : Mapper) :
    ∃ column, e.Names mapper shape column := by
  induction h with
  | member name => exact ⟨_, .member name⟩
  | named name h => exact ⟨_, .named name h⟩
  | positioned index h => exact ⟨_, .positioned index h⟩
  | convert kind h ih =>
      obtain ⟨column, hn⟩ := ih
      exact ⟨column, .convert kind hn⟩

/-- A column is resolvable exactly when resolving it succeeds, under every mapper. -/
theorem isResolvable_iff (mapper : Mapper) {e : Expr} :
    e.IsResolvable shape ↔ ∃ column, resolveColumn mapper shape e = .ok column := by
  constructor
  · intro h
    obtain ⟨column, hn⟩ := h.names mapper
    exact ⟨column, resolveColumn_of_names hn⟩
  · rintro ⟨column, h⟩
    exact (names_of_resolveColumn h).isResolvable

/-! ## Predicates -/

theorem comparable_of_not_null {op : Comparison} {v : Value} (h : v.isNull = false) :
    Comparable op v := by
  rintro rfl
  cases h

theorem comparable_nullTest (negated : Bool) :
    Comparable (Comparison.nullTest negated) .null := by
  intro h
  cases negated
  · exact Or.inl rfl
  · exact Or.inr rfl

/-- A value that may be compared is either a proper one or the missing one in a test for it. -/
theorem Comparable.cases {op : Comparison} {v : Value} (h : Comparable op v) :
    v.isNull = false ∨ v = .null ∧ ∃ negated, op = Comparison.nullTest negated := by
  cases v with
  | null =>
      refine Or.inr ⟨rfl, ?_⟩
      rcases h rfl with rfl | rfl
      · exact ⟨false, rfl⟩
      · exact ⟨true, rfl⟩
  | _ => exact Or.inl rfl

@[simp] theorem emptinessTarget?_convert (kind : Kind) (e : Expr) :
    (Expr.convert kind e).emptinessTarget? = e.emptinessTarget? := by
  simp only [emptinessTarget?, unwrapped_convert]

theorem IsResolvable.emptinessTarget?_eq_none {e : Expr} (h : e.IsResolvable shape) :
    e.emptinessTarget? = none := by
  induction h with
  | convert kind h ih => rw [emptinessTarget?_convert, ih]
  | _ => simp [emptinessTarget?, unwrapped]

theorem isPredicate_of_emptinessTarget? {e target : Expr} (he : e.emptinessTarget? = some target)
    (ht : target.IsResolvable shape) : e.IsPredicate shape := by
  induction e using Expr.unwrapped.induct with
  | case1 kind e ih =>
      rw [emptinessTarget?_convert] at he
      exact .convert kind (ih he)
  | case2 e hne =>
      have hu : e.unwrapped = e := by rw [unwrapped]; exact hne
      obtain ⟨argument, ha⟩ := Filter.emptinessTarget?_eq_some_iff.mp he
      rw [hu] at ha
      subst ha
      exact .isEmpty argument ht

/-- A test for a missing or empty text that is a predicate is one of a column. -/
theorem IsPredicate.emptinessTarget? {e target : Expr} (h : e.IsPredicate shape)
    (he : e.emptinessTarget? = some target) : target.IsResolvable shape := by
  induction h with
  | convert kind h ih =>
      rw [emptinessTarget?_convert] at he
      exact ih he
  | column h =>
      rw [h.emptinessTarget?_eq_none] at he
      cases he
  | isEmpty argument ht =>
      simp only [Expr.emptinessTarget?, unwrapped, Option.some.injEq] at he
      rwa [← he]
  | @onText test hne target argument v ht ha =>
      cases test <;> simp [Expr.emptinessTarget?, unwrapped] at he hne
  | _ => simp [Expr.emptinessTarget?, unwrapped] at he

theorem Asks.isPredicate {e : Expr} {c : Sql.Condition} (h : e.Asks mapper shape c) :
    e.IsPredicate shape := by
  induction h with
  | convert kind h ih => exact .convert kind ih
  | and hl hr ihl ihr => exact .and ihl ihr
  | or hl hr ihl ihr => exact .or ihl ihr
  | not ht h ih => exact .not ih
  | notEmpty ht h => exact .not (isPredicate_of_emptinessTarget? ht h.isResolvable)
  | columnLiteral op hl hr hv =>
      exact .columnLiteral op hl.isResolvable hr (comparable_of_not_null hv)
  | literalColumn op hl hr hv =>
      exact .literalColumn op hl hr.isResolvable (comparable_of_not_null hv)
  | columns op hl hr => exact .columns op hl.isResolvable hr.isResolvable
  | columnNull negated hl hr =>
      exact .columnLiteral _ hl.isResolvable hr (comparable_nullTest negated)
  | nullColumn negated hl hr =>
      exact .literalColumn _ hl hr.isResolvable (comparable_nullTest negated)
  | contains ht ha => exact .onText (by simp) ht.isResolvable ha
  | startsWith ht ha => exact .onText (by simp) ht.isResolvable ha
  | endsWith ht ha => exact .onText (by simp) ht.isResolvable ha
  | equals ht ha => exact .onText (by simp) ht.isResolvable ha
  | isEmpty argument ht => exact .isEmpty argument ht.isResolvable
  | column h => exact .column h.isResolvable
  | truth b => exact .truth b

theorem IsPredicate.asks {e : Expr} (h : e.IsPredicate shape) (mapper : Mapper) :
    ∃ c, e.Asks mapper shape c := by
  induction h with
  | convert kind h ih =>
      obtain ⟨c, hc⟩ := ih
      exact ⟨_, .convert kind hc⟩
  | and hl hr ihl ihr =>
      obtain ⟨a, ha⟩ := ihl
      obtain ⟨b, hb⟩ := ihr
      exact ⟨_, .and ha hb⟩
  | or hl hr ihl ihr =>
      obtain ⟨a, ha⟩ := ihl
      obtain ⟨b, hb⟩ := ihr
      exact ⟨_, .or ha hb⟩
  | @not e h ih =>
      obtain ⟨c, hc⟩ := ih
      -- a negated test for emptiness asks for more than its condition negated
      cases ht : e.emptinessTarget? with
      | none => exact ⟨_, .not ht hc⟩
      | some target =>
          obtain ⟨column, hn⟩ := (h.emptinessTarget? ht).names mapper
          exact ⟨_, .notEmpty ht hn⟩
  | truth b => exact ⟨_, .truth b⟩
  | column h =>
      obtain ⟨column, hn⟩ := h.names mapper
      exact ⟨_, .column hn⟩
  | isEmpty argument ht =>
      obtain ⟨column, hn⟩ := ht.names mapper
      exact ⟨_, .isEmpty argument hn⟩
  | @onText test hne target argument v ht ha =>
      obtain ⟨column, hn⟩ := ht.names mapper
      cases test with
      | contains => exact ⟨_, .contains hn ha⟩
      | startsWith => exact ⟨_, .startsWith hn ha⟩
      | endsWith => exact ⟨_, .endsWith hn ha⟩
      | equals => exact ⟨_, .equals hn ha⟩
      | isNullOrEmpty => exact absurd rfl hne
  | columnLiteral op hl hr hv =>
      obtain ⟨column, hn⟩ := hl.names mapper
      -- the missing value is compared for equality only
      rcases hv.cases with hv | ⟨rfl, negated, rfl⟩
      · exact ⟨_, .columnLiteral op hn hr hv⟩
      · exact ⟨_, .columnNull negated hn hr⟩
  | literalColumn op hl hr hv =>
      obtain ⟨column, hn⟩ := hr.names mapper
      rcases hv.cases with hv | ⟨rfl, negated, rfl⟩
      · exact ⟨_, .literalColumn op hl hn hv⟩
      · exact ⟨_, .nullColumn negated hl hn⟩
  | columns op hl hr =>
      obtain ⟨a, ha⟩ := hl.names mapper
      obtain ⟨b, hb⟩ := hr.names mapper
      exact ⟨_, .columns op ha hb⟩

/-- **The language of predicates is the same under every mapper**, and each of its predicates asks
for a condition. -/
theorem isPredicate_iff_asks (mapper : Mapper) {e : Expr} :
    e.IsPredicate shape ↔ ∃ c, e.Asks mapper shape c :=
  ⟨fun h => h.asks mapper, fun ⟨_, h⟩ => h.isPredicate⟩

/-- A predicate is in the language exactly when it has a filter. -/
theorem isPredicate_iff_ofExpr (mapper : Mapper) {e : Expr} :
    e.IsPredicate shape ↔ ∃ f, Filter.ofExpr mapper shape e = .ok f := by
  rw [isPredicate_iff_asks mapper]
  constructor
  · rintro ⟨c, hc⟩
    obtain ⟨f, hf, -⟩ := Filter.ofExpr_of_asks hc
    exact ⟨f, hf⟩
  · rintro ⟨f, hf⟩
    exact ⟨_, Filter.asks_of_ofExpr hf⟩

end Expr

end SheetQuery
