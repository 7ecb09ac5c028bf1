import SheetQuery.Proofs.Compile.Filtering
import SheetQuery.Proofs.Compile.Operators

/-!
# Filters in another order

The filters of a query make one conjunction, and of a conjunction a row shows neither the order nor
the grouping. Text, parameters and the list of used columns all come out in another order; what they
say stays the same: the rows that are kept and the columns that are needed for it.

What compiling makes of a body is therefore compared by membership, once for the predicates
(`FiltersAlike`) and once for the clauses (`Clauses.Alike`); the steps after the predicates keep the
second.

Main statement: `compile_refiltered`.
-/

namespace SheetQuery

open Sql

/-- The clause is a filter. -/
def Clause.isFilter : Clause → Bool
  | .filter _ => true
  | _ => false

/-- **The same filters in another way.** Filters change places, while the other clauses keep theirs
among themselves, and two filters in a row become one for both. -/
inductive Refiltered : List Clause → List Clause → Prop where
  | permuted {body body' : List Clause} (h : body.Perm body')
      (hrest : body'.filter (!·.isFilter) = body.filter (!·.isFilter)) : Refiltered body body'
  | joined (before after : List Clause) (p q : Expr) :
      Refiltered (before ++ .filter p :: .filter q :: after)
        (before ++ .filter (p.and q) :: after)
  | symm {body body' : List Clause} (h : Refiltered body body') : Refiltered body' body
  | trans {body body' body'' : List Clause} (h : Refiltered body body')
      (h' : Refiltered body' body'') : Refiltered body body''

/-! ## Predicates -/

namespace Expr

variable {mapper : Mapper} {shape : ItemShape} {columns : List String} {row : List Value}
  {name : String} {p q first : Expr} {rest : List Expr}

/-- The predicate has a filter, and the filter keeps the row. -/
def Keeps (mapper : Mapper) (shape : ItemShape) (columns : List String) (row : List Value)
    (p : Expr) : Prop :=
  ∃ f, Filter.ofExpr mapper shape p = .ok f ∧ f.condition.holds columns row = true

/-- The predicate has a filter, and the filter is over that column. -/
def FiltersBy (mapper : Mapper) (shape : ItemShape) (p : Expr) (name : String) : Prop :=
  ∃ f, Filter.ofExpr mapper shape p = .ok f ∧ name ∈ f.columns

theorem ofExpr_and_iff {f : Filter} : Filter.ofExpr mapper shape (p.and q) = .ok f ↔
    ∃ a b, Filter.ofExpr mapper shape p = .ok a ∧ Filter.ofExpr mapper shape q = .ok b ∧
      a.and b = f := by
  rw [Expr.and, Filter.ofExpr]
  constructor
  · intro h
    obtain ⟨a, ha, h⟩ := bind_eq_ok_iff.mp h
    obtain ⟨b, hb, h⟩ := bind_eq_ok_iff.mp h
    exact ⟨a, b, ha, hb, Except.ok.inj h⟩
  · rintro ⟨a, b, ha, hb, rfl⟩
    exact bind_eq_ok_iff.mpr ⟨a, ha, bind_eq_ok_iff.mpr ⟨b, hb, rfl⟩⟩

theorem keeps_and : (p.and q).Keeps mapper shape columns row ↔
    p.Keeps mapper shape columns row ∧ q.Keeps mapper shape columns row := by
  constructor
  · rintro ⟨f, hf, hholds⟩
    obtain ⟨a, b, ha, hb, rfl⟩ := ofExpr_and_iff.mp hf
    obtain ⟨hleft, hright⟩ := Bool.and_eq_true_iff.mp hholds
    exact ⟨⟨a, ha, hleft⟩, b, hb, hright⟩
  · rintro ⟨⟨a, ha, hleft⟩, b, hb, hright⟩
    exact ⟨a.and b, ofExpr_and_iff.mpr ⟨a, b, ha, hb, rfl⟩, Bool.and_eq_true_iff.mpr ⟨hleft, hright⟩⟩

theorem filtersBy_and (hp : p.IsPredicate shape) (hq : q.IsPredicate shape) :
    (p.and q).FiltersBy mapper shape name ↔
      p.FiltersBy mapper shape name ∨ q.FiltersBy mapper shape name := by
  constructor
  · rintro ⟨f, hf, hname⟩
    obtain ⟨a, b, ha, hb, rfl⟩ := ofExpr_and_iff.mp hf
    exact (List.mem_append.mp hname).imp (fun h => ⟨a, ha, h⟩) fun h => ⟨b, hb, h⟩
  · obtain ⟨a, ha⟩ := (isPredicate_iff_ofExpr mapper).mp hp
    obtain ⟨b, hb⟩ := (isPredicate_iff_ofExpr mapper).mp hq
    have hboth := ofExpr_and_iff.mpr ⟨a, b, ha, hb, rfl⟩
    rintro (⟨f, hf, hname⟩ | ⟨f, hf, hname⟩)
    · obtain rfl := Except.ok.inj (ha.symm.trans hf)
      exact ⟨_, hboth, List.mem_append_left _ hname⟩
    · obtain rfl := Except.ok.inj (hb.symm.trans hf)
      exact ⟨_, hboth, List.mem_append_right _ hname⟩

theorem keeps_foldl_and : (rest.foldl Expr.and first).Keeps mapper shape columns row ↔
    ∀ p ∈ first :: rest, p.Keeps mapper shape columns row := by
  induction rest generalizing first with
  | nil => simp
  | cons second rest ih => rw [List.foldl_cons, ih, List.forall_mem_cons, keeps_and, and_assoc,
      List.forall_mem_cons, List.forall_mem_cons]

theorem filtersBy_foldl_and (h : ∀ p ∈ first :: rest, p.IsPredicate shape) :
    (rest.foldl Expr.and first).FiltersBy mapper shape name ↔
      ∃ p ∈ first :: rest, p.FiltersBy mapper shape name := by
  induction rest generalizing first with
  | nil => simp
  | cons second rest ih =>
      obtain ⟨hfirst, hsecond, hrest⟩ : _ ∧ _ ∧ _ := by
        simpa only [List.forall_mem_cons] using h
      have hboth := isPredicate_and_iff.mpr ⟨hfirst, hsecond⟩
      rw [List.foldl_cons, ih (List.forall_mem_cons.mpr ⟨hboth, hrest⟩)]
      simp only [List.exists_mem_cons_iff, filtersBy_and hfirst hsecond, or_assoc]

end Expr

/-! ## Bodies -/

/-- **Two bodies whose filters say the same**: they are accepted together, they keep the same rows,
and they are over the same columns. -/
structure FiltersAlike (mapper : Mapper) (shape : ItemShape) (body body' : List Clause) : Prop where
  rest : body'.filter (!·.isFilter) = body.filter (!·.isFilter)
  accepted : (∀ p, .filter p ∈ body → p.IsPredicate shape) ↔
    ∀ p, .filter p ∈ body' → p.IsPredicate shape
  keeps : ∀ columns row, (∀ p, .filter p ∈ body → p.Keeps mapper shape columns row) ↔
    ∀ p, .filter p ∈ body' → p.Keeps mapper shape columns row
  columns : (∀ p, .filter p ∈ body → p.IsPredicate shape) → ∀ name,
    (∃ p, .filter p ∈ body ∧ p.FiltersBy mapper shape name) ↔
      ∃ p, .filter p ∈ body' ∧ p.FiltersBy mapper shape name

section Bodies

variable {mapper : Mapper} {shape : ItemShape} {body body' body'' : List Clause}

theorem FiltersAlike.symm (h : FiltersAlike mapper shape body body') :
    FiltersAlike mapper shape body' body :=
  ⟨h.rest.symm, h.accepted.symm, fun columns row => (h.keeps columns row).symm,
    fun hall name => (h.columns (h.accepted.mpr hall) name).symm⟩

theorem FiltersAlike.trans (h : FiltersAlike mapper shape body body')
    (h' : FiltersAlike mapper shape body' body'') : FiltersAlike mapper shape body body'' :=
  ⟨h'.rest.trans h.rest, h.accepted.trans h'.accepted,
    fun columns row => (h.keeps columns row).trans (h'.keeps columns row),
    fun hall name => (h.columns hall name).trans (h'.columns (h.accepted.mp hall) name)⟩

theorem filtersAlike_of_mem_iff (hrest : body'.filter (!·.isFilter) = body.filter (!·.isFilter))
    (h : ∀ p, .filter p ∈ body ↔ .filter p ∈ body') : FiltersAlike mapper shape body body' := by
  refine ⟨hrest, ?_, ?_, ?_⟩ <;> simp only [h, implies_true]

/-- Quantified over the filters of a body, one filter for both is as good as the two. -/
theorem filtersAlike_joined (before after : List Clause) (p q : Expr) :
    FiltersAlike mapper shape (before ++ .filter p :: .filter q :: after)
      (before ++ .filter (p.and q) :: after) where
  rest := by simp [Clause.isFilter]
  accepted := by
    simp only [List.mem_append, List.mem_cons, Clause.filter.injEq, or_imp, forall_and,
      forall_eq, Expr.isPredicate_and_iff, and_assoc]
  keeps columns row := by
    simp only [List.mem_append, List.mem_cons, Clause.filter.injEq, or_imp, forall_and,
      forall_eq, Expr.keeps_and, and_assoc]
  columns hall name := by
    have hp := hall p (by simp)
    have hq := hall q (by simp)
    simp only [List.mem_append, List.mem_cons, Clause.filter.injEq, or_and_right, exists_or,
      exists_eq_left, Expr.filtersBy_and hp hq, or_assoc]

/-- **However the filters are rearranged, they say the same.** By induction on the changes. -/
theorem filtersAlike_of_refiltered (mapper : Mapper) (shape : ItemShape)
    (h : Refiltered body body') : FiltersAlike mapper shape body body' := by
  induction h with
  | permuted h hrest => exact filtersAlike_of_mem_iff hrest fun p => h.mem_iff
  | joined before after p q => exact filtersAlike_joined before after p q
  | symm h ih => exact ih.symm
  | trans h h' ih ih' => exact ih.trans ih'

end Bodies

/-- The leading key is found among the clauses that are no filters. -/
theorem Model.leadingKey?_eq_of_rest {m : Model} {body : List Clause}
    (h : body.filter (!·.isFilter) = m.body.filter (!·.isFilter)) :
    ({ m with body := body } : Model).leadingKey? = m.leadingKey? := by
  have hrest : ∀ body : List Clause, ({ m with body := body } : Model).leadingKey? =
      ({ m with body := body.filter (!·.isFilter) } : Model).leadingKey? := by
    intro body
    unfold leadingKey?
    induction body with
    | nil => rfl
    | cons clause rest ih =>
        cases clause with
        | filter p => exact ih
        | orderBy keys =>
            cases keys with
            | nil => exact ih
            | cons key keys => rfl
        | join join => exact ih
        | groupJoin join => exact ih
  rw [hrest, h, ← hrest m.body]

theorem mem_rest_of_isJoin {body : List Clause} {clause : Clause} (h : clause.IsJoin) :
    clause ∈ body.filter (!·.isFilter) ↔ clause ∈ body := by
  rw [List.mem_filter]
  cases h <;> exact and_iff_left rfl

theorem FiltersAlike.isCompilable {mapper : Mapper} {m : Model} {body : List Clause}
    (h : FiltersAlike mapper m.shape m.body body) (hm : m.IsCompilable) :
    ({ m with body := body } : Model).IsCompilable where
  joins clause hmem hjoin := by
    rw [← mem_rest_of_isJoin hjoin, h.rest, mem_rest_of_isJoin hjoin] at hmem
    exact hm.joins clause hmem hjoin
  predicates := h.accepted.mp hm.predicates
  ordering key hkey := by
    rw [← Model.leadingKey?_eq_some_iff, Model.leadingKey?_eq_of_rest h.rest,
      Model.leadingKey?_eq_some_iff] at hkey
    exact hm.ordering key hkey
  operators := hm.operators
  selector := hm.selector

/-! ## Clauses -/

/-- The operator sets one selection at most, whatever the body of the query is. -/
theorem Operator.Selects.unique {mapper : Mapper} {m : Model} {body : List Clause}
    {operator : Operator} {selection selection' : Selection}
    (h : operator.Selects mapper m selection)
    (h' : operator.Selects mapper { m with body := body } selection') : selection' = selection := by
  have hsame : ∀ {a b : String}, m.SelectsColumn mapper a →
      Model.SelectsColumn mapper { m with body := body } b → b = a :=
    fun {a b} ha hb => Model.SelectsColumn.unique (m := m) hb ha
  cases h <;> cases h'
  case sum.sum ha _ hb => rw [hsame ha hb]
  case min.min ha _ hb => rw [hsame ha hb]
  case max.max ha _ hb => rw [hsame ha hb]
  case average.average ha _ hb => rw [hsame ha hb]
  case distinct.distinct ha _ hb => rw [hsame ha hb]
  all_goals rfl

namespace Clauses

variable {mapper : Mapper} {m : Model} {c c' d d' : Clauses} {body : List Clause}

/-- The condition is over that column. -/
def FiltersBy (c : Clauses) (name : String) : Prop :=
  ∃ f, c.filter = some f ∧ name ∈ f.columns

/-- **Clauses that ask for the same**: the same selection in the same order, and of every table the
same rows, by the same columns. -/
structure Alike (c c' : Clauses) : Prop where
  selection : c'.selection = c.selection
  orderBy : c'.orderBy = c.orderBy
  keeps : ∀ columns row, c'.keeps columns row = c.keeps columns row
  filtersBy : ∀ name, c'.FiltersBy name ↔ c.FiltersBy name
  used : ∀ name, name ∈ c'.columnsUsed ↔ name ∈ c.columnsUsed

/-- What the predicates of a query make of clauses that are about everything. -/
theorem withPredicates_all (h : all.withPredicates mapper m = .ok c) :
    c.selection = .all ∧ c.orderBy = none ∧
      (∀ columns row, c.keeps columns row = true ↔
        ∀ p, .filter p ∈ m.body → p.Keeps mapper m.shape columns row) ∧
      (∀ name, c.FiltersBy name ↔ ∃ p, .filter p ∈ m.body ∧ p.FiltersBy mapper m.shape name) ∧
      ∀ name, name ∈ c.columnsUsed ↔ c.FiltersBy name := by
  have hpredicates := withPredicates_ok_iff.mp ⟨c, h⟩
  simp only [← Model.mem_predicates_iff]
  rcases withPredicates_cases h with ⟨hp, rfl⟩ | ⟨first, rest, filter, hp, hf, rfl⟩
  · refine ⟨rfl, rfl, ?_, ?_, ?_⟩
    · exact fun columns row => iff_of_true rfl (by simp [hp])
    · exact fun name => iff_of_false (by rintro ⟨f, hf, -⟩; cases hf) (by simp [hp])
    · exact fun name => iff_of_false nofun (by rintro ⟨f, hf, -⟩; cases hf)
  · rw [hp] at hpredicates ⊢
    refine ⟨rfl, rfl, ?_, ?_, ?_⟩
    · intro columns row
      rw [← Expr.keeps_foldl_and, Expr.Keeps, hf]
      exact ⟨fun hkeeps => ⟨filter, rfl, hkeeps⟩, fun ⟨f, hsame, hholds⟩ =>
        Except.ok.inj hsame ▸ hholds⟩
    · intro name
      rw [← Expr.filtersBy_foldl_and hpredicates, Expr.FiltersBy, hf, FiltersBy]
      simp only [Option.some.injEq, Except.ok.injEq]
    · intro name
      rw [mem_foldl_useColumn, FiltersBy]
      simp [all]

/-- The conditions of bodies whose filters say the same are alike. -/
theorem alike_withPredicates (h : FiltersAlike mapper m.shape m.body body)
    (hc : all.withPredicates mapper m = .ok c)
    (hc' : all.withPredicates mapper { m with body := body } = .ok c') : c.Alike c' := by
  obtain ⟨hselection, horder, hkeeps, hcolumns, hused⟩ := withPredicates_all hc
  obtain ⟨hselection', horder', hkeeps', hcolumns', hused'⟩ := withPredicates_all hc'
  have haccepted : ∀ p, .filter p ∈ m.body → p.IsPredicate m.shape := fun p hp =>
    withPredicates_ok_iff.mp ⟨c, hc⟩ p (Model.mem_predicates_iff.mpr hp)
  have hby : ∀ name, c'.FiltersBy name ↔ c.FiltersBy name := fun name => by
    rw [hcolumns, hcolumns', h.columns haccepted]
  refine ⟨hselection'.trans hselection.symm, horder'.trans horder.symm, ?_, hby, ?_⟩
  · intro columns row
    rw [Bool.eq_iff_iff, hkeeps, hkeeps', h.keeps]
  · intro name
    rw [hused, hused', hby]

/-! ### The steps after the predicates -/

theorem Alike.withOrdering (h : c.Alike c')
    (hrest : body.filter (!·.isFilter) = m.body.filter (!·.isFilter))
    (hd : c.withOrdering mapper m = .ok d)
    (hd' : c'.withOrdering mapper { m with body := body } = .ok d') : d.Alike d' := by
  have hkey := Model.leadingKey?_eq_of_rest hrest
  rcases withOrdering_cases hd with ⟨hnone, rfl⟩ | ⟨key, column, hsome, hnames, rfl⟩
  · rcases withOrdering_cases hd' with ⟨-, rfl⟩ | ⟨key', column', hsome', -, -⟩
    · exact h
    · rw [hkey, hnone] at hsome'
      cases hsome'
  · rcases withOrdering_cases hd' with ⟨hnone', -⟩ | ⟨key', column', hsome', hnames', rfl⟩
    · rw [hkey, hsome] at hnone'
      cases hnone'
    · obtain rfl : key' = key := Option.some.inj (hsome'.symm.trans (hkey.trans hsome))
      obtain rfl : column' = column := hnames'.unique hnames
      refine ⟨h.selection, rfl, h.keeps, h.filtersBy, ?_⟩
      intro name
      rw [mem_useColumn, mem_useColumn, h.used]

theorem Alike.withOperator (h : c.Alike c') {operator : Operator}
    (hd : withOperator mapper m c operator = .ok d)
    (hd' : withOperator mapper { m with body := body } c' operator = .ok d') : d.Alike d' := by
  rcases withOperator_cases hd with ⟨hlocal, rfl⟩ | ⟨selection, hselects, rfl⟩
  · rcases withOperator_cases hd' with ⟨-, rfl⟩ | ⟨selection', hselects', -⟩
    · exact h
    · cases hlocal <;> cases hselects'
  · rcases withOperator_cases hd' with ⟨hlocal', -⟩ | ⟨selection', hselects', rfl⟩
    · cases hlocal' <;> cases hselects
    · obtain rfl := hselects.unique hselects'
      refine ⟨rfl, h.orderBy, h.keeps, h.filtersBy, ?_⟩
      intro name
      show name ∈ List.foldl useColumn c'.columnsUsed _ ↔ name ∈ List.foldl useColumn c.columnsUsed _
      rw [mem_foldl_useColumn, mem_foldl_useColumn, h.used]

/-- By induction on the operators, each of which keeps the clauses alike. -/
theorem Alike.foldlM_withOperator {operators : List Operator} (h : c.Alike c')
    (hd : operators.foldlM (Clauses.withOperator mapper m) c = .ok d)
    (hd' : operators.foldlM (Clauses.withOperator mapper { m with body := body }) c' = .ok d') :
    d.Alike d' := by
  induction operators generalizing c c' with
  | nil =>
      cases hd
      cases hd'
      exact h
  | cons operator rest ih =>
      rw [List.foldlM_cons] at hd hd'
      obtain ⟨c₁, hstep, hrest⟩ := bind_eq_ok_iff.mp hd
      obtain ⟨c₁', hstep', hrest'⟩ := bind_eq_ok_iff.mp hd'
      exact ih (h.withOperator hstep hstep') hrest hrest'

end Clauses

/-- **A query compiles with its filters in another order, or with two of them in one, exactly when it
compiles as it is, and then it asks for the same.** -/
theorem compile_refiltered (mapper : Mapper) {m : Model} {body : List Clause}
    (h : Refiltered m.body body) :
    ((∃ c, compile mapper m = .ok c) ↔ ∃ c', compile mapper { m with body := body } = .ok c') ∧
      ∀ c c', compile mapper m = .ok c → compile mapper { m with body := body } = .ok c' →
        c.Alike c' := by
  have halike := filtersAlike_of_refiltered mapper m.shape h
  refine ⟨?_, ?_⟩
  · rw [compile_ok_iff, compile_ok_iff]
    exact ⟨halike.isCompilable, FiltersAlike.isCompilable (m := { m with body := body }) halike.symm⟩
  · intro c c' hc hc'
    obtain ⟨-, filtered, hfilter, ordered, horder, hrun⟩ := compile_eq_ok_iff.mp hc
    obtain ⟨-, filtered', hfilter', ordered', horder', hrun'⟩ := compile_eq_ok_iff.mp hc'
    exact ((Clauses.alike_withPredicates halike hfilter hfilter').withOrdering halike.rest horder
      horder').foldlM_withOperator hrun hrun'

end SheetQuery
