import SheetQuery.Proofs.Session.Naming

/-!
# The columns of a query

Compiling notes the columns that it meets, each of them once: those of the predicates from left to
right, then the one that is sorted by, then the one that an operator works on. An operator that is
overruled by a later one has had its column noted all the same. So the note may have more than the
statement names, never less, and all of it comes from some access that is written in the query.

Main statement: `columnsUsed_of_compile`.
-/

namespace SheetQuery

open Sql

/-! ## First uses -/

/-- Using one name more is putting it behind all of them and keeping the first use of each. -/
theorem useColumn_eraseDups (names : List String) (column : String) :
    useColumn names.eraseDups column = (names ++ [column]).eraseDups := by
  rw [List.eraseDups_append, useColumn]
  by_cases hmem : column ∈ names
  · rw [if_pos (List.contains_iff_mem.mpr (List.mem_eraseDups.mpr hmem))]
    have hnone : [column].removeAll names = [] := by simp [List.removeAll, hmem]
    rw [hnone, List.eraseDups_nil, List.append_nil]
  · rw [if_neg fun h => hmem (List.mem_eraseDups.mp (List.contains_iff_mem.mp h))]
    have hnew : [column].removeAll names = [column] := by simp [List.removeAll, hmem]
    rw [hnew]
    rfl

/-- Using names one after the other keeps the first use of each. -/
theorem foldl_useColumn_eraseDups (names used : List String) :
    names.foldl useColumn used.eraseDups = (used ++ names).eraseDups := by
  induction names generalizing used with
  | nil => rw [List.append_nil, List.foldl_nil]
  | cons column names ih =>
      rw [List.foldl_cons, useColumn_eraseDups, ih, List.append_assoc, List.singleton_append]

theorem nodup_useColumn {used : List String} (h : used.Nodup) (column : String) :
    (useColumn used column).Nodup := by
  unfold useColumn
  split
  · exact h
  · next hnew =>
      rw [List.contains_iff_mem] at hnew
      exact List.nodup_append.mpr ⟨h, List.nodup_singleton _, fun a ha b hb => by
        rintro rfl
        exact hnew (List.mem_singleton.mp hb ▸ ha)⟩

theorem nodup_foldl_useColumn {names used : List String} (h : used.Nodup) :
    (names.foldl useColumn used).Nodup := by
  induction names generalizing used with
  | nil => exact h
  | cons column names ih => exact ih (nodup_useColumn h column)

theorem nodup_eraseDups (names : List String) : names.eraseDups.Nodup := by
  have hfold := foldl_useColumn_eraseDups names []
  rw [List.nil_append] at hfold
  rw [← hfold]
  exact nodup_foldl_useColumn List.nodup_nil

/-! ## Accesses -/

namespace Expr

mutual

/-- The accesses to columns in an expression, from left to right. A test for emptiness asks for no
argument, so nothing is looked up in one. -/
def accesses : Expr → List Expr
  | .member id name => [.member id name]
  | .column id c => [.column id c]
  | .binary _ left right => accesses left ++ accesses right
  | .not e => accesses e
  | .test .isNullOrEmpty target _ => accesses target
  | .test _ target none => accesses target
  | .test _ target (some argument) => accesses target ++ accesses argument
  | .apply _ e => accesses e
  | .convert _ e => accesses e
  | .record fields => fieldAccesses fields
  | .source _ | .literal _ | .subquery => []

/-- The accesses to columns in the fields of a record. -/
def fieldAccesses : List (String × Expr) → List Expr
  | [] => []
  | (_, e) :: rest => accesses e ++ fieldAccesses rest

end

variable {mapper : Mapper} {shape : ItemShape}

theorem accesses_unwrapped (e : Expr) : e.unwrapped.accesses = e.accesses := by
  fun_induction unwrapped e with
  | case1 kind e ih => rw [ih, accesses]
  | case2 e h => rfl

theorem accesses_of_isLiteral {e : Expr} {v : Value} (h : e.IsLiteral v) : e.accesses = [] := by
  rw [← accesses_unwrapped, isLiteral_iff.mp h, accesses]

theorem names_unwrapped {e : Expr} {column : String} (h : e.Names mapper shape column) :
    e.unwrapped.Names mapper shape column := by
  induction h with
  | convert kind h ih => rwa [unwrapped_convert]
  | member name => exact .member name
  | named name h => exact .named name h
  | positioned index h => exact .positioned index h

/-- What names a column is an access and has no other in it. -/
theorem accesses_of_names {e : Expr} {column : String} (h : e.Names mapper shape column) :
    e.accesses = [e.unwrapped] := by
  rw [← accesses_unwrapped]
  induction h with
  | convert kind h ih => rwa [unwrapped_convert]
  | _ => simp only [unwrapped, accesses]

theorem forall₂_accesses_of_names {e : Expr} {column : String} (h : e.Names mapper shape column) :
    List.Forall₂ (Names mapper shape) e.accesses [column] := by
  rw [accesses_of_names h]
  exact .cons (names_unwrapped h) .nil

/-- A conjunction accesses what its members access, one behind the other. -/
theorem accesses_foldl_and (first : Expr) (rest : List Expr) :
    (rest.foldl Expr.and first).accesses = (first :: rest).flatMap accesses := by
  induction rest generalizing first with
  | nil => simp
  | cons second rest ih =>
      rw [List.foldl_cons, ih]
      simp [Expr.and, accesses]

end Expr

/-! ## Predicates -/

namespace Filter

open SheetQuery.Expr

variable {mapper : Mapper} {shape : ItemShape}

/-- The columns of a comparison with a column are the two that stand in it. -/
theorem forall₂_columns_of_ofColumnComparison {access other : Expr} {op : Comparison} {f : Filter}
    (h : ofColumnComparison mapper shape access op other = .ok f) :
    List.Forall₂ (Names mapper shape) (access.accesses ++ other.accesses) f.columns := by
  obtain ⟨column, hc, hf⟩ := ofColumnComparison_cases h
  have haccess := forall₂_accesses_of_names hc
  rcases hf with ⟨negated, hl, -, rfl⟩ | ⟨v, hl, -, rfl⟩ | ⟨b, hb, rfl⟩
  · rwa [accesses_of_isLiteral hl, List.append_nil]
  · rwa [accesses_of_isLiteral hl, List.append_nil]
  · exact List.rel_append haccess (forall₂_accesses_of_names hb)

/-- Where the column is on the right there is none on the left, so trading them is not seen. -/
theorem forall₂_columns_of_ofComparison {op : Comparison} {l r : Expr} {f : Filter}
    (h : ofComparison mapper shape op l r = .ok f) :
    List.Forall₂ (Names mapper shape) (l.accesses ++ r.accesses) f.columns := by
  unfold ofComparison at h
  split at h
  · exact forall₂_columns_of_ofColumnComparison h
  · next hleft =>
    split at h
    · have hnone : l.accesses = [] := by
        obtain ⟨column, -, hf⟩ := ofColumnComparison_cases h
        rcases hf with ⟨negated, hl, -, -⟩ | ⟨v, hl, -, -⟩ | ⟨b, hl, -⟩
        · exact accesses_of_isLiteral hl
        · exact accesses_of_isLiteral hl
        · exact absurd hl.isColumnAccess hleft
      have hcolumns := forall₂_columns_of_ofColumnComparison h
      rw [hnone, List.append_nil] at hcolumns
      rwa [hnone, List.nil_append]
    · cases h

theorem forall₂_columns_of_ofTest {test : TextTest} {target : Expr} {argument : Option Expr}
    {f : Filter} (h : ofTest mapper shape test target argument = .ok f) :
    List.Forall₂ (Names mapper shape) (Expr.test test target argument).accesses f.columns := by
  unfold ofTest at h
  split at h
  · obtain ⟨column, hc, h⟩ := bind_eq_ok_iff.mp h
    have htarget := forall₂_accesses_of_names (names_of_resolveColumn hc)
    -- the argument of every other test is a literal, in which there is nothing to access
    cases test with
    | isNullOrEmpty =>
        cases h
        exact htarget
    | _ =>
        obtain ⟨e, v, rfl, he, rfl⟩ := bind_argumentText_eq_ok h
        rw [accesses, accesses_of_isLiteral he, List.append_nil]
        · exact htarget
        · exact nofun
  · cases h

/-- **The columns of a filter are those that its predicate accesses**, one for each access, in the
order in which the accesses stand. By induction on the recursion of the translation. -/
theorem forall₂_columns_of_ofExpr {e : Expr} {f : Filter} (h : ofExpr mapper shape e = .ok f) :
    List.Forall₂ (Names mapper shape) e.accesses f.columns := by
  induction e using ofExpr.induct generalizing f with
  | case1 kind e ih =>
      rw [ofExpr] at h
      rw [accesses]
      exact ih h
  | case2 l r ihl ihr =>
      rw [ofExpr] at h
      obtain ⟨a, hl, h⟩ := bind_eq_ok_iff.mp h
      obtain ⟨b, hr, h⟩ := bind_eq_ok_iff.mp h
      cases h
      rw [accesses]
      exact List.rel_append (ihl hl) (ihr hr)
  | case3 l r ihl ihr =>
      rw [ofExpr] at h
      obtain ⟨a, hl, h⟩ := bind_eq_ok_iff.mp h
      obtain ⟨b, hr, h⟩ := bind_eq_ok_iff.mp h
      cases h
      rw [accesses]
      exact List.rel_append (ihl hl) (ihr hr)
  | case4 op l r =>
      rw [ofExpr] at h
      rw [accesses]
      exact forall₂_columns_of_ofComparison h
  | case5 op l r =>
      rw [ofExpr] at h
      cases h
  | case6 e target argument he =>
      simp only [ofExpr, he] at h
      obtain ⟨column, hc, rfl⟩ := map_eq_ok_iff.mp h
      rw [accesses, ← accesses_unwrapped, he, accesses]
      exact forall₂_accesses_of_names (names_of_resolveColumn hc)
  | case7 e he ih =>
      rw [ofExpr] at h
      split at h
      · next target argument ha => exact (he target argument ha).elim
      · obtain ⟨a, hi, rfl⟩ := map_eq_ok_iff.mp h
        have hcolumns := ih hi
        rw [accesses]
        exact hcolumns
  | case8 test target argument =>
      rw [ofExpr] at h
      exact forall₂_columns_of_ofTest h
  | case9 source name =>
      rw [ofExpr] at h
      obtain ⟨column, hc, rfl⟩ := map_eq_ok_iff.mp h
      exact forall₂_accesses_of_names (names_of_resolveColumn hc)
  | case10 source column =>
      rw [ofExpr] at h
      obtain ⟨column, hc, rfl⟩ := map_eq_ok_iff.mp h
      exact forall₂_accesses_of_names (names_of_resolveColumn hc)
  | case11 b =>
      rw [ofExpr] at h
      cases h
      rw [accesses]
      exact .nil
  | case12 e =>
      -- no other shape has a filter
      rw [ofExpr] at h <;> first | assumption | cases h

end Filter

/-! ## Compiling -/

namespace Clauses

variable {mapper : Mapper} {m : Model} {c c' : Clauses}

/-- The predicates are met first: what is used after them is what they access. -/
theorem columnsUsed_withPredicates (h : Clauses.all.withPredicates mapper m = .ok c) :
    ∃ used, List.Forall₂ (Expr.Names mapper m.shape) (m.predicates.flatMap Expr.accesses) used ∧
      c.columnsUsed = used.eraseDups := by
  rcases withPredicates_cases h with ⟨hp, rfl⟩ | ⟨first, rest, filter, hp, hf, rfl⟩
  · rw [hp]
    exact ⟨[], .nil, rfl⟩
  · rw [hp, ← Expr.accesses_foldl_and]
    exact ⟨filter.columns, Filter.forall₂_columns_of_ofExpr hf, foldl_useColumn_eraseDups _ []⟩

/-- The column that is sorted by comes after what has been used so far. -/
theorem columnsUsed_withOrdering (h : c.withOrdering mapper m = .ok c') {used : List String}
    (hused : c.columnsUsed = used.eraseDups) :
    ∃ ordering, c'.columnsUsed = (used ++ ordering).eraseDups ∧ ∀ name ∈ ordering,
      ∃ key, m.leadingKey? = some key ∧ key.key.Names mapper m.shape name := by
  rcases withOrdering_cases h with ⟨-, rfl⟩ | ⟨key, column, hk, hn, rfl⟩
  · exact ⟨[], by rw [hused, List.append_nil], nofun⟩
  · refine ⟨[column], ?_, ?_⟩
    · show useColumn c.columnsUsed column = _
      rw [hused, useColumn_eraseDups]
    · intro name hname
      rw [List.mem_singleton.mp hname]
      exact ⟨key, hk, hn⟩

/-- An operator uses at most the selected column. -/
theorem columnsUsed_withOperator {operator : Operator}
    (h : withOperator mapper m c operator = .ok c') {used : List String}
    (hused : c.columnsUsed = used.eraseDups) :
    ∃ selected, c'.columnsUsed = (used ++ selected).eraseDups ∧
      ∀ name ∈ selected, m.SelectsColumn mapper name := by
  rcases withOperator_cases h with ⟨-, rfl⟩ | ⟨selection, hset, rfl⟩
  · exact ⟨[], by rw [hused, List.append_nil], nofun⟩
  · refine ⟨selection.column?.toList, ?_, ?_⟩
    · show selection.column?.toList.foldl useColumn c.columnsUsed = _
      rw [hused, foldl_useColumn_eraseDups]
    · intro name hname
      have hcolumn := Option.mem_toList.mp hname
      cases hset <;> cases hcolumn <;> assumption

/-- A run of operators uses at most the selected column. By induction on the operators; one that is
overruled later has used its column before. -/
theorem columnsUsed_foldlM_withOperator {operators : List Operator}
    (h : operators.foldlM (withOperator mapper m) c = .ok c') {used : List String}
    (hused : c.columnsUsed = used.eraseDups) :
    ∃ selected, c'.columnsUsed = (used ++ selected).eraseDups ∧
      ∀ name ∈ selected, m.SelectsColumn mapper name := by
  induction operators generalizing c used with
  | nil =>
      cases h
      exact ⟨[], by rw [hused, List.append_nil], nofun⟩
  | cons operator rest ih =>
      rw [List.foldlM_cons] at h
      obtain ⟨c₁, h₁, hrest⟩ := bind_eq_ok_iff.mp h
      obtain ⟨selected, hc₁, hselected⟩ := columnsUsed_withOperator h₁ hused
      obtain ⟨further, hc', hfurther⟩ := ih hrest hc₁
      refine ⟨selected ++ further, by rw [hc', List.append_assoc], ?_⟩
      intro name hname
      exact (List.mem_append.mp hname).elim (hselected name) (hfurther name)

end Clauses

/-- The accesses to columns in the parts of a query that its statement is made from: the predicates
in the order they were given, the leading sort key and the selector. -/
def Model.accesses (m : Model) : List Expr :=
  m.predicates.flatMap Expr.accesses ++
    ((m.leadingKey?.map fun key => key.key.accesses).getD [] ++
      (m.selector.map Expr.accesses).getD [])

/-- How the columns that clauses use are listed: each once, every one of them for some access, and
those of the predicates before the others, by their first access. -/
structure Clauses.ListsColumns (mapper : Mapper) (m : Model) (c : Clauses) : Prop where
  nodup : c.columnsUsed.Nodup
  accessed : ∀ name ∈ c.columnsUsed, ∃ access ∈ m.accesses, access.Names mapper m.shape name
  ordered : ∃ used later,
    List.Forall₂ (Expr.Names mapper m.shape) (m.predicates.flatMap Expr.accesses) used ∧
      c.columnsUsed = used.eraseDups ++ later ∧ ∀ name ∈ later, name ∉ used ∧
        ((∃ key, m.leadingKey? = some key ∧ key.key.Names mapper m.shape name) ∨
          m.SelectsColumn mapper name)

section Compiled

variable {mapper : Mapper} {m : Model} {c : Clauses} {table : Table}

/-- The access behind a column that is sorted by or selected. -/
theorem Model.exists_mem_accesses {name : String}
    (h : (∃ key, m.leadingKey? = some key ∧ key.key.Names mapper m.shape name) ∨
      m.SelectsColumn mapper name) :
    ∃ access ∈ m.accesses, access.Names mapper m.shape name := by
  rcases h with ⟨key, hkey, hn⟩ | ⟨selector, hselector, hn⟩
  · refine ⟨key.key.unwrapped, ?_, Expr.names_unwrapped hn⟩
    simp [Model.accesses, hkey, Expr.accesses_of_names hn]
  · refine ⟨selector.unwrapped, ?_, Expr.names_unwrapped hn⟩
    simp [Model.accesses, hselector, Expr.accesses_of_names hn]

/-- Compiling meets the predicates, then the leading sort key, then the operators. -/
theorem listsColumns_of_compile (h : compile mapper m = .ok c) : c.ListsColumns mapper m := by
  obtain ⟨-, filtered, hfilter, ordered, horder, hoperators⟩ := compile_eq_ok_iff.mp h
  obtain ⟨used, hused, hfiltered⟩ := Clauses.columnsUsed_withPredicates hfilter
  obtain ⟨ordering, hordered, hordering⟩ := Clauses.columnsUsed_withOrdering horder hfiltered
  obtain ⟨selected, hc, hselected⟩ :=
    Clauses.columnsUsed_foldlM_withOperator hoperators hordered
  have hsplit : c.columnsUsed =
      used.eraseDups ++ ((ordering ++ selected).removeAll used).eraseDups := by
    rw [hc, List.append_assoc, List.eraseDups_append]
  have hlater : ∀ name ∈ ((ordering ++ selected).removeAll used).eraseDups, name ∉ used ∧
      ((∃ key, m.leadingKey? = some key ∧ key.key.Names mapper m.shape name) ∨
        m.SelectsColumn mapper name) := by
    intro name hname
    obtain ⟨hmem, hnew⟩ := List.mem_filter.mp (List.mem_eraseDups.mp hname)
    refine ⟨by simpa using hnew, ?_⟩
    exact (List.mem_append.mp hmem).imp (hordering name) (hselected name)
  refine ⟨hc ▸ nodup_eraseDups _, ?_, used, _, hused, hsplit, hlater⟩
  intro name hname
  rw [hsplit] at hname
  rcases List.mem_append.mp hname with hname | hname
  · obtain ⟨access, haccess, hn⟩ := exists_of_mem_right hused (List.mem_eraseDups.mp hname)
    exact ⟨access, List.mem_append_left _ haccess, hn⟩
  · exact Model.exists_mem_accesses (hlater name hname).2

/-- **The columns of a query are those of its statement**, and some more. They are listed once each,
the columns of the predicates before the others and by their first access, and each of them is
accessed in a predicate, in the leading sort key or in the selector. Where the names fit between
brackets, every column that is read off the statement, in its condition, its ordering or its
selection, is listed. -/
theorem columnsUsed_of_compile (hc : compile mapper m = .ok c)
    (hcolumns : ∀ name ∈ c.columnsUsed, IsBracketable name) (htable : ']' ∉ table.reference) :
    c.ListsColumns mapper m ∧
      ((∀ n, .take n ∈ m.operators → n < 2 ^ 63) →
        ∃ s, Statement.read? (c.render table).sql.toList (c.render table).params = .ok s) ∧
      ∀ s, Statement.read? (c.render table).sql.toList (c.render table).params = .ok s →
        ∀ name ∈ s.named, name ∈ c.columnsUsed := by
  refine ⟨listsColumns_of_compile hc, fun htake => ?_, fun s hread name hname => ?_⟩
  · obtain ⟨s, hread, -⟩ := read_render table hc hcolumns htable htake
    exact ⟨s, hread⟩
  · have hcovered := isCovered_of_compile hc
    obtain ⟨name, -, rfl⟩ := hcovered.eq_of_read? hcolumns htable hread
    exact hcovered.named hname

end Compiled

/-- A query that compares a column twice, sorts by one that it has tested, and selects one for an
operator that the next overrules. -/
def adultsByName : Model where
  shape := .row
  selector := some (.convert .text (.ofColumn (.named "City")))
  body := [
    .filter (.binary .and
      (.binary (.compare .le) (.literal (.int 18)) (.ofColumn (.named "Age")))
      (.not (.test .isNullOrEmpty (.ofColumn (.named "Name")) none))),
    .orderBy [⟨.ofColumn (.named "Name"), .ascending⟩],
    .filter (.binary (.compare .ne) (.ofColumn (.named "Age")) (.ofColumn (.named "Room")))]
  operators := [.max, .take 2]

theorem columnsUsed_adultsByName :
    ∃ c, compile .empty adultsByName = .ok c ∧
      c.columnsUsed = ["Age", "Name", "Room", "City"] ∧
      (∀ name ∈ c.columnsUsed, IsBracketable name) ∧
      ']' ∉ (⟨some "People", none, none⟩ : Table).reference ∧ c.ListsColumns .empty adultsByName ∧
      ∃ s, Statement.read? (c.render ⟨some "People", none, none⟩).sql.toList
          (c.render ⟨some "People", none, none⟩).params = .ok s ∧
        ∀ name ∈ s.named, name ∈ c.columnsUsed := by
  obtain ⟨c, hc, hused⟩ : ∃ c, compile .empty adultsByName = .ok c ∧
      c.columnsUsed = ["Age", "Name", "Room", "City"] := ⟨_, rfl, rfl⟩
  have hcolumns : ∀ name ∈ c.columnsUsed, IsBracketable name := by
    rw [hused]
    decide
  have htable : ']' ∉ (⟨some "People", none, none⟩ : Table).reference := by decide
  have htake : ∀ n, .take n ∈ adultsByName.operators → n < 2 ^ 63 := by
    intro n hn
    have h2 : n = 2 := by simpa [adultsByName] using hn
    omega
  obtain ⟨hlists, hreads, hnamed⟩ := columnsUsed_of_compile hc hcolumns htable
  obtain ⟨s, hread⟩ := hreads htake
  exact ⟨c, hc, hused, hcolumns, htable, hlists, s, hread, hnamed s hread⟩

end SheetQuery
