import SheetQuery.Proofs.Compile.Intent

/-!
# Operators over one body

Compiling goes through the body of a query first, so under other operators the same query asks for
the same rows in the same order. What it selects is up to the operators, and the last of them that
selects something decides alone.

Main statements: `alike_of_compile` and `exists_mem_columnsUsed`.
-/

namespace SheetQuery

open Sql

variable {mapper : Mapper} {m : Model} {c c' : Clauses}

/-- The body is compiled before the operators. -/
theorem compile_eq (mapper : Mapper) (m : Model) (operators : List Operator) :
    compile mapper { m with operators := operators } =
      (rejectJoins m.body >>= fun _ => Clauses.all.withPredicates mapper m >>= fun c =>
        c.withOrdering mapper m >>= operators.foldlM (Clauses.withOperator mapper m)) :=
  rfl

/-- A model that compiles has clauses for its body, and from there its operators go on, whatever
they are. -/
theorem exists_body_of_compile (h : compile mapper m = .ok c) :
    ∃ body : Clauses, body.selection = .all ∧ ∀ operators,
      compile mapper { m with operators := operators } =
        operators.foldlM (Clauses.withOperator mapper m) body := by
  obtain ⟨hjoins, filtered, hfilter, ordered, horder, -⟩ := compile_eq_ok_iff.mp h
  refine ⟨ordered, ?_, fun operators => ?_⟩
  · have hordered : ordered.selection = filtered.selection := by
      rcases Clauses.withOrdering_cases horder with ⟨-, rfl⟩ | ⟨key, column, -, -, rfl⟩ <;> rfl
    rw [hordered]
    rcases Clauses.withPredicates_cases hfilter with ⟨-, rfl⟩ | ⟨first, rest, f, -, -, rfl⟩ <;> rfl
  · rw [compile_eq, hjoins, ok_bind, hfilter, ok_bind, horder, ok_bind]

/-- The operator that comes last is the last one to change the clauses. -/
theorem compile_withOperator (mapper : Mapper) (m : Model) (operator : Operator) :
    compile mapper (m.withOperator operator) =
      compile mapper m >>= fun c => Clauses.withOperator mapper m c operator := by
  have hlast : ∀ c, (m.operators ++ [operator]).foldlM (Clauses.withOperator mapper m) c =
      m.operators.foldlM (Clauses.withOperator mapper m) c >>= fun c =>
        Clauses.withOperator mapper m c operator := fun c => by
    simp only [List.foldlM_append, List.foldlM_cons, List.foldlM_nil, bind_pure]
  refine (compile_eq mapper m (m.operators ++ [operator])).trans ?_
  rw [compile_eq mapper m m.operators]
  simp only [hlast, bind_assoc]

/-- **Under any operators a model asks for the same rows**, in the same order. -/
theorem alike_of_compile {first second : List Operator}
    (h : compile mapper { m with operators := first } = .ok c)
    (h' : compile mapper { m with operators := second } = .ok c') :
    c'.filter = c.filter ∧ c'.orderBy = c.orderBy := by
  obtain ⟨body, -, hbody⟩ := exists_body_of_compile h
  have hfirst := Clauses.foldlM_withOperator_cases ((hbody first).symm.trans h)
  have hsecond := Clauses.foldlM_withOperator_cases ((hbody second).symm.trans h')
  exact ⟨hsecond.2.1.trans hfirst.2.1.symm, hsecond.2.2.1.trans hfirst.2.2.1.symm⟩

/-! ## The selected column -/

theorem Model.SelectsColumn.unique {a b : String} (ha : m.SelectsColumn mapper a)
    (hb : m.SelectsColumn mapper b) : a = b := by
  obtain ⟨selector, hselector, hnames⟩ := ha
  obtain ⟨selector', hselector', hnames'⟩ := hb
  cases Option.some.inj (hselector.symm.trans hselector')
  exact hnames.unique hnames'

/-- Different values are selected of the selected column only, and on demand. -/
theorem selectsColumn_of_compile {column : String} (h : compile mapper m = .ok c)
    (hselection : c.selection = .distinct column) :
    m.SelectsColumn mapper column ∧ .distinct ∈ m.operators := by
  have hlast := (asks_of_compile h).selection
  rw [hselection] at hlast
  cases hlast with
  | set heq hselects hafter =>
      cases hselects with
      | distinct hcolumn =>
          rw [heq]
          exact ⟨hcolumn, List.mem_append_right _ List.mem_cons_self⟩

/-- The operator that comes last decides on the selection, unless it is left to the items. -/
theorem selects_of_compile {operator : Operator} (hselecting : ¬ operator.IsLocal)
    (h : compile mapper (m.withOperator operator) = .ok c) :
    operator.Selects mapper m c.selection := by
  rw [compile_withOperator] at h
  obtain ⟨c₁, -, hstep⟩ := bind_eq_ok_iff.mp h
  rcases Clauses.withOperator_cases hstep with ⟨hlocal, -⟩ | ⟨selection, hselects, rfl⟩
  · exact absurd hlocal hselecting
  · exact hselects

theorem selection_of_compile_distinct (h : compile mapper (m.withOperator .distinct) = .ok c) :
    ∃ column, m.SelectsColumn mapper column ∧ c.selection = .distinct column := by
  have hselects := selects_of_compile (by nofun) h
  generalize c.selection = selection at hselects ⊢
  cases hselects with
  | distinct hcolumn => exact ⟨_, hcolumn, rfl⟩

/-- A model that asks for different values, whatever else it asks for, can ask for them alone. -/
theorem exists_compile_distinct (h : compile mapper m = .ok c)
    (hdistinct : .distinct ∈ m.operators) :
    ∃ c', compile mapper { m with operators := [.distinct] } = .ok c' := by
  obtain ⟨body, -, hbody⟩ := exists_body_of_compile h
  have haccepted := Clauses.foldlM_withOperator_ok_iff.mp ⟨c, (hbody m.operators).symm.trans h⟩
  rw [hbody]
  refine Clauses.foldlM_withOperator_ok_iff.mpr fun operator hmem => haccepted operator ?_
  rwa [List.mem_singleton.mp hmem]

/-- Operators only add to the used columns. -/
theorem Clauses.subset_foldlM_withOperator {operators : List Operator}
    (h : operators.foldlM (withOperator mapper m) c = .ok c') :
    ∀ name ∈ c.columnsUsed, name ∈ c'.columnsUsed := by
  induction operators generalizing c with
  | nil =>
      cases h
      exact fun _ => id
  | cons operator rest ih =>
      rw [List.foldlM_cons] at h
      obtain ⟨c₁, h₁, hrest⟩ := bind_eq_ok_iff.mp h
      refine fun name hname => ih hrest name ?_
      rcases withOperator_cases h₁ with ⟨-, rfl⟩ | ⟨selection, -, rfl⟩
      · exact hname
      · exact mem_foldl_useColumn.mpr (Or.inl hname)

/-- **A column that is asked for its different values is a used column**, also where another
operator has the last word on the selection. -/
theorem exists_mem_columnsUsed (h : compile mapper m = .ok c)
    (hdistinct : .distinct ∈ m.operators) :
    ∃ column, m.SelectsColumn mapper column ∧ column ∈ c.columnsUsed := by
  obtain ⟨-, filtered, -, ordered, -, hrun⟩ := compile_eq_ok_iff.mp h
  obtain ⟨before, after, heq⟩ := List.append_of_mem hdistinct
  rw [heq, List.foldlM_append] at hrun
  obtain ⟨c₁, -, hrun⟩ := bind_eq_ok_iff.mp hrun
  rw [List.foldlM_cons] at hrun
  obtain ⟨c₂, hstep, hafter⟩ := bind_eq_ok_iff.mp hrun
  rcases Clauses.withOperator_cases hstep with ⟨hlocal, -⟩ | ⟨selection, hselects, rfl⟩
  · cases hlocal
  · cases hselects with
    | @distinct column hcolumn =>
        exact ⟨column, hcolumn, Clauses.subset_foldlM_withOperator hafter column
          (mem_foldl_useColumn.mpr (Or.inr (List.mem_singleton.mpr rfl)))⟩

end SheetQuery
