import SheetQuery.Proofs.Session.Connecting

/-!
# Comparing two runs

Two queries, or one over two workbooks, answer alike where they make the same of what they fetch.
What comes behind that hangs on the operators and on the selector, and never on the line, so it is
enough to compare the results right after they have been read.

Main statement: `Query.finish_agree`.
-/

namespace SheetQuery

namespace Action

variable {α β : Type} {x x' : Action Engine α} {f f' : α → Action Engine β}
  {line line' : Line Engine}

/-- The two actions succeed with the same results, each on its own line. -/
def AgreeAt (x : Action Engine α) (line : Line Engine) (x' : Action Engine α)
    (line' : Line Engine) : Prop :=
  ∀ a, (x line).1 = .ok a ↔ (x' line').1 = .ok a

theorem agreeAt_ofExcept (result : Except QueryError α) (line line' : Line Engine) :
    AgreeAt (ofExcept result) line (ofExcept result) line' :=
  fun _ => Iff.rfl

theorem AgreeAt.bind (h : AgreeAt x line x' line')
    (hf : ∀ a next next', AgreeAt (f a) next (f' a) next') :
    AgreeAt (x >>= f) line (x' >>= f') line' := by
  intro b
  rw [bind_ok_iff, bind_ok_iff]
  constructor
  · rintro ⟨a, ha, hb⟩
    exact ⟨a, (h a).mp ha, (hf a _ _ b).mp hb⟩
  · rintro ⟨a, ha, hb⟩
    exact ⟨a, (h a).mpr ha, (hf a _ _ b).mpr hb⟩

theorem AgreeAt.bindExcept (h : AgreeAt x line x' line') (g : α → Except QueryError β) :
    AgreeAt (x >>= fun a => ofExcept (g a)) line (x' >>= fun a => ofExcept (g a)) line' :=
  h.bind fun a => agreeAt_ofExcept (g a)

theorem AgreeAt.map (h : AgreeAt x line x' line') (g : α → β) :
    AgreeAt (g <$> x) line (g <$> x') line' := by
  rw [← bind_pure_comp, ← bind_pure_comp]
  exact h.bindExcept fun a => .ok (g a)

theorem map_ok_iff {g : α → β} {b : β} :
    ((g <$> x) line).1 = .ok b ↔ ∃ a, (x line).1 = .ok a ∧ g a = b := by
  rw [← bind_pure_comp, bind_ok_iff]
  exact exists_congr fun a => and_congr_right fun _ => ⟨Except.ok.inj, congrArg _⟩

end Action

namespace Query

open SheetQuery.Action

variable {q q' : Query} {line line' : Line Engine} {ending : Ending}

/-- A query has a statement where it has clauses and a table to aim them at. -/
theorem statement_ok_iff {r : Rendered} :
    (q.statement line).1 = .ok r ↔ ∃ c table, q.clauses = .ok c ∧
      q.source.resolve (q.source.listed line.backend.workbook) = .ok table ∧
        c.render table = r := by
  cases hclauses : q.clauses with
  | error e =>
      have hfailed : (q.statement line).1 = .error e := by
        unfold statement
        rw [hclauses]
        rfl
      simp [hfailed]
  | ok c =>
      rw [statement_run hclauses, map_eq_ok_iff]
      simp

/-- **The two queries make the same of what they fetch**, each over its own line. -/
structure AgreeAt (q : Query) (line : Line Engine) (q' : Query) (line' : Line Engine) : Prop where
  selector : q.model.selector = q'.model.selector
  operators : q.model.operators = q'.model.operators
  materialized : Action.AgreeAt q.materialized line q'.materialized line'
  distinct : q.model.hasDistinct = true →
    Action.AgreeAt q.distinctValues line q'.distinctValues line'

theorem AgreeAt.scalar (h : q.AgreeAt line q' line') :
    Action.AgreeAt q.scalar line q'.scalar line' :=
  h.materialized.bindExcept Materialized.intoScalar

theorem AgreeAt.items (h : q.AgreeAt line q' line') :
    Action.AgreeAt q.items line q'.items line' := by
  refine h.materialized.bind ?_
  intro made next next'
  refine (agreeAt_ofExcept made.intoItems next next').bind ?_
  intro found next next' items
  rw [Model.onItems, Model.onItems, h.operators]
  exact Iff.rfl

theorem AgreeAt.values (h : q.AgreeAt line q' line') :
    Action.AgreeAt q.values line q'.values line' := by
  have hdistinct : q'.model.hasDistinct = q.model.hasDistinct := by
    rw [Model.hasDistinct, Model.hasDistinct, h.operators]
  cases hd : q.model.hasDistinct with
  | true =>
      rw [Query.values, Query.values, hdistinct, hd]
      exact h.distinct hd
  | false =>
      rw [Query.values, Query.values, hdistinct, hd]
      have hselector : q'.model.selectorOrIdentity = q.model.selectorOrIdentity := by
        rw [Model.selectorOrIdentity, Model.selectorOrIdentity, h.selector]
      intro values
      show (q.projectedValues line).1 = .ok values ↔ (q'.projectedValues line').1 = .ok values
      have hitems : ∀ items, (q.items line).1 = .ok items ↔ (q'.items line').1 = .ok items := h.items
      simp only [projectedValues_ok_iff, hselector, hitems]

/-- **Queries that make the same of what they fetch are finished alike.** They succeed in the same
cases, and with the same answers. -/
theorem finish_agree (hruns : ending.runs = true)
    (h : (q.ended ending).AgreeAt line (q'.ended ending) line') :
    Action.AgreeAt (q.finish ending) line (q'.finish ending) line' := by
  cases ending with
  | items => exact h.items.map _
  | firstItem => exact ((h.items.bindExcept fun items => .ok items.head?).bindExcept orEmpty).map _
  | firstItem? => exact (h.items.bindExcept fun items => .ok items.head?).map _
  | lastItem? => exact (h.items.bindExcept fun items => .ok items.getLast?).map _
  | values => exact h.values.map _
  | valuesOf type => exact (h.values.bindExcept fun values => values.mapM type.read).map _
  | firstValue =>
      exact ((h.values.bindExcept fun values => .ok values.head?).bindExcept orEmpty).map _
  | firstValue? => exact (h.values.bindExcept fun values => .ok values.head?).map _
  | lastValue? => exact (h.values.bindExcept fun values => .ok values.getLast?).map _
  | count =>
      exact (h.scalar.bind fun value next next' =>
        (agreeAt_ofExcept (toCount value) next next').bindExcept checkCount).map _
  | longCount => exact (h.scalar.bindExcept toCount).map _
  | aggregate function => exact h.scalar.map _
  | _ => cases hruns

end Query

end SheetQuery
