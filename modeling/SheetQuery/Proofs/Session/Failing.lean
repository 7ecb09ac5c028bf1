import SheetQuery.Proofs.Materialize.Failing
import SheetQuery.Proofs.Session.Finishing

/-!
# How finishing a query fails

A query that is finished fails like its fetching, over any backend, or like the making of items from
what was fetched. A name that two columns have is found out in between, by rows with a header alone.
So what holds of the failures of fetching holds of those of every way of finishing.

Main statement: `Query.failsBy_finish`.
-/

namespace SheetQuery

/-! ## Actions -/

namespace Action

variable {σ α β : Type} {kind : QueryError → Prop} {line : Line σ}

theorem failsBy_bind {x : Action σ α} {f : α → Action σ β} (hx : FailsBy kind (x line).1)
    (hf : ∀ a, (x line).1 = .ok a → FailsBy kind (f a (x line).2).1) :
    FailsBy kind ((x >>= f) line).1 := by
  rw [run_bind]
  rcases h : x line with ⟨e | a, next⟩
  · exact .error (hx e (congrArg Prod.fst h))
  · have hnext := hf a (congrArg Prod.fst h)
    rwa [h] at hnext

theorem failsBy_map {x : Action σ α} (hx : FailsBy kind (x line).1) (f : α → β) :
    FailsBy kind ((f <$> x) line).1 := by
  rw [← bind_pure_comp]
  exact failsBy_bind hx fun a _ => .ok (f a)

end Action

/-! ## Queries -/

namespace Query

open SheetQuery.Action

variable {σ : Type} [Backend σ]

/-- What running a query fails with: the failure of its fetching, a failure of making items, or a
name that two columns of the fetched rows have. -/
inductive Fails (q : Query) (line : Line σ) : QueryError → Prop where
  | fetch {e : QueryError} (h : (q.fetch line).1 = .error e) : Fails q line e
  | items {e : QueryError} (h : e.IsOfItems) : Fails q line e
  | repeated {f : Fetched} {name : String} (htype : q.type = .row)
      (hfetch : (q.fetch line).1 = .ok f) (hname : firstRepeated? [] f.result.columns = some name) :
      Fails q line (.configuration (.duplicateColumn name))

variable {q : Query} {line : Line σ}

/-- A step behind fetching that fails like the making of items. -/
theorem failsBy_ofExcept {α : Type} {step : Except QueryError α} (h : FailsOverItems step)
    (next : Line σ) : FailsBy (q.Fails line) (ofExcept step next).1 :=
  h.mono fun _ => .items

theorem failsBy_materialized (q : Query) (line : Line σ) :
    FailsBy (q.Fails line) (q.materialized line).1 := by
  refine failsBy_bind (fun e => .fetch) fun f hf => ?_
  refine failsBy_bind (.ok _) fun name _ => ?_
  refine failsBy_bind (.ok _) fun _ _ => ?_
  refine FailsBy.mono (Materializer.failsBy_materialize _ _ _ _) fun e he => ?_
  rcases he with hitems | ⟨htype, name, hname, rfl⟩
  · exact .items hitems
  · exact .repeated htype hf hname

theorem failsBy_scalar (q : Query) (line : Line σ) :
    FailsBy (q.Fails line) (q.scalar line).1 :=
  failsBy_bind (q.failsBy_materialized line) fun made _ =>
    failsBy_ofExcept made.failsOverItems_intoScalar _

theorem failsBy_items (q : Query) (line : Line σ) : FailsBy (q.Fails line) (q.items line).1 :=
  failsBy_bind (q.failsBy_materialized line) fun made _ =>
    failsBy_bind (failsBy_ofExcept made.failsOverItems_intoItems _) fun _ _ => .ok _

theorem failsBy_distinctValues (q : Query) (line : Line σ) :
    FailsBy (q.Fails line) (q.distinctValues line).1 := by
  refine failsBy_bind (fun e => .fetch) fun f _ => ?_
  refine failsBy_bind (.ok _) fun name _ => ?_
  exact failsBy_bind (failsBy_ofExcept (Materializer.failsOverItems_distinctValues _ _ _ _) _)
    fun _ _ => .ok _

theorem failsBy_values (q : Query) (line : Line σ) : FailsBy (q.Fails line) (q.values line).1 := by
  unfold values
  split
  · exact q.failsBy_distinctValues line
  · -- compiling the selector leaves the line as it was
    refine failsBy_bind (failsBy_ofExcept (Projector.failsOverItems_ofExpr _) line) fun p _ => ?_
    refine failsBy_bind (q.failsBy_items line) fun found _ => ?_
    exact failsBy_ofExcept (FailsBy.mapM (fun item => Expr.failsOverItems_evaluate _ _) found) _

theorem failsOverItems_orEmpty {α : Type} (o : Option α) : FailsOverItems (orEmpty o) := by
  cases o with
  | none => exact .error .emptySequence
  | some a => exact .ok a

theorem failsOverItems_toCount (v : Value) : FailsOverItems (toCount v) := by
  refine (BaseType.failsOverRows_read _ v).overItems.bind fun w => ?_
  split
  · exact .ok _
  · exact .ok _

theorem failsOverItems_checkCount (i : Int64) : FailsOverItems (checkCount i) := by
  unfold checkCount
  split
  · exact .ok _
  · exact .error (.conversion _ _ _)

/-- **A query that is finished fails like its fetching or like the making of items**, or over a name
that two columns of rows with a header have. -/
theorem failsBy_finish (q : Query) {ending : Ending} (hruns : ending.runs = true) (line : Line σ) :
    FailsBy ((q.ended ending).Fails line) (q.finish ending line).1 := by
  cases ending with
  | items => exact failsBy_map (failsBy_items _ line) _
  | firstItem =>
      refine failsBy_map (failsBy_bind ?_ fun found _ => ?_) _
      · exact failsBy_bind (failsBy_items _ line) fun _ _ => .ok _
      · exact failsBy_ofExcept (failsOverItems_orEmpty found) _
  | firstItem? => exact failsBy_map (failsBy_bind (failsBy_items _ line) fun _ _ => .ok _) _
  | lastItem? => exact failsBy_map (failsBy_bind (failsBy_items _ line) fun _ _ => .ok _) _
  | values => exact failsBy_map (failsBy_values _ line) _
  | valuesOf type =>
      refine failsBy_map (failsBy_bind (failsBy_values _ line) fun values _ => ?_) _
      have hread : ∀ v, FailsOverItems (type.read v) := fun v =>
        (type.failsOverRows_read v).overItems
      exact failsBy_ofExcept (FailsBy.mapM hread values) _
  | firstValue =>
      refine failsBy_map (failsBy_bind ?_ fun found _ => ?_) _
      · exact failsBy_bind (failsBy_values _ line) fun _ _ => .ok _
      · exact failsBy_ofExcept (failsOverItems_orEmpty found) _
  | firstValue? => exact failsBy_map (failsBy_bind (failsBy_values _ line) fun _ _ => .ok _) _
  | lastValue? => exact failsBy_map (failsBy_bind (failsBy_values _ line) fun _ _ => .ok _) _
  | count =>
      refine failsBy_map (failsBy_bind (failsBy_scalar _ line) fun v _ => ?_) _
      refine failsBy_bind (failsBy_ofExcept (failsOverItems_toCount v) _) fun n _ => ?_
      exact failsBy_ofExcept (failsOverItems_checkCount n) _
  | longCount =>
      refine failsBy_map (failsBy_bind (failsBy_scalar _ line) fun v _ => ?_) _
      exact failsBy_ofExcept (failsOverItems_toCount v) _
  | aggregate function => exact failsBy_map (failsBy_scalar _ line) _
  | statement => cases hruns
  | clauses => cases hruns
  | unrun => cases hruns

end Query

end SheetQuery
