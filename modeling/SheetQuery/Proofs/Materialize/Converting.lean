import SheetQuery.Proofs.Materialize.Cells

/-!
# Conversions around a selector

Conversions around an access change its value and not the column that is meant. Items are read for
the access and then converted. So are the different values of a field of a record; the different
values of generic items are left unconverted.

Main statement: `Materializer.selects_of_mapM`.
-/

namespace SheetQuery

open Sql

namespace Expr

/-- What the conversions around an expression make of its value. -/
def conversions : Expr → Value → Except QueryError Value
  | .convert kind e, v => (e.conversions v).bind (Value.convert kind)
  | _, v => .ok v

theorem unwrapped_of_ne_convert {e : Expr} (h : ∀ kind inner, e ≠ .convert kind inner) :
    e.unwrapped = e := by
  rw [unwrapped]
  exact h

/-- Unwrapping leaves no conversion outside. -/
theorem unwrapped_ne_convert (e : Expr) (kind : Kind) (inner : Expr) :
    e.unwrapped ≠ .convert kind inner := by
  fun_induction unwrapped e with
  | case1 _ _ ih => exact ih
  | case2 e h => exact h kind inner

theorem conversions_of_unconverted {e : Expr} (h : e.unwrapped = e) (v : Value) :
    e.conversions v = .ok v := by
  cases e with
  | convert kind inner => exact absurd h (unwrapped_ne_convert _ kind inner)
  | _ => rfl

/-- An expression is evaluated below its conversions first. By induction on the conversions. -/
theorem evaluate_eq_bind (b : Bindings) (e : Expr) :
    e.evaluate b = (e.unwrapped.evaluate b).bind e.conversions := by
  induction e using unwrapped.induct with
  | case1 kind e ih =>
      have hinner : (Expr.convert kind e).evaluate b =
          (e.evaluate b).bind (Value.convert kind) := by
        rw [evaluate]
      rw [hinner, ih, unwrapped_convert]
      cases e.unwrapped.evaluate b <;> rfl
  | case2 e h =>
      have hself := unwrapped_of_ne_convert h
      rw [hself]
      cases hvalue : e.evaluate b with
      | error fault => rfl
      | ok v => exact (conversions_of_unconverted hself v).symm

/-- A selector names the column that the access below its conversions does. -/
theorem names_unwrapped_iff {mapper : Mapper} {shape : ItemShape} {e : Expr} {column : String} :
    e.unwrapped.Names mapper shape column ↔ e.Names mapper shape column := by
  rw [← resolveColumn_eq_ok_iff, ← resolveColumn_eq_ok_iff, resolveColumn, resolveColumn,
    unwrapped_unwrapped]

end Expr

/-- A compiled selector converts what it gives without its conversions. -/
theorem Projector.applyTo_eq_bind {e : Expr} {projector plain : Projector}
    (h : ofExpr e = .ok projector) (hplain : ofExpr e.unwrapped = .ok plain) (item : Item) :
    projector.applyTo item = (plain.applyTo item).bind e.conversions := by
  unfold applyTo apply
  rw [selector_of_ofExpr h, selector_of_ofExpr hplain]
  exact Expr.evaluate_eq_bind _ e

namespace Materializer

variable {m : Materializer} {type : ItemType} {selector : Expr} {raw value : Value}

/-- What a cell comes to as the value of a selected item: it is read for the access and converted.
For a record it is so among different values, too. -/
structure Selects (m : Materializer) (type : ItemType) (selector : Expr) (raw value : Value) :
    Prop where
  converted : ∃ v, m.Reads type selector.unwrapped raw v ∧ selector.conversions v = .ok value
  ofRecord : ∀ t, type = .record t → m.Reads type selector raw value

/-- Without conversions the value is what the cell is read as. -/
theorem Selects.reads (h : m.Selects type selector raw value)
    (hself : selector.unwrapped = selector) : m.Reads type selector raw value := by
  obtain ⟨v, hread, hconverted⟩ := h.converted
  rw [Expr.conversions_of_unconverted hself] at hconverted
  rw [← Except.ok.inj hconverted, ← hself]
  exact hread

/-- For a member of a record a cell is read without the conversions and then converted. -/
theorem reads_of_conversions {t : RecordType} {source : Nat} {name : String}
    (hmember : selector.unwrapped = .member source name) {projector : Projector}
    (hprojector : Projector.ofExpr selector = .ok projector) {v : Value}
    (hread : m.Reads (.record t) selector.unwrapped raw v)
    (hconverted : selector.conversions v = .ok value) : m.Reads (.record t) selector raw value := by
  have hunwrapped : selector.unwrapped.unwrapped = .member source name := by
    rw [Expr.unwrapped_unwrapped, hmember]
  obtain ⟨plain, f, hplain, hcheck, hf, hcells⟩ :=
    (distinctValues_member_ok_iff hunwrapped).mp hread
  refine (distinctValues_member_ok_iff hmember).mpr ⟨projector, f, hprojector, hcheck, hf, ?_⟩
  cases hcells with
  | cons hcell hnone =>
      obtain ⟨r, hr, happly⟩ := hcell
      refine .cons ⟨r, hr, ?_⟩ .nil
      rw [Projector.applyTo_eq_bind hprojector hplain, happly]
      exact hconverted

/-- An access that a record answers is a member. -/
theorem exists_member_of_evaluate {mapper : Mapper} {shape : ItemShape} {column : String}
    (hnames : selector.Names mapper shape column) {r : Record} {v : Value}
    (h : selector.unwrapped.evaluate (Bindings.main (.record r)) = .ok v) :
    ∃ source name, selector.unwrapped = .member source name := by
  have hinner := Expr.names_unwrapped_iff.mpr hnames
  generalize haccess : selector.unwrapped = access at hinner h ⊢
  cases hinner with
  | member name => exact ⟨mainSource, name, rfl⟩
  | named name hshape =>
      have hcolumn : (Item.record r).column (.named column) = .ok v := h
      cases hcolumn
  | positioned index hshape =>
      have hcolumn : (Item.record r).column (.positioned index) = .ok v := h
      cases hcolumn
  | convert kind hnames => exact absurd haccess (Expr.unwrapped_ne_convert _ _ _)

/-- The value of an item is what the cell of its row comes to. -/
theorem selects_of_applyTo {columns : List String} {row : List Value} {item : Item}
    {column : String} (hselector : selector.unwrapped.Addresses m.mapper type column)
    (hcolumn : column ∈ columns)
    (hpositions : type = .headerless → ∃ n, columns = Grid.positionNames n)
    (hlength : row.length = columns.length) (hitem : m.items type columns [row] = .ok [item])
    {projector : Projector} (hprojector : Projector.ofExpr selector = .ok projector)
    (hvalue : projector.applyTo item = .ok value) :
    m.Selects type selector (cell columns row column) value := by
  have hevaluate : selector.evaluate (Bindings.main item) = .ok value := by
    rw [← Projector.selector_of_ofExpr hprojector]
    exact hvalue
  rw [Expr.evaluate_eq_bind] at hevaluate
  obtain ⟨v, hplain, hconverted⟩ := bind_eq_ok_iff.mp hevaluate
  have hread := reads_of_evaluate hselector hcolumn hpositions hlength hitem hplain
  refine ⟨⟨v, hread, hconverted⟩, ?_⟩
  rintro t rfl
  obtain ⟨r, -, -, rfl⟩ := exists_of_items_record hitem
  obtain ⟨source, name, hmember⟩ :=
    exists_member_of_evaluate (Expr.names_unwrapped_iff.mp hselector.names) hplain
  exact reads_of_conversions hmember hprojector hread hconverted

/-- **Values of items are what the cells of their rows come to**, row by row. -/
theorem selects_of_mapM {columns : List String} {column : String} {rows : List (List Value)}
    {found : List Item} {projector : Projector} {values : List Value}
    (hselector : selector.unwrapped.Addresses m.mapper type column) (hcolumn : column ∈ columns)
    (hpositions : type = .headerless → ∃ n, columns = Grid.positionNames n)
    (hrows : ∀ row ∈ rows, row.length = columns.length)
    (hmade : m.materialize type columns rows = .ok (.items found))
    (hprojector : Projector.ofExpr selector = .ok projector)
    (hvalues : found.mapM projector.applyTo = .ok values) :
    List.Forall₂ (m.Selects type selector) (rows.map (cell columns · column)) values := by
  have hread := forall₂_comp_iff.mp
    ⟨found, forall₂_of_items (items_of_materialize hmade), mapM_eq_ok_iff.mp hvalues⟩
  obtain ⟨hlength, hpairs⟩ := List.forall₂_iff_zip.mp hread
  rw [List.forall₂_map_left_iff, List.forall₂_iff_zip]
  refine ⟨hlength, fun {row value} hpair => ?_⟩
  obtain ⟨item, hitem, hvalue⟩ := hpairs hpair
  exact selects_of_applyTo hselector hcolumn hpositions (hrows row (List.of_mem_zip hpair).1)
    hitem hprojector hvalue

end Materializer

end SheetQuery
