import SheetQuery.Materialize
import SheetQuery.Proofs.Filter.Agreement
import SheetQuery.Proofs.Workbook.Tables

/-!
# Generic items

Rows with and without a header become items one by one, and nothing of a row is lost on the way
where no text is trimmed: an item answers for each of its columns with the cell that the row has
there. Under a header that takes distinct names; without one the names are made from the positions,
so an index and the name made from it mean the same column.

Main statement: `Materializer.exists_items`.
-/

namespace SheetQuery

open Sql

/-! ## Columns -/

namespace ItemType

/-- The columns that generic items answer for: those named in the header, or every place in the
row. -/
def Reaches (type : ItemType) (columns : List String) (c : ColumnRef) : Prop :=
  match type, c with
  | .row, .named name => name ∈ columns
  | .headerless, .positioned index => index < columns.length
  | _, _ => False

/-- Names of columns under which generic items answer for every cell. -/
inductive Fits : ItemType → List String → Prop where
  | row {columns : List String} (h : columns.Nodup) : Fits .row columns
  | headerless (n : Nat) : Fits .headerless (Grid.positionNames n)

variable {type : ItemType} {columns : List String} {c : ColumnRef}

theorem Reaches.names {mapper : Mapper} (h : type.Reaches columns c) :
    (Expr.ofColumn c).Names mapper type.shape c.columnName := by
  cases type with
  | row =>
      cases c with
      | named name => exact .named name nofun
      | positioned index => cases h
  | headerless =>
      cases c with
      | named name => cases h
      | positioned index => exact .positioned index rfl
  | record t => cases h

theorem Fits.resolves {mapper : Mapper} (h : type.Fits columns) :
    Expr.Resolves (type.Reaches columns) mapper type.shape columns := by
  refine ⟨fun c hc => hc.names, ?_⟩
  intro c hc
  cases h with
  | row hnodup =>
      cases c with
      | named name => exact hc
      | positioned index => cases hc
  | headerless n =>
      cases c with
      | named name => cases hc
      | positioned index =>
          have hindex : index < (Grid.positionNames n).length := hc
          rw [Grid.length_positionNames] at hindex
          exact Grid.mem_positionNames.mpr ⟨index, hindex, rfl⟩

end ItemType

/-! ## Items -/

theorem firstRepeated?_eq_none {before names : List String} (hnodup : names.Nodup)
    (hnew : ∀ name ∈ names, name ∉ before) : firstRepeated? before names = none := by
  induction names generalizing before with
  | nil => rfl
  | cons name rest ih =>
      obtain ⟨hname, hrest⟩ := List.nodup_cons.mp hnodup
      have hbefore : before.contains name = false := by
        simpa using hnew name List.mem_cons_self
      rw [firstRepeated?, hbefore, if_neg Bool.false_ne_true]
      refine ih hrest ?_
      intro other hother hmem
      rcases List.mem_append.mp hmem with hmem | hmem
      · exact hnew other (List.mem_cons_of_mem _ hother) hmem
      · rw [List.mem_singleton] at hmem
        exact hname (hmem ▸ hother)

/-- Names of which none is found a second time are apart. -/
theorem nodup_of_firstRepeated? {before names : List String}
    (h : firstRepeated? before names = none) :
    names.Nodup ∧ ∀ name ∈ names, name ∉ before := by
  induction names generalizing before with
  | nil => exact ⟨List.nodup_nil, nofun⟩
  | cons name rest ih =>
      unfold firstRepeated? at h
      split at h
      · cases h
      · next hnew =>
          obtain ⟨hrest, hbefore⟩ := ih h
          refine ⟨List.nodup_cons.mpr ⟨fun hmem => hbefore name hmem (by simp), hrest⟩, ?_⟩
          intro other hother
          rcases List.mem_cons.mp hother with rfl | hmem
          · simpa using hnew
          · exact fun hold => hbefore other hmem (List.mem_append_left _ hold)

/-- A row of full length has a cell in every column. -/
theorem lookup_eq_cell {columns : List String} {row : List Value} {name : String}
    (hlength : row.length = columns.length) (hname : name ∈ columns) :
    ((columns.findIdx? (· == name)).bind fun i => row[i]?) = some (cell columns row name) := by
  have hfound : (columns.findIdx? (· == name)).isSome = true := by
    rw [List.findIdx?_isSome, List.any_eq_true]
    exact ⟨name, hname, beq_self_eq_true name⟩
  obtain ⟨i, hi⟩ := Option.isSome_iff_exists.mp hfound
  have hlt : i < row.length := hlength ▸ (List.findIdx?_eq_some_iff_getElem.mp hi).1
  rw [cell, hi, Option.bind_some, List.getElem?_eq_getElem hlt]
  rfl

theorem Row.get_eq_cell {columns : List String} {row : List Value} {name : String}
    (hlength : row.length = columns.length) (hname : name ∈ columns) :
    (⟨columns, row⟩ : Row).get name = .ok (cell columns row name) := by
  have hlookup : ((⟨columns, row⟩ : Row).position? name).bind (fun i => row[i]?) =
      some (cell columns row name) := lookup_eq_cell hlength hname
  simp only [get, hlookup]

theorem Materializer.trimmed_eq {m : Materializer} (h : m.options.trim = .none) (v : Value) :
    m.trimmed v = v := by
  cases v with
  | text s => simp [trimmed, h, TrimPolicy.apply]
  | _ => rfl

/-- Under names that are apart each row becomes a row with a header, its texts trimmed. -/
theorem Materializer.rows_eq {m : Materializer} {columns : List String} (h : columns.Nodup)
    (rows : List (List Value)) :
    m.rows columns rows = .ok (rows.map fun row => ⟨columns, row.map m.trimmed⟩) := by
  have hcheck : checkColumns columns = .ok () := by
    rw [checkColumns, firstRepeated?_eq_none h fun _ _ => List.not_mem_nil]
  rw [Materializer.rows, hcheck]
  rfl

/-! ## Results -/

namespace Materializer

variable {m : Materializer} {type : ItemType} {columns : List String} {rows : List (List Value)}

/-- A lone column under the name of computed values is one value, whatever the items are. -/
theorem materialize_alone (h : columns = [m.scalarColumn]) :
    m.materialize type columns rows = .ok (.scalar (firstCell rows)) := by
  rw [materialize, isScalarResult, h, if_pos (beq_self_eq_true _)]

/-- Under any other columns there are items. -/
theorem materialize_not_alone (h : columns ≠ [m.scalarColumn]) :
    m.materialize type columns rows = (m.items type columns rows).map .items := by
  rw [materialize, isScalarResult, if_neg (by simpa using h)]

end Materializer

/-- **Generic items show their rows.** Each row becomes an item on its own, which answers for every
column with the cell of the row. -/
theorem Materializer.exists_items {m : Materializer} {type : ItemType} {columns : List String}
    (htrim : m.options.trim = .none) (hlone : columns ≠ [m.scalarColumn])
    (hfits : type.Fits columns) :
    ∃ item : List Value → Item,
      (∀ rows, m.materialize type columns rows = .ok (.items (rows.map item))) ∧
        ∀ row, row.length = columns.length →
          (item row).Shows (type.Reaches columns) columns row := by
  have htrimmed : ∀ row : List Value, row.map m.trimmed = row := fun row => by
    rw [List.map_congr_left fun v _ => m.trimmed_eq htrim v, List.map_id']
  cases hfits with
  | row hnodup =>
      refine ⟨fun row => .row ⟨columns, row⟩, ?_, ?_⟩
      · intro rows
        rw [materialize_not_alone hlone]
        simp [items, rows_eq hnodup, htrimmed, Except.map]
      · intro row hlength c hc
        cases c with
        | named name => exact Row.get_eq_cell hlength hc
        | positioned index => cases hc
  | headerless n =>
      refine ⟨fun row => .headerless row, ?_, ?_⟩
      · intro rows
        rw [materialize_not_alone hlone]
        simp [items, htrimmed, Except.map]
      · intro row hlength c hc
        cases c with
        | named name => cases hc
        | positioned index =>
            have hindex : index < (Grid.positionNames n).length := hc
            have hlt : index < row.length := hlength ▸ hindex
            -- looked up by its name, a position finds itself
            rw [Grid.length_positionNames] at hindex
            show Item.cellAt row index = _
            rw [Item.cellAt, cell, ColumnRef.columnName, Grid.findIdx?_positionNames hindex,
              Option.bind_some, List.getElem?_eq_getElem hlt]
            rfl

end SheetQuery
