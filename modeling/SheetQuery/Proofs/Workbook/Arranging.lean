import SheetQuery.Proofs.Workbook.Tables

/-!
# Columns in another order

The columns of a worksheet change places, alike in its header and in each of its rows. As a table it
has the same cells under the same names, in other positions. That takes a header of different names
over rows as wide as the header; a blank name would come from its position, and a short row would
lose or gain a cell.

Main statement: `Workbook.exists_tables_arranged`, for the reference of the whole worksheet.
-/

namespace SheetQuery

/-! ## Lists in another order -/

/-- The entries at those positions, in that order. -/
def arranged {α : Type} (pad : α) (order : List Nat) (xs : List α) : List α :=
  order.map fun i => (xs[i]?).getD pad

section Lists

variable {α β : Type} {pad : α} {order : List Nat} {xs : List α}

@[simp] theorem length_arranged : (arranged pad order xs).length = order.length :=
  List.length_map _

theorem getElem?_arranged (j : Nat) :
    (arranged pad order xs)[j]? = order[j]?.map fun i => (xs[i]?).getD pad :=
  List.getElem?_map

theorem map_arranged (f : α → β) (pad : α) (order : List Nat) (xs : List α) :
    (arranged pad order xs).map f = arranged (f pad) order (xs.map f) := by
  rw [arranged, arranged, List.map_map]
  refine List.map_congr_left fun i _ => ?_
  rw [List.getElem?_map, Option.getD_map]
  rfl

/-- An order with every position in it once loses nothing. -/
theorem arranged_perm (h : order.Perm (List.range xs.length)) : (arranged pad order xs).Perm xs := by
  have hself : (List.range xs.length).map (fun i => (xs[i]?).getD pad) = xs := by
    refine List.ext_getElem (by simp) fun i hi hlt => ?_
    simp [List.getElem?_eq_getElem hlt]
  exact (h.map _).trans (List.Perm.of_eq hself)

end Lists

/-! ## Tables -/

namespace ResultSet

/-- The table with its columns in another order. -/
def arranged (order : List Nat) (t : ResultSet) : ResultSet :=
  ⟨SheetQuery.arranged "" order t.columns, t.rows.map (SheetQuery.arranged .null order)⟩

/-- **The same cells under the same names.** The tables are the same, or they are tables under
different names, and the columns have changed places. -/
def SameCells (t t' : ResultSet) : Prop :=
  t' = t ∨ t.columns.Nodup ∧ t.IsRectangular ∧
    ∃ order : List Nat, order.Perm (List.range t.columns.length) ∧ t' = t.arranged order

/-- The names are the same, each as often. -/
theorem SameCells.columns_perm {t t' : ResultSet} (h : t.SameCells t') :
    t'.columns.Perm t.columns := by
  rcases h with rfl | ⟨-, -, order, horder, rfl⟩
  · exact .refl _
  · exact arranged_perm horder

end ResultSet

/-! ## Grids -/

namespace Grid

/-- The grid with its columns in another order. -/
def arranged (order : List Nat) (grid : Grid) : Grid :=
  grid.map (SheetQuery.arranged .null order)

/-- **A header of different texts, none of them blank, over rows as wide.** -/
structure IsTidy (header : List Value) (rows : Grid) : Prop where
  named : ∀ cell ∈ header, Text.allBlank cell.chars = false
  distinct : (header.map Value.display).Nodup
  wide : ∀ row ∈ rows, row.length = header.length

variable {header : List Value} {rows : Grid} {order : List Nat}

theorem width_of_wide {n : Nat} (hheader : header.length = n) (h : ∀ row ∈ rows, row.length = n) :
    width (header :: rows) = n := by
  have hle : ∀ m ≤ n, rows.foldl (fun n row => max n row.length) m ≤ n := by
    induction rows with
    | nil => exact fun m hm => hm
    | cons row rest ih =>
        intro m hm
        obtain ⟨hrow, hrest⟩ := List.forall_mem_cons.mp h
        rw [List.foldl_cons]
        exact ih hrest _ (by omega)
  have hwidth := hle (max 0 header.length) (by omega)
  have hge := length_le_width (List.mem_cons_self (a := header) (l := rows))
  rw [width, List.foldl_cons] at hge ⊢
  omega

theorem headerNames_eq (h : ∀ cell ∈ header, Text.allBlank cell.chars = false) :
    headerNames header = header.map Value.display := by
  unfold headerNames
  have hname : ∀ entry ∈ header.zipIdx, headerName entry.1 entry.2 = entry.1.display := by
    rintro ⟨cell, i⟩ hentry
    rw [headerName, h cell (List.fst_mem_of_mem_zipIdx hentry)]
    rfl
  rw [List.map_congr_left (g := fun entry => entry.1.display) hname]
  conv_rhs => rw [← List.zipIdx_map_fst 0 header, List.map_map]
  rfl

/-- Read with a header, a tidy grid has the texts of its header for names. -/
theorem IsTidy.toTable (h : IsTidy header rows) :
    Grid.toTable (header :: rows) true = ⟨header.map Value.display, rows⟩ := by
  have hpadded : ∀ row ∈ header :: rows, padded (width (header :: rows)) row = row := by
    intro row hrow
    have hlength : row.length = header.length := by
      rcases List.mem_cons.mp hrow with rfl | hrow
      · rfl
      · exact h.wide row hrow
    rw [width_of_wide rfl h.wide, padded, hlength, Nat.sub_self, List.replicate_zero,
      List.append_nil]
  have hsquared : squared (header :: rows) = header :: rows := by
    rw [squared, List.map_congr_left (g := id) hpadded, List.map_id]
  unfold Grid.toTable
  rw [hsquared]
  simp only [headerNames_eq h.named]

theorem IsTidy.arranged (h : IsTidy header rows) (horder : order.Perm (List.range header.length)) :
    IsTidy (SheetQuery.arranged .null order header) (Grid.arranged order rows) where
  named cell hcell := h.named cell ((arranged_perm horder).mem_iff.mp hcell)
  distinct := ((arranged_perm horder).map Value.display).nodup_iff.mpr h.distinct
  wide row hrow := by
    obtain ⟨cells, -, rfl⟩ := List.mem_map.mp hrow
    rw [length_arranged, length_arranged]

/-- **A tidy grid with its columns in another order has the same cells under the same names.** -/
theorem IsTidy.toTable_arranged (h : IsTidy header rows)
    (horder : order.Perm (List.range header.length)) :
    ResultSet.SameCells (Grid.toTable (header :: rows) true)
      (Grid.toTable (Grid.arranged order (header :: rows)) true) := by
  have harranged : Grid.toTable (Grid.arranged order (header :: rows)) true =
      ⟨(SheetQuery.arranged .null order header).map Value.display, Grid.arranged order rows⟩ :=
    (h.arranged horder).toTable
  rw [harranged, map_arranged, h.toTable]
  refine Or.inr ⟨h.distinct, ?_, order, by rwa [List.length_map], rfl⟩
  intro row hrow
  rw [List.length_map]
  exact h.wide row hrow

end Grid

/-! ## Worksheets -/

namespace Workbook

variable {w : Workbook} {sheet : String} {order : List Nat}

/-- The workbook with the columns of a worksheet in another order. -/
def arranged (w : Workbook) (sheet : String) (order : List Nat) : Workbook :=
  { w with sheets := w.sheets.map fun s =>
      if s.name == sheet then { s with grid := s.grid.arranged order } else s }

theorem sheet?_arranged (w : Workbook) (sheet : String) (order : List Nat) (name : String) :
    (w.arranged sheet order).sheet? name =
      if name = sheet then (w.sheet? name).map (Grid.arranged order) else w.sheet? name := by
  have hname : ∀ s : Sheet, (if s.name == sheet then { s with grid := s.grid.arranged order }
      else s).name = s.name := fun s => by
    split <;> rfl
  have hfind : (w.arranged sheet order).sheets.find? (·.name == name) =
      (w.sheets.find? (·.name == name)).map fun s =>
        if s.name == sheet then { s with grid := s.grid.arranged order } else s := by
    rw [arranged, List.find?_map]
    simp only [Function.comp_def, hname]
  unfold sheet?
  rw [hfind]
  cases hs : w.sheets.find? (·.name == name) with
  | none => split <;> rfl
  | some s =>
      have hfound : s.name = name := by simpa using List.find?_some hs
      subst hfound
      by_cases heq : s.name = sheet
      · simp [heq]
      · simp [heq]

/-- The listing has the same names. -/
theorem tableNames_arranged (w : Workbook) (sheet : String) (order : List Nat) :
    (w.arranged sheet order).tableNames = w.tableNames := by
  unfold tableNames arranged
  rw [List.map_map]
  have hname : ∀ s ∈ w.sheets, (sheetName ∘ fun s : Sheet =>
      if s.name == sheet then { s with grid := s.grid.arranged order } else s) s = sheetName s := by
    intro s _
    simp only [Function.comp_apply]
    split <;> rfl
  rw [List.map_congr_left hname]

theorem push_ne (sheet : String) (c : Char) : sheet.push c ≠ sheet := by
  intro h
  have hlength := congrArg String.length h
  simp at hlength

/-- **The columns of a tidy worksheet in another order**: read by its reference, with or without the
dollar sign, there is a table of it before and after, with the same cells under the same names. -/
theorem exists_tables_arranged {header : List Value} {rows : Grid}
    (hsheet : w.sheet? sheet = some (header :: rows)) (h : Grid.IsTidy header rows)
    (horder : order.Perm (List.range header.length)) {reference : String}
    (hreference : reference = sheet ∨ reference = sheet.push '$') :
    ∃ t t', w.table reference true = .ok t ∧ (w.arranged sheet order).table reference true = .ok t' ∧
      t.SameCells t' := by
  have hsheet' : (w.arranged sheet order).sheet? sheet =
      some (Grid.arranged order (header :: rows)) := by
    rw [sheet?_arranged, if_pos rfl, hsheet]
    rfl
  have htable : ∀ {w : Workbook} {grid : Grid}, w.grid reference = .ok grid →
      w.table reference true = .ok (grid.toTable true) := fun hgrid => by rw [table, hgrid]; rfl
  rcases hreference with rfl | rfl
  · refine ⟨_, _, htable ?_, htable ?_, h.toTable_arranged horder⟩
    · rw [Workbook.grid, hsheet]
    · rw [Workbook.grid, hsheet']
  · have hother : (w.arranged sheet order).sheet? (sheet.push '$') = w.sheet? (sheet.push '$') := by
      rw [sheet?_arranged, if_neg (push_ne sheet '$')]
    -- a worksheet whose own name ends in the dollar sign stands before, and has not changed
    refine ⟨_, _, htable (grid_push hsheet), htable (grid_push hsheet'), ?_⟩
    rw [hother]
    cases w.sheet? (sheet.push '$') with
    | some shown => exact Or.inl rfl
    | none => exact h.toTable_arranged horder

end Workbook

end SheetQuery
