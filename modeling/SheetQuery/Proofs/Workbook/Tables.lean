import Mathlib.Data.List.Nodup
import SheetQuery.Proofs.Outcome
import SheetQuery.Proofs.Sql.Tokens
import SheetQuery.Workbook.Basic

/-!
# Tables of a workbook

The rows of a grid may have any lengths. As a table they are filled up to the width of the longest,
and there is one name for each column, whether the names come from the first row or from the
positions. Names made from positions are distinct and fit between brackets. A table has no more rows
than the worksheet that it lies on.

Main statements: `Workbook.table_isRectangular`, for tables without a header
`Workbook.table_columns`, and for the number of rows `Workbook.length_lt_of_table`.
-/

namespace SheetQuery

open Sql

/-! ## Lookups by name -/

/-- Where names are distinct, each entry is found under its own. -/
theorem find?_of_mem {α : Type} {name : α → String} {entries : List α}
    (h : (entries.map name).Nodup) {entry : α} (hentry : entry ∈ entries) :
    entries.find? (name · == name entry) = some entry := by
  cases hfind : entries.find? (name · == name entry) with
  | none =>
      have hother := List.find?_eq_none.mp hfind entry hentry
      exact absurd (by simp) hother
  | some found =>
      have hname : name found = name entry := by simpa using List.find?_some hfind
      rw [List.inj_on_of_nodup_map h (List.mem_of_find?_eq_some hfind) hentry hname]

/-! ## Names of positions -/

theorem positionName_toList (index : Nat) :
    (positionName index).toList = 'F' :: Decimal.digits (index + 1) := by
  have hdigits : (toString (index + 1)).toList = Decimal.digits (index + 1) := Nat.toList_repr
  rw [positionName, String.toList_append, hdigits]
  rfl

theorem positionName_injective {i j : Nat} (h : positionName i = positionName j) : i = j := by
  have hlists := congrArg String.toList h
  rw [positionName_toList, positionName_toList, List.cons.injEq] at hlists
  have hread := congrArg Decimal.readDigits? hlists.2
  rw [Decimal.readDigits?_digits, Decimal.readDigits?_digits, Option.some.injEq] at hread
  omega

theorem isBracketable_positionName (index : Nat) : IsBracketable (positionName index) := by
  unfold IsBracketable
  rw [positionName_toList, List.mem_cons]
  rintro (h | h)
  · cases h
  · exact absurd (Nat.isDigit_of_mem_toDigits (by decide) (by decide) h) (by decide)

namespace Grid

@[simp] theorem length_positionNames (n : Nat) : (positionNames n).length = n := by
  simp [positionNames]

theorem mem_positionNames {n : Nat} {name : String} :
    name ∈ positionNames n ↔ ∃ i, i < n ∧ positionName i = name := by
  simp [positionNames]

/-- The name of a position is found at the position. -/
theorem findIdx?_positionNames {n i : Nat} (h : i < n) :
    (positionNames n).findIdx? (· == positionName i) = some i := by
  -- no position before it has the same name
  rw [List.findIdx?_eq_some_iff_getElem]
  refine ⟨by rwa [length_positionNames], by simp [positionNames], ?_⟩
  intro j hj
  have hne : positionName j ≠ positionName i := fun heq => by
    have hij := positionName_injective heq
    omega
  simpa [positionNames] using hne

/-! ## Widths -/

theorem foldl_max_length (grid : Grid) (n : Nat) :
    n ≤ grid.foldl (fun n row => max n row.length) n ∧
      ∀ row ∈ grid, row.length ≤ grid.foldl (fun n row => max n row.length) n := by
  induction grid generalizing n with
  | nil => exact ⟨Nat.le_refl n, nofun⟩
  | cons first rest ih =>
      obtain ⟨hstart, hrest⟩ := ih (max n first.length)
      rw [List.foldl_cons]
      refine ⟨by omega, ?_⟩
      intro row hrow
      rcases List.mem_cons.mp hrow with rfl | hrow
      · omega
      · exact hrest row hrow

/-- No row is longer than the grid is wide. -/
theorem length_le_width {grid : Grid} {row : List Value} (h : row ∈ grid) :
    row.length ≤ grid.width :=
  (foldl_max_length grid 0).2 row h

theorem length_of_mem_squared {grid : Grid} {row : List Value} (h : row ∈ grid.squared) :
    row.length = grid.width := by
  obtain ⟨cells, hcells, rfl⟩ := List.mem_map.mp h
  have hle := length_le_width hcells
  rw [padded, List.length_append, List.length_replicate]
  omega

theorem length_headerNames (header : List Value) : (headerNames header).length = header.length := by
  simp [headerNames]

/-- A grid as a table has a cell for each column in every row. -/
theorem toTable_isRectangular (grid : Grid) (hasHeader : Bool) :
    (grid.toTable hasHeader).IsRectangular := by
  have hsquared : ∀ row ∈ grid.squared, row.length = grid.width := fun _ => length_of_mem_squared
  unfold toTable
  split
  · next header rows heq =>
      rw [heq] at hsquared
      intro row hrow
      rw [hsquared row (List.mem_cons_of_mem _ hrow), length_headerNames,
        hsquared header List.mem_cons_self]
  · intro row hrow
    exact (hsquared row hrow).trans (length_positionNames grid.width).symm

end Grid

namespace Workbook

/-- **Tables are rectangular**, whatever part of the workbook they are. -/
theorem table_isRectangular {w : Workbook} {reference : String} {hasHeader : Bool} {t : ResultSet}
    (h : w.table reference hasHeader = .ok t) : t.IsRectangular := by
  obtain ⟨grid, -, rfl⟩ := map_eq_ok_iff.mp h
  exact grid.toTable_isRectangular hasHeader

/-- Without a header the columns are named by their positions. -/
theorem table_columns {w : Workbook} {reference : String} {t : ResultSet}
    (h : w.table reference false = .ok t) : ∃ n, t.columns = Grid.positionNames n := by
  obtain ⟨grid, -, rfl⟩ := map_eq_ok_iff.mp h
  exact ⟨grid.width, rfl⟩

end Workbook

/-! ## Numbers of rows -/

/-- No worksheet has more rows than a word can count. -/
def Workbook.IsCountable (w : Workbook) : Prop :=
  ∀ sheet ∈ w.sheets, sheet.grid.length < 2 ^ 63

namespace Grid

theorem length_slice_le (grid : Grid) (start stop : CellPosition) :
    (grid.slice start stop).length ≤ grid.length := by
  simp only [slice, List.length_map, List.length_take, List.length_drop]
  omega

theorem length_toTable_le (grid : Grid) (hasHeader : Bool) :
    (grid.toTable hasHeader).rows.length ≤ grid.length := by
  have hsquared : grid.squared.length = grid.length := List.length_map _
  unfold toTable
  split
  · next heq =>
      rw [← hsquared, heq]
      exact Nat.le_succ _
  · exact hsquared.le

end Grid

namespace Workbook

variable {w : Workbook}

theorem exists_of_sheet? {name : String} {grid : Grid} (h : w.sheet? name = some grid) :
    ∃ sheet ∈ w.sheets, sheet.grid = grid := by
  obtain ⟨sheet, hfind, rfl⟩ := Option.map_eq_some_iff.mp h
  exact ⟨sheet, List.mem_of_find?_eq_some hfind, rfl⟩

theorem orUnknown_ok_iff {α : Type} {name : List Char} {found : Option α} {a : α} :
    orUnknown name found = .ok a ↔ found = some a := by
  cases found <;> simp [orUnknown, unknown]

theorem length_of_part {reference rest : List Char} {worksheet : String} {grid g : Grid}
    (h : w.part reference worksheet grid rest = .ok g) : g.length ≤ grid.length := by
  unfold part at h
  split at h
  · cases h
    exact Nat.le_refl _
  · split at h
    · obtain ⟨start, -, h⟩ := bind_eq_ok_iff.mp h
      obtain ⟨stop, -, h⟩ := bind_eq_ok_iff.mp h
      cases h
      exact grid.length_slice_le _ _
    · obtain ⟨range, -, h⟩ := bind_eq_ok_iff.mp h
      cases h
      exact grid.length_slice_le _ _

/-- What a reference names is no longer than the worksheet it lies on. -/
theorem exists_sheet_of_grid {reference : String} {g : Grid} (h : w.grid reference = .ok g) :
    ∃ sheet ∈ w.sheets, g.length ≤ sheet.grid.length := by
  unfold grid at h
  split at h
  · next hsheet =>
      cases h
      obtain ⟨sheet, hmem, rfl⟩ := exists_of_sheet? hsheet
      exact ⟨sheet, hmem, Nat.le_refl _⟩
  · split at h
    · obtain ⟨whole, hwhole, h⟩ := bind_eq_ok_iff.mp h
      obtain ⟨sheet, hmem, rfl⟩ := exists_of_sheet? (orUnknown_ok_iff.mp hwhole)
      exact ⟨sheet, hmem, length_of_part h⟩
    · obtain ⟨range, -, h⟩ := bind_eq_ok_iff.mp h
      obtain ⟨sheet, hfirst, h⟩ := bind_eq_ok_iff.mp h
      cases h
      exact ⟨sheet, List.mem_of_head? (orUnknown_ok_iff.mp hfirst), sheet.grid.length_slice_le _ _⟩

/-- Behind a name with a dollar sign stands a worksheet of just that name, or else the worksheet of
the name without it. -/
theorem grid_push {sheet : String} {grid : Grid} (h : w.sheet? sheet = some grid) :
    w.grid (sheet.push '$') = .ok ((w.sheet? (sheet.push '$')).getD grid) := by
  unfold Workbook.grid
  cases w.sheet? (sheet.push '$') with
  | some shown => rfl
  | none =>
      have hsplit : Text.splitAtLast? '$' (sheet.push '$').toList = some (sheet.toList, []) := by
        simp [Text.splitAtLast?, Text.splitAtFirst?]
      simp only [hsplit, String.ofList_toList, h, orUnknown, ok_bind, part, List.isEmpty_nil,
        if_true, Option.getD_none]

/-- The rows of any part of the workbook can be counted. -/
theorem length_lt_of_table (hw : w.IsCountable) {reference : String} {hasHeader : Bool}
    {t : ResultSet} (h : w.table reference hasHeader = .ok t) : t.rows.length < 2 ^ 63 := by
  obtain ⟨grid, hgrid, rfl⟩ := map_eq_ok_iff.mp h
  obtain ⟨sheet, hsheet, hle⟩ := exists_sheet_of_grid hgrid
  calc (grid.toTable hasHeader).rows.length ≤ grid.length := grid.length_toTable_le hasHeader
    _ ≤ sheet.grid.length := hle
    _ < 2 ^ 63 := hw sheet hsheet

end Workbook

end SheetQuery
