import SheetQuery.Proofs.Workbook.Tables

/-!
# Names of columns under a header

A header names its columns: by the texts of its cells, and by the position where the cell is blank or
the header ends before the longest row. Both kinds of names are of one space. Texts that are apart
stay so, and so do positions, and a text meets a position only where the header spells the name of a
position that it leaves blank itself.

Main statement: `Grid.nodup_columns_iff`.
-/

namespace SheetQuery.Grid

/-- The cell of a header in a position, empty where the header has ended. -/
def headerCell (header : List Value) (i : Nat) : Value :=
  (header[i]?).getD .null

/-- The texts of a header, without the blank ones. -/
def ownNames (header : List Value) : List String :=
  (header.filter fun cell => !Text.allBlank cell.chars).map Value.display

/-- **No text of the header is the name of a position that is left blank.** -/
def SparesPositions (grid : Grid) : Prop :=
  ∀ i < grid.width, Text.allBlank (headerCell (grid.headD []) i).chars = true →
    positionName i ∉ ownNames (grid.headD [])

instance (grid : Grid) : Decidable grid.SparesPositions :=
  inferInstanceAs (Decidable (∀ i < grid.width, _ → _))

variable {header : List Value} {grid : Grid} {i j : Nat}

/-- A cell that is not blank is a cell of the header. -/
theorem exists_of_not_blank (h : Text.allBlank (headerCell header i).chars = false) :
    ∃ hi : i < header.length, headerCell header i = header[i] := by
  by_cases hi : i < header.length
  · exact ⟨hi, by rw [headerCell, List.getElem?_eq_getElem hi, Option.getD_some]⟩
  · rw [headerCell, List.getElem?_eq_none (by omega), Option.getD_none] at h
    cases h

theorem mem_ownNames {name : String} : name ∈ ownNames header ↔
    ∃ i, Text.allBlank (headerCell header i).chars = false ∧
      (headerCell header i).display = name := by
  rw [ownNames, List.mem_map]
  constructor
  · rintro ⟨cell, hcell, rfl⟩
    obtain ⟨hmem, hshown⟩ := List.mem_filter.mp hcell
    obtain ⟨i, hi, rfl⟩ := List.getElem_of_mem hmem
    have hself : headerCell header i = header[i] := by
      rw [headerCell, List.getElem?_eq_getElem hi, Option.getD_some]
    exact ⟨i, by simpa [hself] using hshown, by rw [hself]⟩
  · rintro ⟨i, hshown, rfl⟩
    obtain ⟨hi, hself⟩ := exists_of_not_blank hshown
    rw [hself] at hshown ⊢
    exact ⟨header[i], List.mem_filter.mpr ⟨List.getElem_mem hi, by simpa using hshown⟩, rfl⟩

/-- Where the texts of a header are apart, each is that of one cell. -/
theorem eq_of_display (h : (ownNames header).Nodup)
    (hi : Text.allBlank (headerCell header i).chars = false)
    (hj : Text.allBlank (headerCell header j).chars = false)
    (hsame : (headerCell header i).display = (headerCell header j).display) : i = j := by
  have hapart := List.pairwise_filter.mp (List.pairwise_map.mp h)
  rw [List.pairwise_iff_getElem] at hapart
  obtain ⟨hilt, hicell⟩ := exists_of_not_blank hi
  obtain ⟨hjlt, hjcell⟩ := exists_of_not_blank hj
  rw [hicell] at hi hsame
  rw [hjcell] at hj hsame
  rcases Nat.lt_trichotomy i j with hlt | heq | hgt
  · exact absurd hsame (hapart i j hilt hjlt hlt (by simpa using hi) (by simpa using hj))
  · exact heq
  · exact absurd hsame.symm (hapart j i hjlt hilt hgt (by simpa using hj) (by simpa using hi))

theorem length_headD_le (grid : Grid) : (grid.headD []).length ≤ grid.width := by
  cases grid with
  | nil => exact Nat.le_refl 0
  | cons header rows => exact length_le_width List.mem_cons_self

/-- Each position of a grid has a column, which the cell of the header there names. -/
theorem toTable_columns (grid : Grid) : (grid.toTable true).columns =
    (List.range grid.width).map fun i => headerName (headerCell (grid.headD []) i) i := by
  cases grid with
  | nil => rfl
  | cons header rows =>
      have hle := length_headD_le (header :: rows)
      have hcolumns : (toTable (header :: rows) true).columns =
          headerNames (padded (width (header :: rows)) header) := rfl
      rw [List.headD_cons] at hle ⊢
      rw [hcolumns]
      refine List.ext_getElem ?_ fun i hi hi' => ?_
      · rw [length_headerNames, padded, List.length_append, List.length_replicate, List.length_map,
          List.length_range]
        omega
      · simp only [headerNames, padded, headerCell, List.getElem_map, List.getElem_zipIdx,
          List.getElem_range, Nat.zero_add, List.getElem_append, List.getElem_replicate]
        split
        · next hlt => rw [List.getElem?_eq_getElem hlt, Option.getD_some]
        · next hge => rw [List.getElem?_eq_none (by omega), Option.getD_none]

/-- **The names of the columns are apart exactly where the header spares the positions**, given that
its texts are apart. -/
theorem nodup_columns_iff (h : (ownNames (grid.headD [])).Nodup) :
    (grid.toTable true).columns.Nodup ↔ grid.SparesPositions := by
  rw [toTable_columns, List.nodup_map_iff_inj_on List.nodup_range]
  simp only [List.mem_range, headerName]
  constructor
  · intro hinj i hi hblank hmem
    obtain ⟨j, hshown, hname⟩ := mem_ownNames.mp hmem
    obtain ⟨hjlt, -⟩ := exists_of_not_blank hshown
    -- a cell with a text is not the blank one
    have hij : i = j := by
      refine hinj i hi j (hjlt.trans_le grid.length_headD_le) ?_
      rw [hblank, hshown, hname]
      rfl
    rw [hij, hshown] at hblank
    cases hblank
  · intro hspares i hi j hj hsame
    cases hiblank : Text.allBlank (headerCell (grid.headD []) i).chars with
    | true =>
        cases hjblank : Text.allBlank (headerCell (grid.headD []) j).chars with
        | true =>
            rw [hiblank, hjblank] at hsame
            exact positionName_injective hsame
        | false =>
            rw [hiblank, hjblank] at hsame
            exact absurd (mem_ownNames.mpr ⟨j, hjblank, hsame.symm⟩) (hspares i hi hiblank)
    | false =>
        cases hjblank : Text.allBlank (headerCell (grid.headD []) j).chars with
        | true =>
            rw [hiblank, hjblank] at hsame
            exact absurd (mem_ownNames.mpr ⟨i, hiblank, hsame⟩) (hspares j hj hjblank)
        | false =>
            rw [hiblank, hjblank] at hsame
            exact eq_of_display h hiblank hjblank hsame

end SheetQuery.Grid
