import SheetQuery.Proofs.Backend.Answers
import SheetQuery.Proofs.Workbook.Arranging
import SheetQuery.Proofs.Workbook.References
import SheetQuery.Proofs.Workbook.Referents

/-!
# Rectangles of a worksheet

A statement over a rectangle of a worksheet reads the cells between two references, both ends
included, whatever the shape of the grid: rows below the grid are left out, and cells beside a short
row are empty. The names of the columns come from the first of these rows or from the positions.

Main statements: `Grid.slice_eq_between` and `Engine.answer_rectangle`.
-/

namespace SheetQuery

open Sql CellPosition

/-! ## Cells between two references -/

/-- The cell in a row and a column, counted from zero; empty beside and below the cells given. -/
def Grid.entry (grid : Grid) (row column : Nat) : Value :=
  ((grid[row]?).bind (·[column]?)).getD .null

/-- The places below a limit whose numbers, counted from 1, lie between two others. -/
def placesBetween (first last limit : Nat) : List Nat :=
  (List.range limit).filter fun i => first ≤ i + 1 ∧ i + 1 ≤ last

/-- **The rectangle between two references**: each row of the grid whose number lies between theirs,
with a cell for each number of a column between theirs. -/
def Grid.between (grid : Grid) (start stop : List Char) : Grid :=
  (placesBetween (rowRank start) (rowRank stop) grid.length).map fun i =>
    (placesBetween (columnRank start) (columnRank stop) (columnRank stop)).map (grid.entry i)

/-- Places between two numbers follow one another. -/
theorem placesBetween_eq {first last : Nat} (h : 1 ≤ first) (limit : Nat) :
    placesBetween first last limit =
      List.range' (first - 1) (min limit last - (first - 1)) := by
  unfold placesBetween
  induction limit with
  | zero => simp
  | succ n ih =>
      rw [List.range_succ, List.filter_append, ih]
      by_cases hn : first ≤ n + 1 ∧ n + 1 ≤ last
      · have hcount : min (n + 1) last - (first - 1) = min n last - (first - 1) + 1 := by omega
        have hlast : first - 1 + 1 * (min n last - (first - 1)) = n := by omega
        rw [hcount, List.range'_concat, hlast, List.filter_singleton, decide_eq_true hn]
        rfl
      · have hcount : min (n + 1) last - (first - 1) = min n last - (first - 1) := by omega
        rw [hcount, List.filter_singleton, decide_eq_false hn]
        exact List.append_nil _

/-- Elements from a place on are those at the places from there, as far as there are any. -/
theorem map_take_drop {α β : Type} (f : Option α → β) (xs : List α) (a k : Nat) :
    ((xs.drop a).take k).map (fun x => f (some x)) =
      (List.range' a (min xs.length (a + k) - a)).map fun i => f xs[i]? := by
  refine List.ext_getElem (by simp; omega) fun i hi hi' => ?_
  simp only [List.length_map, List.length_take, List.length_drop] at hi
  have hxs : a + i < xs.length := by omega
  simp [List.getElem?_eq_getElem hxs]

namespace Grid

variable {grid : Grid} {start stop : List Char}

/-- **A slice is the rectangle between its ends.** -/
theorem slice_eq_between (hrow : 1 ≤ rowRank start) (hrow' : 1 ≤ rowRank stop)
    (hcolumn : 1 ≤ columnRank start) (hcolumn' : 1 ≤ columnRank stop) :
    grid.slice ⟨rowRank start - 1, columnRank start - 1⟩ ⟨rowRank stop - 1, columnRank stop - 1⟩ =
      grid.between start stop := by
  have hheight : min grid.length (rowRank stop) - (rowRank start - 1) =
      min grid.length (rowRank start - 1 + (rowRank stop - 1 + 1 - (rowRank start - 1))) -
        (rowRank start - 1) := by omega
  have hwidth : min (columnRank stop) (columnRank stop) - (columnRank start - 1) =
      columnRank stop - 1 + 1 - (columnRank start - 1) := by omega
  rw [between, placesBetween_eq hrow, placesBetween_eq hcolumn, hheight, hwidth]
  exact map_take_drop (fun row => (span (columnRank start - 1) (columnRank stop - 1)).map fun j =>
    (row.bind (·[j]?)).getD .null) grid _ _

/-- All rows of a rectangle are as wide as it is. -/
theorem length_of_mem_between {row : List Value} (hcolumn : 1 ≤ columnRank start)
    (h : row ∈ grid.between start stop) :
    row.length = columnRank stop + 1 - columnRank start := by
  obtain ⟨i, -, rfl⟩ := List.mem_map.mp h
  rw [List.length_map, placesBetween_eq hcolumn, List.length_range']
  omega

/-! ## Rows of one width as a table -/

/-- Rows of one width need no filling up. -/
theorem squared_of_wide {n : Nat} (h : ∀ row ∈ grid, row.length = n) : grid.squared = grid := by
  have hpadded : ∀ row ∈ grid, padded grid.width row = row := by
    intro row hrow
    obtain ⟨first, rest, rfl⟩ := List.exists_cons_of_ne_nil (List.ne_nil_of_mem hrow)
    obtain ⟨hfirst, hrest⟩ := List.forall_mem_cons.mp h
    rw [width_of_wide hfirst hrest, padded, h row hrow, Nat.sub_self, List.replicate_zero,
      List.append_nil]
  rw [squared, List.map_congr_left (g := id) hpadded, List.map_id]

/-- Without a header, rows of one width have the names of their positions. -/
theorem toTable_false_of_wide {n : Nat} (h : ∀ row ∈ grid, row.length = n) :
    grid.toTable false = ⟨positionNames (grid.headD []).length, grid⟩ := by
  have hwidth : grid.width = (grid.headD []).length := by
    cases grid with
    | nil => rfl
    | cons first rest =>
        obtain ⟨hfirst, hrest⟩ := List.forall_mem_cons.mp h
        rw [width_of_wide hfirst hrest, List.headD_cons, hfirst]
  unfold toTable
  rw [squared_of_wide h, hwidth]

/-- With a header, rows of one width have the names that their first row gives. -/
theorem toTable_true_of_wide {n : Nat} (h : ∀ row ∈ grid, row.length = n) :
    grid.toTable true = ⟨(grid.headD []).mapIdx fun i cell => headerName cell i, grid.tail⟩ := by
  unfold toTable
  rw [squared_of_wide h]
  cases grid with
  | nil => rfl
  | cons header rows =>
      rw [List.headD_cons, List.mapIdx_eq_zipIdx_map]
      rfl

end Grid

/-! ## References of rectangles -/

namespace Workbook

/-- The reference of a rectangle of a worksheet. -/
def rectangleName (name start stop : String) : String :=
  name ++ "$" ++ start ++ ":" ++ stop

theorem toList_rectangleName (name start stop : String) :
    (rectangleName name start stop).toList =
      name.toList ++ '$' :: (start.toList ++ ':' :: stop.toList) := by
  simp [rectangleName]

/-- The clause of a rectangle is its reference in brackets. -/
theorem clause_rectangle {name start stop : String} (hname : IsBracketable name)
    (hstart : isCellReference start.toList = true) (hstop : isCellReference stop.toList = true) :
    (⟨some name, none, some (start, stop)⟩ : Table).clause =
        bracketed (rectangleName name start stop) ∧
      IsBracketable (rectangleName name start stop) := by
  have hreference : (⟨some name, none, some (start, stop)⟩ : Table).reference =
      (rectangleName name start stop).toList := by
    rw [toList_rectangleName, ← List.cons_append, ← List.append_assoc]
    rfl
  have hfits : IsBracketable (rectangleName name start stop) := by
    have hstart' : ']' ∉ start.toList := notMem_of_isCellReference hstart (by decide)
    have hstop' : ']' ∉ stop.toList := notMem_of_isCellReference hstop (by decide)
    have hname' : ']' ∉ name.toList := hname
    rw [IsBracketable, toList_rectangleName]
    simp [hname', hstart', hstop']
  -- it ends in a digit of the last cell
  have hlast : (rectangleName name start stop).toList.getLast? ≠ some '$' := by
    have hdollar : '$' ∉ ':' :: stop.toList := by
      simp [notMem_of_isCellReference hstop (c := '$') (by decide)]
    rw [toList_rectangleName, ← List.cons_append, ← List.append_assoc,
      List.getLast?_append_of_ne_nil _ (List.cons_ne_nil _ _)]
    exact fun h => hdollar (List.mem_of_getLast? h)
  refine ⟨?_, hfits⟩
  have hclause := Table.clause_eq (t := ⟨some name, none, some (start, stop)⟩)
    (by rw [hreference]; exact hfits)
  rw [hreference, if_neg fun h => hlast h.2, String.ofList_toList] at hclause
  exact hclause

/-- The last dollar sign of the reference is the one behind the worksheet. -/
theorem splitAtLast?_rectangleName {name start stop : String}
    (hstart : isCellReference start.toList = true) (hstop : isCellReference stop.toList = true) :
    Text.splitAtLast? '$' (rectangleName name start stop).toList =
      some (name.toList, start.toList ++ ':' :: stop.toList) := by
  have hdollar : '$' ∉ start.toList ++ ':' :: stop.toList := by
    simp [notMem_of_isCellReference hstart (c := '$') (by decide),
      notMem_of_isCellReference hstop (c := '$') (by decide)]
  rw [toList_rectangleName, Text.splitAtLast?_append hdollar]

theorem splitAtFirst?_ends {start stop : String} (hstart : isCellReference start.toList = true) :
    Text.splitAtFirst? ':' (start.toList ++ ':' :: stop.toList) =
      some (start.toList, stop.toList) :=
  Text.splitAtFirst?_append (notMem_of_isCellReference hstart (by decide))

/-- The reference of a rectangle stands for the cells between the positions that its ends name. -/
theorem referent_rectangle {w : Workbook} (hplain : w.HasPlainReferences) {name : String}
    {sheet : Sheet} (hsheet : w.sheetNamed? name = some sheet) {start stop : String}
    (hstart : isCellReference start.toList = true) (hstop : isCellReference stop.toList = true)
    (hrow : 1 ≤ rowRank start.toList) (hrow' : 1 ≤ rowRank stop.toList) :
    w.referent (rectangleName name start stop) = .ok (.cells sheet
      ⟨rowRank start.toList - 1, columnRank start.toList - 1⟩
      ⟨rowRank stop.toList - 1, columnRank stop.toList - 1⟩) := by
  have hempty : (start.toList ++ ':' :: stop.toList).isEmpty = false := by simp
  have hnone : w.sheetNamed? (rectangleName name start stop) = none :=
    hplain.sheetNamed?_eq_none (by rw [toList_rectangleName]; simp)
  rw [referent, hnone, splitAtLast?_rectangleName hstart hstop]
  simp only [String.ofList_toList, hsheet, orUnknown, ok_bind, referentOn, hempty,
    splitAtFirst?_ends hstart, read?_of_isCellReference hstart hrow,
    read?_of_isCellReference hstop hrow']
  rfl

/-- **A rectangle of a worksheet that is there is found**, whatever signs the name of the worksheet
has: a worksheet of just that name comes first, and the last dollar sign is that of the rectangle. -/
theorem exists_grid_rectangle {w : Workbook} {name : String} (hthere : (w.sheet? name).isSome = true)
    {start stop : String} (hstart : isCellReference start.toList = true)
    (hstop : isCellReference stop.toList = true) (hrow : 1 ≤ rowRank start.toList)
    (hrow' : 1 ≤ rowRank stop.toList) : ∃ grid, w.grid (rectangleName name start stop) = .ok grid := by
  unfold grid
  cases w.sheet? (rectangleName name start stop) with
  | some grid => exact ⟨grid, rfl⟩
  | none =>
      obtain ⟨grid, hgrid⟩ := Option.isSome_iff_exists.mp hthere
      have hempty : (start.toList ++ ':' :: stop.toList).isEmpty = false := by simp
      rw [splitAtLast?_rectangleName hstart hstop]
      simp only [String.ofList_toList, hgrid, orUnknown, ok_bind, part, hempty,
        splitAtFirst?_ends hstart, read?_of_isCellReference hstart hrow,
        read?_of_isCellReference hstop hrow']
      exact ⟨_, rfl⟩

end Workbook

/-! ## The engine -/

/-- The text that asks for all rows of a rectangle. -/
theorem Clauses.render_rectangle {name start stop : String}
    (hclause : (⟨some name, none, some (start, stop)⟩ : Table).clause =
      bracketed (Workbook.rectangleName name start stop)) :
    all.render ⟨some name, none, some (start, stop)⟩ =
      ⟨"SELECT * FROM [" ++ name ++ "$" ++ start ++ ":" ++ stop ++ "]", []⟩ := by
  have hprefix : "SELECT * FROM [".toList =
      "SELECT ".toList ++ (Selection.all.chars ++ (" FROM ".toList ++ ['['])) := by decide
  have htext : all.chars (bracketed (Workbook.rectangleName name start stop)) =
      ("SELECT * FROM [" ++ name ++ "$" ++ start ++ ":" ++ stop ++ "]").toList := by
    show "SELECT ".toList ++ Selection.all.chars ++ " FROM ".toList ++
      ('[' :: (name ++ "$" ++ start ++ ":" ++ stop).toList ++ [']']) ++ [] ++ [] = _
    simp only [String.toList_append, hprefix, List.append_assoc, List.append_nil, List.cons_append,
      List.nil_append]
    rfl
  rw [render, hclause, htext, String.ofList_toList]
  rfl

/-- **A statement over a rectangle reads exactly its cells.** The text aimed at a rectangle of a
worksheet, between two references that the check on ranges accepts, is answered with the rows of the
rectangle, all as wide as it is. Without a header its columns have the names of their positions;
with one the first row is taken off and names them, by position where its cell is blank. -/
theorem Engine.answer_rectangle {w : Workbook} (hplain : w.HasPlainReferences) {name : String}
    {sheet : Sheet} (hsheet : w.sheetNamed? name = some sheet) {start stop : String}
    (hstart : isCellReference start.toList = true) (hstop : isCellReference stop.toList = true)
    (hrow : 1 ≤ rowRank start.toList) (hrow' : 1 ≤ rowRank stop.toList) {rectangle : Grid}
    (hrectangle : sheet.grid.between start.toList stop.toList = rectangle) :
    Clauses.all.render ⟨some name, none, some (start, stop)⟩ =
        ⟨"SELECT * FROM [" ++ name ++ "$" ++ start ++ ":" ++ stop ++ "]", []⟩ ∧
      (∀ row ∈ rectangle,
        row.length = columnRank stop.toList + 1 - columnRank start.toList) ∧
      answer w false ⟨"SELECT * FROM [" ++ name ++ "$" ++ start ++ ":" ++ stop ++ "]", []⟩ =
        .ok ⟨(List.range (rectangle.headD []).length).map positionName, rectangle⟩ ∧
      answer w true ⟨"SELECT * FROM [" ++ name ++ "$" ++ start ++ ":" ++ stop ++ "]", []⟩ =
        .ok ⟨(rectangle.headD []).mapIdx fun i cell =>
          if Text.allBlank cell.chars then positionName i else cell.display, rectangle.tail⟩ := by
  obtain ⟨hclause, hfits⟩ := Workbook.clause_rectangle
    (hplain.isReferable_of_sheetNamed? hsheet).bracketable hstart hstop
  have hcolumn := one_le_columnRank hstart
  have hcolumn' := one_le_columnRank hstop
  have hwide : ∀ row ∈ rectangle,
      row.length = columnRank stop.toList + 1 - columnRank start.toList := by
    intro row hrow
    rw [← hrectangle] at hrow
    exact Grid.length_of_mem_between hcolumn hrow
  have htable (hasHeader : Bool) : w.table (Workbook.rectangleName name start stop) hasHeader =
      .ok (rectangle.toTable hasHeader) := by
    rw [Workbook.table, Workbook.grid_eq,
      Workbook.referent_rectangle hplain hsheet hstart hstop hrow hrow', ← hrectangle,
      ← Grid.slice_eq_between hrow hrow' hcolumn hcolumn']
    rfl
  have hrender := Clauses.render_rectangle hclause
  have hanswer (hasHeader : Bool) := answer_all hclause hfits (htable hasHeader)
  rw [hrender] at hanswer
  refine ⟨hrender, hwide, ?_, ?_⟩
  · rw [hanswer, Grid.toTable_false_of_wide hwide]
    rfl
  · rw [hanswer, Grid.toTable_true_of_wide hwide]
    rfl

/-- A worksheet with rows of three lengths, below a header of which one cell is blank. -/
def roster : Sheet :=
  ⟨"Roster", [[.text "Staff"], [.text "Name", .text " ", .text "Room"], [.text "Ann", .int 31],
    [.text "Bob", .int 40, .int 7, .int 1]]⟩

/-- From the second row on, past the last row and the end of the short ones. -/
theorem answer_rectangle_roster :
    Engine.answer ⟨[roster], []⟩ false ⟨"SELECT * FROM [Roster$a3:C9]", []⟩ =
        .ok ⟨["F1", "F2", "F3"],
          [[.text "Ann", .int 31, .null], [.text "Bob", .int 40, .int 7]]⟩ ∧
      Engine.answer ⟨[roster], []⟩ true ⟨"SELECT * FROM [Roster$B2:C9]", []⟩ =
        .ok ⟨["F1", "Room"], [[.int 31, .null], [.int 40, .int 7]]⟩ := by
  have hplain : (⟨[roster], []⟩ : Workbook).HasPlainReferences := ⟨by decide, nofun⟩
  have hsheet : (⟨[roster], []⟩ : Workbook).sheetNamed? "Roster" = some roster := rfl
  have hstop : isCellReference "C9".toList = true := by decide
  have hrow : 1 ≤ rowRank "C9".toList := by decide
  have hthree : roster.grid.between "a3".toList "C9".toList =
      [[.text "Ann", .int 31, .null], [.text "Bob", .int 40, .int 7]] := rfl
  have htwo : roster.grid.between "B2".toList "C9".toList =
      [[.text " ", .text "Room"], [.int 31, .null], [.int 40, .int 7]] := rfl
  obtain ⟨-, -, hpositions, -⟩ :=
    Engine.answer_rectangle hplain hsheet (by decide) hstop (by decide) hrow hthree
  obtain ⟨-, -, -, hnames⟩ :=
    Engine.answer_rectangle hplain hsheet (by decide) hstop (by decide) hrow htwo
  exact ⟨hpositions, hnames⟩

end SheetQuery
