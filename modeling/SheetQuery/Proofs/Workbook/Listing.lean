import Mathlib.Data.List.Infix
import SheetQuery.Catalog
import SheetQuery.Proofs.Workbook.Tables

/-!
# Listings of a workbook

A workbook lists its worksheets and its ranges in one list of raw names, and what a raw name stands
for has to be read off its signs: the dollar sign behind the name of a worksheet and the quotes
around both where a blank or a hyphen asks for them. Where the names themselves have none of these
signs, the listing reads back as the worksheets in the order in which they are stored, and no range
is taken for one. A worksheet that is declared again takes the place of the one of its name, so no
two have the same name and each is found under its own.

Main statements: `Workbook.worksheets_tableNames`, `Workbook.nodup_declared`.
-/

namespace SheetQuery

/-! ## Parts of a text -/

theorem Text.holds_iff {s part : List Char} : holds s part = true ↔ part <:+: s := by
  unfold holds
  induction s with
  | nil =>
      rw [afterFirst?, List.infix_nil]
      cases part <;> simp
  | cons c rest ih =>
      rw [afterFirst?, List.infix_cons_iff, ← ih, ← List.isPrefixOf_iff_prefix]
      split
      · next hstart => simp [hstart]
      · next hstart => simp [hstart]

theorem singleton_suffix_iff {c : Char} {s : List Char} : [c] <:+ s ↔ s.getLast? = some c := by
  rw [List.getLast?_eq_some_iff]
  constructor
  · rintro ⟨before, h⟩
    exact ⟨before, h.symm⟩
  · rintro ⟨before, h⟩
    exact ⟨before, h.symm⟩

/-- What has no separator lies on one side of it. -/
theorem infix_append_cons_iff {c : Char} {part before after : List Char} (h : c ∉ part) :
    part <:+: before ++ c :: after ↔ part <:+: before ∨ part <:+: after := by
  constructor
  · rintro ⟨start, rest, heq⟩
    rcases List.append_eq_append_iff.mp heq with ⟨gap, hbefore, -⟩ | ⟨gap, hover, hrest⟩
    · exact Or.inl ⟨start, gap, hbefore.symm⟩
    · cases gap with
      | nil => exact Or.inl ⟨start, [], by simpa using hover⟩
      | cons d gap =>
          obtain ⟨rfl, hafter⟩ := List.cons.inj hrest
          -- the part ends behind the separator, so it starts there as well
          rcases List.append_eq_append_iff.mp hover with ⟨cut, -, hpart⟩ | ⟨cut, -, hgap⟩
          · exact absurd (hpart ▸ by simp) h
          · cases cut with
            | nil =>
                rw [List.nil_append] at hgap
                exact absurd (hgap ▸ List.mem_cons_self) h
            | cons e cut =>
                obtain ⟨-, hgap⟩ := List.cons.inj hgap
                refine Or.inr ⟨cut, rest, ?_⟩
                rw [hafter, hgap]
                rfl
  · rintro (hbefore | hafter)
    · exact hbefore.trans (List.infix_append' [] before (c :: after))
    · exact hafter.trans (List.infix_append' (before ++ [c]) after [] |>.trans (by simp))

namespace Text

variable {c : Char} {before after s : List Char}

theorem splitAtFirst?_append (h : c ∉ before) :
    splitAtFirst? c (before ++ c :: after) = some (before, after) := by
  have hbefore : ∀ d ∈ before, (d != c) = true := by
    intro d hd
    simpa using ne_of_mem_of_not_mem hd h
  unfold splitAtFirst?
  rw [List.dropWhile_append_of_pos hbefore, List.takeWhile_append_of_pos hbefore]
  simp

theorem splitAtFirst?_eq_none (h : c ∉ s) : splitAtFirst? c s = none := by
  have hs : s.dropWhile (· != c) = [] := by
    rw [List.dropWhile_eq_nil_iff]
    intro d hd
    simpa using ne_of_mem_of_not_mem hd h
  unfold splitAtFirst?
  rw [hs]

theorem splitAtLast?_append (h : c ∉ after) :
    splitAtLast? c (before ++ c :: after) = some (before, after) := by
  have hreverse : (before ++ c :: after).reverse = after.reverse ++ c :: before.reverse := by simp
  rw [splitAtLast?, hreverse, splitAtFirst?_append (by simpa using h)]
  simp

theorem splitAtLast?_eq_none (h : c ∉ s) : splitAtLast? c s = none := by
  rw [splitAtLast?, splitAtFirst?_eq_none (by simpa using h)]
  rfl

end Text

/-! ## Raw names -/

/-- The name has none of the signs that listings and statements set around names. -/
def IsPlainName (name : String) : Prop :=
  '$' ∉ name.toList ∧ '\'' ∉ name.toList ∧ ']' ∉ name.toList

instance (name : String) : Decidable (IsPlainName name) :=
  inferInstanceAs (Decidable (_ ∧ _ ∧ _))

namespace Workbook

open Catalog

variable {name : List Char}

theorem quotedName_cases (name : List Char) :
    quotedName name = name ∨ quotedName name = '\'' :: name ++ ['\''] := by
  unfold quotedName
  split
  · exact Or.inr rfl
  · exact Or.inl rfl

/-- The name of a range behind that of its worksheet has no apostrophe where neither of the two has
one. -/
theorem notMem_scopedName {worksheet : List Char} (hscope : '\'' ∉ worksheet)
    (hname : '\'' ∉ name) : '\'' ∉ worksheet ++ '$' :: name := by
  rw [List.mem_append, List.mem_cons]
  rintro (hmem | hmem | hmem)
  · exact hscope hmem
  · exact absurd hmem (by decide)
  · exact hname hmem

/-- With or without quotes, a raw name is that of a worksheet when a dollar sign comes last in it.
-/
theorem isWorksheet_quotedName (h : '\'' ∉ name) :
    isWorksheet (quotedName name) = true ↔ name.getLast? = some '$' := by
  unfold isWorksheet
  simp only [Bool.or_eq_true, Bool.and_eq_true, List.isSuffixOf_iff_suffix,
    List.isPrefixOf_iff_prefix]
  rcases quotedName_cases name with heq | heq
  · rw [heq, singleton_suffix_iff]
    refine or_iff_left ?_
    rintro ⟨⟨rest, hrest⟩, -⟩
    exact h (hrest ▸ List.mem_cons_self)
  · -- what stands before the closing quote is the last sign of the name
    have hclosed : ['$', '\''] <:+ '\'' :: name ++ ['\''] ↔ name.getLast? = some '$' := by
      have hinner : ['$'] ++ ['\''] <:+ '\'' :: name ++ ['\''] ↔
          ['$'] <:+ '\'' :: name ∧ ['\''] = ['\''] := List.suffix_append_inj_of_length_eq rfl
      rw [show ['$', '\''] = ['$'] ++ ['\''] from rfl, hinner, singleton_suffix_iff,
        List.getLast?_cons]
      cases name.getLast? <;> simp
    rw [heq, hclosed, singleton_suffix_iff, List.getLast?_concat]
    constructor
    · rintro (hlast | ⟨-, hlast⟩)
      · cases hlast
      · exact hlast
    · intro hlast
      exact Or.inr ⟨⟨name ++ ['\''], rfl⟩, hlast⟩

theorem isWorksheet_eq_false (h : '$' ∉ name) : isWorksheet name = false := by
  rw [Bool.eq_false_iff]
  intro hsheet
  unfold isWorksheet at hsheet
  simp only [Bool.or_eq_true, Bool.and_eq_true, List.isSuffixOf_iff_suffix] at hsheet
  rcases hsheet with hlast | ⟨-, hlast⟩
  · exact h (hlast.subset List.mem_cons_self)
  · exact h (hlast.subset List.mem_cons_self)

theorem undoubled_of_plain (h : '\'' ∉ name) : undoubled name = name := by
  induction name with
  | nil => rfl
  | cons c rest ih =>
      rw [List.mem_cons, not_or] at h
      rw [undoubled, ih h.2]
      rintro after rfl -
      exact h.1 rfl

theorem unquoted_of_plain (h : '\'' ∉ name) : unquoted name = name := by
  have hopening : withoutOpening name = name := by
    unfold withoutOpening
    split
    · exact absurd List.mem_cons_self h
    · rfl
  have hclosing : withoutClosing name = name := by
    unfold withoutClosing
    rw [if_neg]
    intro hlast
    exact h (List.mem_of_getLast? hlast)
  rw [unquoted, hopening, hclosing, undoubled_of_plain h]

/-- Inside its quotes, or without any, a name is what it was. -/
theorem unquoted_quotedName (h : '\'' ∉ name) : unquoted (quotedName name) = name := by
  rcases quotedName_cases name with heq | heq
  · rw [heq, unquoted_of_plain h]
  · have hopening : withoutOpening ('\'' :: name ++ ['\'']) = name ++ ['\''] := rfl
    have hclosing : withoutClosing (name ++ ['\'']) = name := by
      unfold withoutClosing
      rw [if_pos List.getLast?_concat, List.dropLast_concat]
    rw [heq, unquoted, hopening, hclosing, undoubled_of_plain h]

/-- The raw name of a worksheet without its dollar sign is its name, in quotes where they are asked
for. -/
theorem filter_sheetName {s : Sheet} (h : '$' ∉ s.name.toList) :
    (sheetName s).filter (· != '$') = quotedName s.name.toList := by
  have hname : s.name.toList.filter (· != '$') = s.name.toList := by
    rw [List.filter_eq_self]
    intro c hc
    have hne : c ≠ '$' := by
      rintro rfl
      exact h hc
    simpa using hne
  unfold sheetName quotedName
  have hblank : (s.name.toList ++ ['$']).contains ' ' = s.name.toList.contains ' ' := by simp
  have hhyphen : (s.name.toList ++ ['$']).contains '-' = s.name.toList.contains '-' := by simp
  rw [hblank, hhyphen]
  split
  · simp [hname]
  · simp [hname]

/-! ## The listing -/

/-- **The names of the workbook have none of the signs that are set around them**, no range goes
without a name, and no worksheet has the name of what the spreadsheet program makes for itself. -/
structure IsPlain (w : Workbook) : Prop where
  sheets : ∀ sheet ∈ w.sheets, IsPlainName sheet.name
  shown : ∀ sheet ∈ w.sheets, ∀ marker ∈ builtinMarkers, ¬marker <:+: sheet.name.toList
  ranges : ∀ range ∈ w.ranges, IsPlainName range.name ∧ range.name ≠ ""
  scopes : ∀ range ∈ w.ranges, ∀ worksheet, range.worksheet = some worksheet →
    IsPlainName worksheet

variable {w : Workbook}

theorem isBuiltin_iff : isBuiltin name = true ↔ ∃ marker ∈ builtinMarkers, marker <:+: name := by
  simp only [isBuiltin, List.any_eq_true, Text.holds_iff]

theorem isWorksheet_sheetName {s : Sheet} (h : IsPlainName s.name) :
    isWorksheet (sheetName s) = true := by
  have hquote : '\'' ∉ s.name.toList ++ ['$'] := by
    rw [List.mem_append, not_or]
    exact ⟨h.2.1, by decide⟩
  exact (isWorksheet_quotedName hquote).mpr List.getLast?_concat

/-- The name of a range behind that of its worksheet is no name of a worksheet: the last sign in it
is one of the range's own. -/
theorem isWorksheet_scopedName {worksheet : List Char} (hscope : '\'' ∉ worksheet)
    (hdollar : '$' ∉ name) (hquote : '\'' ∉ name) (hnamed : name ≠ []) :
    isWorksheet (quotedName (worksheet ++ '$' :: name)) = false := by
  rw [Bool.eq_false_iff]
  intro hsheet
  have hlast := (isWorksheet_quotedName (notMem_scopedName hscope hquote)).mp hsheet
  rw [List.getLast?_append_of_ne_nil _ (List.cons_ne_nil _ _),
    List.getLast?_cons_of_ne_nil hnamed] at hlast
  exact hdollar (List.mem_of_getLast? hlast)

/-- **A range is not taken for a worksheet.** -/
theorem IsPlain.isWorksheet_rangeName (h : w.IsPlain) {r : NamedRange} (hr : r ∈ w.ranges) :
    isWorksheet (rangeName r) = false := by
  obtain ⟨⟨hdollar, hquote, -⟩, hnamed⟩ := h.ranges r hr
  unfold rangeName
  cases hworksheet : r.worksheet with
  | none => exact isWorksheet_eq_false hdollar
  | some worksheet =>
      obtain ⟨-, hscope, -⟩ := h.scopes r hr worksheet hworksheet
      exact isWorksheet_scopedName hscope hdollar hquote (by simpa using hnamed)

/-- No worksheet has a name with a dollar sign behind it. -/
theorem IsPlain.sheet?_push (h : w.IsPlain) (name : String) : w.sheet? (name.push '$') = none := by
  unfold sheet?
  rw [Option.map_eq_none_iff, List.find?_eq_none]
  intro sheet hsheet hname
  obtain ⟨hdollar, -⟩ := h.sheets sheet hsheet
  rw [beq_iff_eq] at hname
  rw [hname] at hdollar
  simp at hdollar

theorem toList_tableNames (w : Workbook) : w.tableNames.map String.toList =
    w.sheets.map sheetName ++ w.ranges.map rangeName := by
  simp [tableNames, Function.comp_def]

/-- **The worksheets of the listing are those of the workbook**, under their own names and in the
order in which they are stored. -/
theorem worksheets_tableNames (h : w.IsPlain) :
    Catalog.worksheets w.tableNames = w.sheets.map Sheet.name := by
  have hraw : (w.tableNames.map String.toList).filter isWorksheet = w.sheets.map sheetName := by
    have hsheets : (w.sheets.map sheetName).filter isWorksheet = w.sheets.map sheetName := by
      rw [List.filter_eq_self, List.forall_mem_map]
      intro sheet hsheet
      exact isWorksheet_sheetName (h.sheets sheet hsheet)
    have hranges : (w.ranges.map rangeName).filter isWorksheet = [] := by
      rw [List.filter_eq_nil_iff, List.forall_mem_map]
      intro range hrange
      rw [h.isWorksheet_rangeName hrange]
      exact Bool.false_ne_true
    rw [toList_tableNames, List.filter_append, hsheets, hranges, List.append_nil]
  have hnames : (w.sheets.map sheetName).map (fun name => unquoted (name.filter (· != '$'))) =
      w.sheets.map fun sheet => sheet.name.toList := by
    rw [List.map_map]
    refine List.map_congr_left ?_
    intro sheet hsheet
    obtain ⟨hdollar, hquote, -⟩ := h.sheets sheet hsheet
    rw [Function.comp_apply, filter_sheetName hdollar, unquoted_quotedName hquote]
  have hshown : (w.sheets.map fun sheet => sheet.name.toList).filter (fun name => !isBuiltin name) =
      w.sheets.map fun sheet => sheet.name.toList := by
    rw [List.filter_eq_self, List.forall_mem_map]
    intro sheet hsheet
    rw [Bool.not_eq_true', Bool.eq_false_iff, Ne, isBuiltin_iff]
    rintro ⟨marker, hmarker, hinfix⟩
    exact h.shown sheet hsheet marker hmarker hinfix
  unfold Catalog.worksheets
  rw [hraw, hnames, hshown, List.map_map]
  refine List.map_congr_left ?_
  intro sheet _
  exact String.ofList_toList

end Workbook

/-! ## Workbooks as they are made -/

/-- A step in the making of a workbook. -/
inductive Declaration where
  | sheet (name : String) (header : List String) (rows : Grid)
  | grid (name : String) (grid : Grid)
  | range (worksheet : Option String) (name start stop : String)

namespace Workbook

variable {w : Workbook}

/-- The workbook with one declaration more. -/
def declare (w : Workbook) : Declaration → Workbook
  | .sheet name header rows => w.addSheet name header rows
  | .grid name grid => w.addGrid name grid
  | .range worksheet name start stop => w.addRange worksheet name start stop

/-- The workbook that declarations make, one after the other. -/
def declared (declarations : List Declaration) : Workbook :=
  declarations.foldl declare empty

theorem nodup_addGrid (h : (w.sheets.map Sheet.name).Nodup) (name : String) (grid : Grid) :
    ((w.addGrid name grid).sheets.map Sheet.name).Nodup := by
  have hothers : ((w.sheets.filter (·.name != name)).map Sheet.name).Nodup :=
    h.sublist (List.filter_sublist.map Sheet.name)
  rw [addGrid, List.map_append, List.nodup_append]
  refine ⟨hothers, List.nodup_singleton name, ?_⟩
  intro other hother added hadded
  obtain ⟨sheet, hsheet, rfl⟩ := List.mem_map.mp hother
  obtain rfl := List.mem_singleton.mp hadded
  simpa using List.of_mem_filter hsheet

theorem sheets_addRange (w : Workbook) (worksheet : Option String) (name start stop : String) :
    (w.addRange worksheet name start stop).sheets = w.sheets := by
  unfold addRange
  split <;> rfl

/-- A declaration leads to no two worksheets of one name. -/
theorem nodup_declare (h : (w.sheets.map Sheet.name).Nodup) (d : Declaration) :
    ((w.declare d).sheets.map Sheet.name).Nodup := by
  cases d with
  | sheet name header rows => exact nodup_addGrid h name _
  | grid name grid => exact nodup_addGrid h name grid
  | range worksheet name start stop =>
      rw [declare, sheets_addRange]
      exact h

/-- **No two worksheets have the same name**, whatever declarations have made the workbook. -/
theorem nodup_declared (declarations : List Declaration) :
    ((declared declarations).sheets.map Sheet.name).Nodup := by
  have hrun : ∀ w : Workbook, (w.sheets.map Sheet.name).Nodup →
      ((declarations.foldl declare w).sheets.map Sheet.name).Nodup := by
    induction declarations with
    | nil =>
        intro w h
        exact h
    | cons d rest ih =>
        intro w h
        exact ih (w.declare d) (nodup_declare h d)
  exact hrun empty List.nodup_nil

/-- A worksheet is found under its own name where no other has that name. -/
theorem sheet?_of_mem (h : (w.sheets.map Sheet.name).Nodup) {sheet : Sheet}
    (hsheet : sheet ∈ w.sheets) : w.sheet? sheet.name = some sheet.grid := by
  rw [sheet?, find?_of_mem h hsheet]
  rfl

end Workbook

end SheetQuery
