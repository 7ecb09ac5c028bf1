import SheetQuery.Proofs.Backend.Answers
import SheetQuery.Proofs.Workbook.Listing

/-!
# What references stand for

The reference of a statement stands for an object of the workbook: a worksheet, a rectangle of cells
on one, or a named range laid over one. The workbook finds the object first and reads its grid
behind; two references may show the same grid and still stand for different objects. A reference is
tried as the name of a worksheet before its signs are looked at, and a worksheet shows its own ranges
and those of the workbook alike, whichever was declared first.

Main statements: `Workbook.grid_eq`, `Workbook.referent_scoped` and `Workbook.referent_own`.
-/

namespace SheetQuery

open Sql

/-- What a reference stands for. -/
inductive Referent where
  | sheet (s : Sheet)
  | cells (s : Sheet) (start stop : CellPosition)
  | range (s : Sheet) (r : NamedRange)

/-- The cells of what a reference stands for. -/
def Referent.grid : Referent → Grid
  | .sheet s => s.grid
  | .cells s start stop => s.grid.slice start stop
  | .range s r => s.grid.slice r.start r.stop

namespace Workbook

/-- The worksheet of that name. -/
def sheetNamed? (w : Workbook) (name : String) : Option Sheet :=
  w.sheets.find? (·.name == name)

/-- What the part behind the dollar sign of a reference stands for on a worksheet. -/
def referentOn (w : Workbook) (reference : List Char) (sheet : Sheet) (rest : List Char) :
    Except Fault Referent :=
  if rest.isEmpty then .ok (.sheet sheet)
  else match Text.splitAtFirst? ':' rest with
    | some (start, stop) => do
      let start ← orUnknown reference (CellPosition.read? start)
      let stop ← orUnknown reference (CellPosition.read? stop)
      return .cells sheet start stop
    | none => do
      let range ← orUnknown reference (w.sheetRange? sheet.name (String.ofList rest))
      return .range sheet range

/-- What a reference stands for: the worksheet of exactly that name, else what is behind the last
dollar sign on the worksheet before it, else the workbook's range of that name on the first
worksheet. -/
def referent (w : Workbook) (reference : String) : Except Fault Referent :=
  match w.sheetNamed? reference with
  | some sheet => .ok (.sheet sheet)
  | none =>
    match Text.splitAtLast? '$' reference.toList with
    | some (worksheet, rest) => do
      let sheet ← orUnknown (worksheet ++ ['$']) (w.sheetNamed? (String.ofList worksheet))
      w.referentOn reference.toList sheet rest
    | none => do
      let range ← orUnknown reference.toList (w.ownRange? reference)
      let first ← orUnknown reference.toList w.sheets.head?
      return .range first range

variable {w : Workbook} {sheet : Sheet} {name : String}

theorem sheet?_eq (w : Workbook) (name : String) :
    w.sheet? name = (w.sheetNamed? name).map Sheet.grid := rfl

theorem name_of_sheetNamed? (h : w.sheetNamed? name = some sheet) : sheet.name = name := by
  simpa using List.find?_some h

theorem part_eq (w : Workbook) (reference : List Char) (sheet : Sheet) (rest : List Char) :
    w.part reference sheet.name sheet.grid rest =
      (w.referentOn reference sheet rest).map Referent.grid := by
  unfold part referentOn
  split
  · rfl
  · cases Text.splitAtFirst? ':' rest with
    | none =>
        cases w.sheetRange? sheet.name (String.ofList rest) with
        | none => rfl
        | some range => rfl
    | some ends =>
        obtain ⟨start, stop⟩ := ends
        dsimp only
        cases CellPosition.read? start with
        | none => rfl
        | some start =>
            cases CellPosition.read? stop with
            | none => rfl
            | some stop => rfl

/-- **The grid of a reference is that of what it stands for.** -/
theorem grid_eq (w : Workbook) (reference : String) :
    w.grid reference = (w.referent reference).map Referent.grid := by
  unfold grid referent
  rw [sheet?_eq]
  cases w.sheetNamed? reference with
  | some sheet => rfl
  | none =>
      cases Text.splitAtLast? '$' reference.toList with
      | none =>
          cases w.ownRange? reference with
          | none => rfl
          | some range =>
              cases w.sheets.head? with
              | none => rfl
              | some first => rfl
      | some parts =>
          obtain ⟨worksheet, rest⟩ := parts
          simp only [Option.map_none, sheet?_eq]
          cases hsheet : w.sheetNamed? (String.ofList worksheet) with
          | none => rfl
          | some sheet =>
              have hpart := w.part_eq reference.toList sheet rest
              rw [name_of_sheetNamed? hsheet] at hpart
              exact hpart

/-! ## Ranges that a worksheet shows -/

/-- **A worksheet shows the range of the workbook that was declared before its own**, and its own
where there is none; the ranges of other worksheets are passed over, and so is what was declared
later. -/
theorem sheetRange?_eq {before after : List NamedRange} {own : NamedRange}
    (hranges : w.ranges = before ++ own :: after) (hown : own.worksheet = some name)
    (hfirst : ∀ r ∈ before, r.name = own.name → r.worksheet ≠ some name) :
    w.sheetRange? name own.name =
      some ((({ w with ranges := before } : Workbook).ownRange? own.name).getD own) := by
  have hbefore : before.find? (fun r => r.name == own.name && (r.worksheet.getD name == name)) =
      before.find? fun r => r.worksheet.isNone && r.name == own.name := by
    rw [← List.head?_filter, ← List.head?_filter]
    refine congrArg List.head? (List.filter_congr ?_)
    intro r hr
    cases hworksheet : r.worksheet with
    | none => simp
    | some worksheet =>
        by_cases hname : r.name = own.name
        · have hother : worksheet ≠ name := by
            rintro rfl
            exact hfirst r hr hname hworksheet
          simp [hother]
        · simp [hname]
  rw [sheetRange?, hranges, List.find?_append, hbefore, ownRange?]
  cases before.find? fun r => r.worksheet.isNone && r.name == own.name with
  | some r => rfl
  | none => simp [hown]

/-! ## Plain references -/

/-- The name has none of the signs that a reference is made with. -/
structure IsReferable (name : String) : Prop where
  dollarless : '$' ∉ name.toList
  colonless : ':' ∉ name.toList
  bracketable : IsBracketable name

instance (name : String) : Decidable (IsReferable name) :=
  decidable_of_iff ('$' ∉ name.toList ∧ ':' ∉ name.toList ∧ IsBracketable name)
    ⟨fun ⟨hdollar, hcolon, hfits⟩ => ⟨hdollar, hcolon, hfits⟩,
      fun ⟨hdollar, hcolon, hfits⟩ => ⟨hdollar, hcolon, hfits⟩⟩

/-- **References can be told apart**: no name of a worksheet or a range has a sign that references
are made with. -/
structure HasPlainReferences (w : Workbook) : Prop where
  sheets : ∀ sheet ∈ w.sheets, IsReferable sheet.name
  ranges : ∀ range ∈ w.ranges, IsReferable range.name

/-- No worksheet has a name with a dollar sign in it. -/
theorem HasPlainReferences.sheetNamed?_eq_none (h : w.HasPlainReferences)
    (hname : '$' ∈ name.toList) : w.sheetNamed? name = none := by
  rw [sheetNamed?, List.find?_eq_none]
  intro sheet hsheet hsame
  rw [beq_iff_eq] at hsame
  exact (h.sheets sheet hsheet).dollarless (hsame ▸ hname)

theorem HasPlainReferences.isReferable_of_sheetNamed? (h : w.HasPlainReferences)
    (hsheet : w.sheetNamed? name = some sheet) : IsReferable name :=
  name_of_sheetNamed? hsheet ▸ h.sheets sheet (List.mem_of_find?_eq_some hsheet)

theorem HasPlainReferences.isReferable_of_sheetRange? (h : w.HasPlainReferences) {label : String}
    {range : NamedRange} (hrange : w.sheetRange? name label = some range) : IsReferable label := by
  have hlabel := List.find?_some hrange
  rw [Bool.and_eq_true, beq_iff_eq] at hlabel
  exact hlabel.1 ▸ h.ranges range (List.mem_of_find?_eq_some hrange)

theorem HasPlainReferences.isReferable_of_ownRange? (h : w.HasPlainReferences) {label : String}
    {range : NamedRange} (hrange : w.ownRange? label = some range) : IsReferable label := by
  have hlabel := List.find?_some hrange
  rw [Bool.and_eq_true, beq_iff_eq] at hlabel
  exact hlabel.2 ▸ h.ranges range (List.mem_of_find?_eq_some hrange)

/-- The clause of a range of a worksheet has the name of the range behind that of the worksheet. -/
theorem IsReferable.clause_scoped {worksheet : String} (hworksheet : IsReferable worksheet)
    (hrange : IsReferable name) (hnamed : name ≠ "") :
    (⟨some worksheet, some name, none⟩ : Table).clause = bracketed (worksheet ++ "$" ++ name) ∧
      IsBracketable (worksheet ++ "$" ++ name) := by
  have hfits : ']' ∉ worksheet.toList ++ '$' :: name.toList := by
    rw [List.mem_append, List.mem_cons]
    rintro (hmem | hmem | hmem)
    · exact hworksheet.bracketable hmem
    · exact absurd hmem (by decide)
    · exact hrange.bracketable hmem
  -- the reference ends in a sign of the range's own name
  have hlast : (worksheet.toList ++ '$' :: name.toList).getLast? ≠ some '$' := by
    rw [List.getLast?_append_of_ne_nil _ (List.cons_ne_nil _ _),
      List.getLast?_cons_of_ne_nil (by simpa using hnamed)]
    exact fun hlast => hrange.dollarless (List.mem_of_getLast? hlast)
  have hlist : (worksheet ++ "$" ++ name).toList = worksheet.toList ++ '$' :: name.toList := by simp
  constructor
  · have hclause := Table.clause_eq (t := ⟨some worksheet, some name, none⟩) hfits
    rw [if_neg fun h => hlast h.2] at hclause
    rw [hclause, bracketed, bracketed, String.toList_ofList, hlist]
    rfl
  · rw [IsBracketable, hlist]
    exact hfits

/-- The clause of a range of the workbook has its name. -/
theorem IsReferable.clause_own (h : IsReferable name) :
    (⟨none, some name, none⟩ : Table).clause = bracketed name := by
  have hclause := Table.clause_eq (t := ⟨none, some name, none⟩) h.bracketable
  have hworksheet : ¬isCsvName ((none : Option String).getD "").toList = true := by decide
  rw [if_neg fun hends => hworksheet hends.1] at hclause
  rw [hclause]
  exact congrArg bracketed String.ofList_toList

/-- The name of a worksheet stands for it. -/
theorem referent_of_sheetNamed? (h : w.sheetNamed? name = some sheet) :
    w.referent name = .ok (.sheet sheet) := by
  rw [referent, h]

/-- So does the name with a dollar sign behind it. -/
theorem referent_push (hplain : w.HasPlainReferences) (h : w.sheetNamed? name = some sheet) :
    w.referent (name.push '$') = .ok (.sheet sheet) := by
  have hsplit : Text.splitAtLast? '$' (name.push '$').toList = some (name.toList, []) := by
    rw [String.toList_push]
    exact Text.splitAtLast?_append List.not_mem_nil
  rw [referent, hplain.sheetNamed?_eq_none (by simp), hsplit]
  simp only [String.ofList_toList, h]
  rfl

/-- The name of a range behind that of a worksheet stands for the range that the worksheet shows. -/
theorem referent_scoped (hplain : w.HasPlainReferences) (h : w.sheetNamed? name = some sheet)
    {label : String} {range : NamedRange} (hrange : w.sheetRange? name label = some range)
    (hnamed : label ≠ "") : w.referent (name ++ "$" ++ label) = .ok (.range sheet range) := by
  obtain ⟨hdollar, hcolon, -⟩ := hplain.isReferable_of_sheetRange? hrange
  have hlist : (name ++ "$" ++ label).toList = name.toList ++ '$' :: label.toList := by simp
  have hempty : label.toList.isEmpty = false := by simpa using hnamed
  rw [referent, hplain.sheetNamed?_eq_none (by simp), hlist, Text.splitAtLast?_append hdollar]
  simp only [String.ofList_toList, h, orUnknown, ok_bind, referentOn, hempty,
    Text.splitAtFirst?_eq_none hcolon, name_of_sheetNamed? h, hrange]
  rfl

/-- The name of a range of the workbook stands for it, laid over the first worksheet, unless it is
the name of a worksheet. -/
theorem referent_own (hplain : w.HasPlainReferences) {label : String} {range : NamedRange}
    (hrange : w.ownRange? label = some range) (hfirst : w.sheets.head? = some sheet) :
    w.referent label = .ok ((w.sheetNamed? label).elim (.range sheet range) Referent.sheet) := by
  obtain ⟨hdollar, -, -⟩ := hplain.isReferable_of_ownRange? hrange
  unfold referent
  cases w.sheetNamed? label with
  | some shown => rfl
  | none =>
      simp only [Text.splitAtLast?_eq_none hdollar, hrange, hfirst]
      rfl

end Workbook

end SheetQuery
