import SheetQuery.Proofs.Workbook.Listing

/-!
# Scopes of named ranges

A raw name holds the name of a range behind that of its worksheet, with a dollar sign between them.
The ranges of the workbook are told by the missing sign. Those of a worksheet are told by how the raw
name starts, and this takes in the ranges of other worksheets whose names start alike; so the ranges
listed for a name are exactly those of the worksheet of that name only where no other range starts
with it.

Main statements: `Workbook.HasPlainRanges.namedRanges_tableNames` and
`Workbook.HasPlainRanges.namedRanges_exact_iff`.
-/

namespace SheetQuery

open Catalog

/-- The range is listed for a scope: for the workbook if it has no worksheet, and for the name of a
worksheet if its own worksheet and its name behind the dollar sign start with that name, unless the
spreadsheet program made the worksheet. -/
def NamedRange.isListed (scope : Option String) (r : NamedRange) : Bool :=
  match scope, r.worksheet with
  | none, worksheet => worksheet.isNone
  | some _, none => false
  | some asked, some worksheet =>
    !isBuiltin worksheet.toList &&
      asked.toList.isPrefixOf (worksheet.toList ++ '$' :: r.name.toList)

/-- Two filters of which one takes no less than the other agree where they take equally many. -/
theorem agree_of_length_filter {α : Type} {p q : α → Bool} {l : List α}
    (h : ∀ a ∈ l, p a = true → q a = true) (hlength : (l.filter p).length = (l.filter q).length) :
    ∀ a ∈ l, p a = q a := by
  have hsame : (l.filter q).filter p = l.filter p := by
    rw [List.filter_filter]
    refine List.filter_congr ?_
    intro a ha
    cases hp : p a with
    | false => rfl
    | true => rw [h a ha hp]; rfl
  rw [← hsame, List.length_filter_eq_length_iff] at hlength
  intro a ha
  rw [Bool.eq_iff_iff]
  exact ⟨h a ha, fun hq => hlength a (List.mem_filter.mpr ⟨ha, hq⟩)⟩

/-- For the workbook the ranges without a worksheet are listed. -/
theorem NamedRange.isListed_none (r : NamedRange) : r.isListed none = (r.worksheet == none) := by
  cases hworksheet : r.worksheet <;> simp [isListed, hworksheet]

namespace Workbook

/-- The names of the ranges that are declared in a scope, in the order of their declarations. -/
def declaredNames (w : Workbook) (scope : Option String) : List String :=
  (w.ranges.filter (·.worksheet == scope)).map NamedRange.name

/-- **The names of the ranges can be told from the signs that are set around them**: no dollar sign
stands in them, no apostrophe in them or in the names of their worksheets, none is empty, and none
is that of what the spreadsheet program makes for itself. -/
structure HasPlainRanges (w : Workbook) : Prop where
  dollarless : ∀ range ∈ w.ranges, '$' ∉ range.name.toList
  quoteless : ∀ range ∈ w.ranges, '\'' ∉ range.name.toList
  named : ∀ range ∈ w.ranges, range.name ≠ ""
  shown : ∀ range ∈ w.ranges, isBuiltin range.name.toList = false
  scopes : ∀ range ∈ w.ranges, ∀ worksheet, range.worksheet = some worksheet →
    '\'' ∉ worksheet.toList

variable {w : Workbook} {name : List Char}

/-! ## Raw names of ranges -/

theorem contains_quotedName (name : List Char) :
    (quotedName name).contains '$' = name.contains '$' := by
  rcases quotedName_cases name with h | h <;> simp [h]

/-- No worksheet is taken for a named range. -/
theorem isNamedRange_sheetName (s : Sheet) : isNamedRange (sheetName s) = false := by
  have hdollar : (sheetName s).contains '$' = true := by
    rw [sheetName, contains_quotedName]
    simp
  have hlast : (['$'].isSuffixOf (sheetName s) || ['$', '\''].isSuffixOf (sheetName s)) = true := by
    simp only [Bool.or_eq_true, List.isSuffixOf_iff_suffix]
    rcases quotedName_cases (s.name.toList ++ ['$']) with h | h
    · exact Or.inl ⟨s.name.toList, h.symm⟩
    · exact Or.inr ⟨'\'' :: s.name.toList, by rw [sheetName, h]; simp⟩
  rw [isNamedRange, hdollar, hlast]
  rfl

/-- With a dollar sign inside, a raw name is that of a named range unless it is that of a worksheet.
-/
theorem isNamedRange_quotedName (hquote : '\'' ∉ name) (hdollar : '$' ∈ name) :
    isNamedRange (quotedName name) = !isWorksheet (quotedName name) := by
  have hcontains : (quotedName name).contains '$' = true := by
    rw [contains_quotedName]
    simpa using hdollar
  have hsigns : (['$'].isSuffixOf (quotedName name) || ['$', '\''].isSuffixOf (quotedName name)) =
      isWorksheet (quotedName name) := by
    rcases quotedName_cases name with h | h
    · -- without quotes the apostrophe does not come last
      have hbare : ['$', '\''].isSuffixOf name = false := by
        rw [Bool.eq_false_iff, Ne, List.isSuffixOf_iff_suffix]
        intro hlast
        exact hquote (hlast.subset (by decide))
      rw [isWorksheet, h, hbare, Bool.and_false]
    · have hopening : ['\''].isPrefixOf (quotedName name) = true := by
        rw [h]
        rfl
      rw [isWorksheet, hopening, Bool.true_and]
  rw [isNamedRange, hcontains, hsigns]
  rfl

/-- No marker has a dollar sign, so a marker in the name of a range behind that of its worksheet is
in one of the two. -/
theorem isBuiltin_scopedName (worksheet name : List Char) :
    isBuiltin (worksheet ++ '$' :: name) = (isBuiltin worksheet || isBuiltin name) := by
  have hmarkers : ∀ marker ∈ builtinMarkers, '$' ∉ marker := by decide
  rw [Bool.eq_iff_iff, Bool.or_eq_true, isBuiltin_iff, isBuiltin_iff, isBuiltin_iff]
  constructor
  · rintro ⟨marker, hmarker, hinfix⟩
    rcases (infix_append_cons_iff (hmarkers marker hmarker)).mp hinfix with h | h
    · exact Or.inl ⟨marker, hmarker, h⟩
    · exact Or.inr ⟨marker, hmarker, h⟩
  · rintro (⟨marker, hmarker, h⟩ | ⟨marker, hmarker, h⟩)
    · exact ⟨marker, hmarker, (infix_append_cons_iff (hmarkers marker hmarker)).mpr (Or.inl h)⟩
    · exact ⟨marker, hmarker, (infix_append_cons_iff (hmarkers marker hmarker)).mpr (Or.inr h)⟩

theorem afterLastDollar_scopedName {worksheet : List Char} (h : '$' ∉ name) :
    afterLastDollar (worksheet ++ '$' :: name) = name := by
  rw [afterLastDollar, Text.splitAtLast?_append h]

theorem afterLastDollar_of_plain (h : '$' ∉ name) : afterLastDollar name = name := by
  rw [afterLastDollar, Text.splitAtLast?_eq_none h]

/-! ## The listing -/

/-- The raw name of the range stands in the listing of a scope. -/
def isTaken (scope : Option String) (r : NamedRange) : Bool :=
  !isBuiltin (unquoted (rangeName r)) && (isNamedRange (rangeName r) && inScope scope (rangeName r))

/-- A listing takes each raw name on its own. -/
theorem namedRanges_eq (w : Workbook) (scope : Option String) :
    Catalog.namedRanges w.tableNames scope = (w.ranges.filter (isTaken scope)).map fun r =>
      String.ofList (afterLastDollar (unquoted (rangeName r))) := by
  have hsheets : (w.sheets.map sheetName).filter
      (fun name => isNamedRange name && inScope scope name) = [] := by
    rw [List.filter_eq_nil_iff, List.forall_mem_map]
    intro sheet _
    rw [isNamedRange_sheetName, Bool.false_and]
    exact Bool.false_ne_true
  unfold Catalog.namedRanges
  rw [toList_tableNames, List.filter_append, hsheets, List.nil_append]
  simp only [List.filter_map, List.map_map, List.filter_filter, Function.comp_def]
  rfl

namespace HasPlainRanges

variable {r : NamedRange}

/-- A range goes by its own name in every listing. -/
theorem afterLastDollar_rangeName (h : w.HasPlainRanges) (hr : r ∈ w.ranges) :
    String.ofList (afterLastDollar (unquoted (rangeName r))) = r.name := by
  have hdollar := h.dollarless r hr
  have hquote := h.quoteless r hr
  unfold rangeName
  cases hworksheet : r.worksheet with
  | none => rw [unquoted_of_plain hquote, afterLastDollar_of_plain hdollar, String.ofList_toList]
  | some worksheet =>
      have hscope := h.scopes r hr worksheet hworksheet
      rw [unquoted_quotedName (notMem_scopedName hscope hquote), afterLastDollar_scopedName hdollar,
        String.ofList_toList]

/-- By cases on the scope and on the worksheet of the range. -/
theorem isTaken_eq (h : w.HasPlainRanges) (hr : r ∈ w.ranges) (scope : Option String) :
    isTaken scope r = r.isListed scope := by
  have hdollar := h.dollarless r hr
  have hquote := h.quoteless r hr
  have hshown := h.shown r hr
  unfold isTaken NamedRange.isListed rangeName
  cases hworksheet : r.worksheet with
  | none =>
      have hcontains : r.name.toList.contains '$' = false := by simpa using hdollar
      have hrange : isNamedRange r.name.toList = true := by rw [isNamedRange, hcontains]; rfl
      have hscoped : isWorksheetScoped r.name.toList = false := by
        rw [isWorksheetScoped, hcontains, Bool.and_false]
      rw [unquoted_of_plain hquote, hshown, hrange]
      cases scope with
      | none => simp [inScope, hscoped]
      | some asked => simp [inScope, hscoped]
  | some worksheet =>
      have hscope := h.scopes r hr worksheet hworksheet
      have hplain := notMem_scopedName hscope hquote
      have hmem : '$' ∈ worksheet.toList ++ '$' :: r.name.toList := by simp
      have hrange : isNamedRange (quotedName (worksheet.toList ++ '$' :: r.name.toList)) = true := by
        rw [isNamedRange_quotedName hplain hmem,
          isWorksheet_scopedName hscope hdollar hquote (by simpa using h.named r hr)]
        rfl
      have hscoped :
          isWorksheetScoped (quotedName (worksheet.toList ++ '$' :: r.name.toList)) = true := by
        rw [isWorksheetScoped, hrange, contains_quotedName]
        simp
      dsimp only
      rw [unquoted_quotedName hplain, isBuiltin_scopedName, hshown, hrange, Bool.or_false]
      cases scope with
      | none => simp [inScope, hscoped]
      | some asked => simp [inScope, hscoped, unquoted_quotedName hplain]

/-- **The ranges listed for a scope**, in the order of their declarations. -/
theorem namedRanges_tableNames (h : w.HasPlainRanges) (scope : Option String) :
    Catalog.namedRanges w.tableNames scope =
      (w.ranges.filter (·.isListed scope)).map NamedRange.name := by
  have hfilter : w.ranges.filter (isTaken scope) = w.ranges.filter (·.isListed scope) :=
    List.filter_congr fun r hr => h.isTaken_eq hr scope
  rw [namedRanges_eq, hfilter]
  refine List.map_congr_left ?_
  intro r hr
  exact h.afterLastDollar_rangeName (List.mem_of_mem_filter hr)

/-- Nothing is listed for the name of a worksheet that the spreadsheet program made. -/
theorem isListed_of_isBuiltin (h : w.HasPlainRanges) (hr : r ∈ w.ranges) {asked : String}
    (hasked : isBuiltin asked.toList = true) : r.isListed (some asked) = false := by
  unfold NamedRange.isListed
  cases hworksheet : r.worksheet with
  | none => rfl
  | some worksheet =>
      rw [Bool.eq_false_iff]
      intro hlisted
      simp only [Bool.and_eq_true, Bool.not_eq_true', List.isPrefixOf_iff_prefix] at hlisted
      obtain ⟨hworksheet, hstart⟩ := hlisted
      obtain ⟨marker, hmarker, hinfix⟩ := isBuiltin_iff.mp hasked
      -- the marker is in the worksheet of the range or in its name
      have hfull := isBuiltin_iff.mpr ⟨marker, hmarker, hinfix.trans hstart.isInfix⟩
      rw [isBuiltin_scopedName, hworksheet, h.shown r hr] at hfull
      cases hfull

/-- A range is listed for its own worksheet, unless the spreadsheet program made that. -/
theorem isListed_self {asked : String} (hworksheet : r.worksheet = some asked)
    (hasked : isBuiltin asked.toList = false) : r.isListed (some asked) = true := by
  simp [NamedRange.isListed, hworksheet, hasked]

/-- **The ranges listed for a scope are those declared in it** exactly where no other range starts
with its name, and none of its own is hidden. -/
theorem namedRanges_exact_iff (h : w.HasPlainRanges) (scope : Option String) :
    Catalog.namedRanges w.tableNames scope = w.declaredNames scope ↔
      ∀ r ∈ w.ranges, r.isListed scope = (r.worksheet == scope) := by
  rw [h.namedRanges_tableNames, declaredNames]
  constructor
  · intro hnames
    cases scope with
    | none => exact fun r _ => r.isListed_none
    | some asked =>
        have hlength := congrArg List.length hnames
        rw [List.length_map, List.length_map] at hlength
        -- one of the two lists is part of the other
        by_cases hasked : isBuiltin asked.toList = true
        · refine agree_of_length_filter ?_ hlength
          intro r hr hlisted
          rw [h.isListed_of_isBuiltin hr hasked] at hlisted
          cases hlisted
        · intro r hr
          refine (agree_of_length_filter ?_ hlength.symm r hr).symm
          intro r _ hown
          exact isListed_self (beq_iff_eq.mp hown) (Bool.eq_false_iff.mpr hasked)
  · intro hscopes
    exact congrArg _ (List.filter_congr hscopes)

end HasPlainRanges

end Workbook

end SheetQuery
