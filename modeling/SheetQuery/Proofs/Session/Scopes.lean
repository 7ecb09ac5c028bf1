import SheetQuery.Proofs.Session.Connecting
import SheetQuery.Proofs.Workbook.Scopes

/-!
# Listings of named ranges

A session lists the named ranges of the workbook or of a worksheet. Those of the workbook are exactly
the ranges that are declared for it; those of a worksheet are found by how their raw names start, so
they are exactly its own where no other range starts with its name, and else there are more.

Main statement: `Session.namedRanges_listed`.
-/

namespace SheetQuery

namespace Session

variable {s : Session} {file : String}

theorem namedRanges_result (hfile : s.file = some file) (scope : Option String)
    (line : Line Engine) : (s.namedRanges scope line).1 =
      .ok (Catalog.namedRanges line.backend.workbook.tableNames scope) :=
  look_result hfile (fun spec => Action.isBlind_namedRanges spec scope) line

/-- **The ranges that are listed.** For the workbook they are those declared for it. For a worksheet
they are those whose worksheet and name, with the dollar sign between them, start with its name; and
they are those declared for it if and only if that test tells them from all others. In both listings
they stand in the order of their declarations. -/
theorem namedRanges_listed (hfile : s.file = some file) {line : Line Engine} {w : Workbook}
    (hline : line.backend.workbook = w) (h : w.HasPlainRanges) :
    (s.namedRanges none line).1 = .ok (w.declaredNames none) ∧ ∀ worksheet,
      (s.namedRanges (some worksheet) line).1 =
          .ok ((w.ranges.filter (·.isListed (some worksheet))).map NamedRange.name) ∧
        ((s.namedRanges (some worksheet) line).1 = .ok (w.declaredNames (some worksheet)) ↔
          ∀ r ∈ w.ranges, r.isListed (some worksheet) = (r.worksheet == some worksheet)) := by
  subst hline
  constructor
  · rw [namedRanges_result hfile, (h.namedRanges_exact_iff none).mpr]
    intro r _
    exact r.isListed_none
  · intro worksheet
    rw [namedRanges_result hfile, Except.ok.injEq, Except.ok.injEq]
    exact ⟨h.namedRanges_tableNames _, h.namedRanges_exact_iff _⟩

/-- A shop with two numbered worksheets, of which the tenth has totals of its own. -/
def shopWorkbook : Workbook :=
  ⟨[⟨"Sheet1", [[.int 1]]⟩, ⟨"Sheet10", [[.int 1]]⟩],
    [⟨some "Sheet10", "Totals", ⟨0, 0⟩, ⟨0, 0⟩⟩, ⟨none, "Regions", ⟨0, 0⟩, ⟨0, 0⟩⟩]⟩

/-- A line to the shop. -/
def shopDesk : Line Engine :=
  .ofBackend (.ofWorkbook shopWorkbook)

theorem hasPlainRanges_shop : shopWorkbook.HasPlainRanges :=
  ⟨by decide, by decide, by decide, by decide, by decide⟩

/-- The totals are listed for the tenth worksheet and for the first. -/
theorem namedRanges_listed_shop :
    shopWorkbook.HasPlainRanges ∧
      ((new (some "shop.xls")).namedRanges none shopDesk).1 = .ok ["Regions"] ∧
      ((new (some "shop.xls")).namedRanges (some "Sheet10") shopDesk).1 = .ok ["Totals"] ∧
      ((new (some "shop.xls")).namedRanges (some "Sheet1") shopDesk).1 = .ok ["Totals"] := by
  have hfile : (new (some "shop.xls")).file = some "shop.xls" := rfl
  have hline : shopDesk.backend.workbook = shopWorkbook := rfl
  obtain ⟨hown, hlisted⟩ := namedRanges_listed hfile hline hasPlainRanges_shop
  exact ⟨hasPlainRanges_shop, hown, (hlisted "Sheet10").2.mpr (by decide), (hlisted "Sheet1").1⟩

/-- **The ranges listed for a worksheet are not always its own**: the totals of the tenth worksheet
are listed for the first. -/
theorem namedRanges_foreign :
    ¬ ∀ (w : Workbook) (s : Session) (file : String) (line : Line Engine) (worksheet : String),
      (∀ sheet ∈ w.sheets, '$' ∉ sheet.name.toList ∧ '\'' ∉ sheet.name.toList ∧
        Catalog.isBuiltin sheet.name.toList = false) →
      (∀ range ∈ w.ranges, ∀ scope, range.worksheet = some scope → '$' ∉ scope.toList) →
      w.HasPlainRanges → s.file = some file → line.backend.workbook = w →
      (s.namedRanges (some worksheet) line).1 = .ok (w.declaredNames (some worksheet)) := by
  intro h
  have hnone := h shopWorkbook (new (some "shop.xls")) "shop.xls" shopDesk "Sheet1" (by decide)
    (by decide) hasPlainRanges_shop rfl rfl
  rw [namedRanges_result rfl, Except.ok.injEq] at hnone
  exact absurd hnone (by decide)

end Session

end SheetQuery
