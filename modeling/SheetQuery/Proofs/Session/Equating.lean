import SheetQuery.Proofs.Session.Searching
import SheetQuery.Proofs.Value.Spelling

/-!
# Finding a value by its text

A test whether a column equals a constant goes out with the text that the constant is shown with,
and behind the connection this text is compared with the cells, which are values. So the test finds
a cell that holds the constant where a value meets its own text. As a selector it compares the two
texts and is true of every such cell.

Main statement: `Query.fetch_equal`. What is not found is in `fetch_equal_missed`.
-/

namespace SheetQuery

open Sql

variable {mapper : Mapper} {shape : ItemShape}

/-- An access to a column is a selector. -/
theorem Expr.Names.checkSelector {access : Expr} {column : String}
    (h : access.Names mapper shape column) : access.checkSelector = .ok () := by
  induction h with
  | convert kind h ih => exact ih
  | _ => rfl

/-- **A test on equality as a selector** is true of the items that have the constant there. -/
theorem Expr.Names.exists_projector {access : Expr} {column : String}
    (h : access.Names mapper shape column) {v : Value} (hv : v.isNull = false) :
    ∃ projector, Projector.ofExpr (.test .equals access (some (.literal v))) = .ok projector ∧
      ∀ item, access.evaluate (.main item) = .ok v → projector.applyTo item = .ok (.bool true) := by
  have hcheck : (Expr.test .equals access (some (.literal v))).checkSelector = .ok () := by
    simp [Expr.checkSelector, h.checkSelector]
  refine ⟨_, Projector.ofExpr_eq hcheck, fun item hitem => ?_⟩
  show (Expr.test .equals access (some (.literal v))).evaluate (.main item) = _
  simp [Expr.evaluate, hitem, Value.passes, hv]

/-- **A test on equality finds the cells that hold the constant**, as far as a value meets the text
it is shown with: any text, any number with or without a point, and a moment on the second. A query
for the rows of a table, filtered by the test, gets of the rows with the constant in the column
those, and no other; the selector is true of an item wherever it has the constant in the column. -/
theorem Query.fetch_equal {s : Session} {root : TableIdentity} {type : ItemType} {q : Query}
    (hq : s.query root type = .ok q) {line : Line Engine}
    (hpending : line.backend.pendingFailure = none) {table : Table} {name : String} {t : ResultSet}
    (hreads : q.source.Reads line.backend.workbook table name t) {access : Expr} {column : String}
    (haccess : access.Names q.source.mapper type.shape column) (hcolumn : column ∈ t.columns)
    (hbracketable : IsBracketable column) {v : Value} (hscalar : v.isScalar = true)
    (hnumber : ∀ x, v = .float x → x.isNaN = false) :
    ∃ found : List Value → Bool,
      ((q.filtered [.test .equals access (some (.literal v))]).fetch line).1 =
        .ok ⟨table, t.columns, t.rows.filter found⟩ ∧
      (∀ row, cell t.columns row column = v → (found row = true ↔ v.IsRecognized)) ∧
      ∃ projector, Projector.ofExpr (.test .equals access (some (.literal v))) = .ok projector ∧
        ∀ item, access.evaluate (.main item) = .ok v →
          projector.applyTo item = .ok (.bool true) := by
  obtain ⟨rfl, hmodel, -, -⟩ := Session.query_eq hq
  have hasks : Expr.Asks q.source.mapper q.type.shape (.test .equals access (some (.literal v)))
      (.compare (.column column) .eq (.literal (.text v.display))) := .equals haccess .literal
  refine ⟨_, fetch_filtered hmodel hpending hreads hasks ?_, fun row hrow => ?_,
    haccess.exists_projector (Value.isNull_of_isScalar hscalar)⟩
  · intro other hother
    obtain rfl : other = column := List.mem_singleton.mp hother
    exact ⟨hcolumn, hbracketable⟩
  · show Value.satisfies .eq (cell t.columns row column) (.text v.display) = true ↔ _
    rw [hrow]
    exact Value.satisfies_display_iff hscalar hnumber

/-- Half a second past a whole one. -/
def joined : Calendar.DateTime :=
  ⟨⟨2024, 1, 2, by decide⟩, ⟨3, 4, 5, 500000000, by decide⟩⟩

/-- A worksheet with a truth value, a moment between two seconds and a number with a point. -/
def members : Line Engine :=
  .ofBackend (.ofWorkbook (Workbook.empty.addSheet "Members" ["Active", "Since", "Points"]
    [[.bool true, .dateTime joined, .float 0.1]]))

/-- All rows of the worksheet. -/
def allMembers : Query :=
  ⟨⟨"members.xls", .worksheet (some (.named "Members")), true, .empty, .standard⟩, .row, .all .row⟩

theorem reads_members : allMembers.source.Reads members.backend.workbook
    ⟨some "Members", none, none⟩ "Members$"
    ⟨["Active", "Since", "Points"], [[.bool true, .dateTime joined, .float 0.1]]⟩ :=
  ⟨rfl, rfl, by decide, rfl⟩

/-- The members with a value in a column. -/
def membersWith (column : String) (v : Value) : Query :=
  allMembers.filtered [.test .equals (.ofColumn (.named column)) (some (.literal v))]

theorem fetch_equal_members : ∃ rows, ((membersWith "Points" (.float 0.1)).fetch members).1 =
      .ok ⟨⟨some "Members", none, none⟩, ["Active", "Since", "Points"], rows⟩ ∧
    [.bool true, .dateTime joined, .float 0.1] ∈ rows := by
  have hquery : Session.query ⟨some "members.xls", .empty, .standard⟩
      (.worksheet (some (.named "Members"))) .row = .ok allMembers := rfl
  have hnumber : ∀ x, Value.float 0.1 = .float x → x.isNaN = false := by
    rintro x ⟨⟩
    rfl
  obtain ⟨found, hfetch, hfound, -⟩ := Query.fetch_equal hquery rfl reads_members
    (.named "Points" nofun) (by decide) (by decide) (v := .float 0.1) rfl hnumber
  have hrow := (hfound [.bool true, .dateTime joined, .float 0.1] rfl).mpr trivial
  exact ⟨_, hfetch, List.mem_filter.mpr ⟨List.mem_singleton_self _, hrow⟩⟩

/-- A truth value and a moment between two seconds are not found by the test, though as a selector
it is true of the one row. -/
theorem fetch_equal_missed :
    (((membersWith "Active" (.bool true)).fetch members).1 =
        .ok ⟨⟨some "Members", none, none⟩, ["Active", "Since", "Points"], []⟩ ∧
      (Expr.test .equals (.ofColumn (.named "Active")) (some (.literal (.bool true)))).evaluate
        (.main (.row ⟨["Active", "Since", "Points"],
          [.bool true, .dateTime joined, .float 0.1]⟩)) = .ok (.bool true)) ∧
    (((membersWith "Since" (.dateTime joined)).fetch members).1 =
        .ok ⟨⟨some "Members", none, none⟩, ["Active", "Since", "Points"], []⟩ ∧
      (Expr.test .equals (.ofColumn (.named "Since")) (some (.literal (.dateTime joined)))).evaluate
        (.main (.row ⟨["Active", "Since", "Points"],
          [.bool true, .dateTime joined, .float 0.1]⟩)) = .ok (.bool true)) := by
  have hasks (column : String) (v : Value) : Expr.Asks .empty .row
      (.test .equals (.ofColumn (.named column)) (some (.literal v)))
      (.compare (.column column) .eq (.literal (.text v.display))) :=
    .equals (.named column nofun) .literal
  have hactive := Query.fetch_filtered rfl rfl reads_members (hasks "Active" (.bool true))
    (by decide)
  have hsince := Query.fetch_filtered rfl rfl reads_members (hasks "Since" (.dateTime joined))
    (by decide)
  exact ⟨⟨hactive, rfl⟩, ⟨hsince, rfl⟩⟩

end SheetQuery
