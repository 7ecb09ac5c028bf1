import SheetQuery.Proofs.Materialize.Casting

/-!
# Reading a cell for a selector

Different values are read from cells and other values from items, so there are two ways from a cell
to the value of a selector. For a record both go through the field that is selected, for a generic
item both trim the cell. They meet wherever the selector takes the item to the column that the
source looks at, which a member of a row with a header does only if it is read from the column of
its name.

Main statement: `Materializer.reads_of_evaluate`.
-/

namespace SheetQuery

open Sql

theorem forall₂_comp_iff {α β γ : Type} {R : α → β → Prop} {S : β → γ → Prop} {xs : List α}
    {zs : List γ} : (∃ ys, List.Forall₂ R xs ys ∧ List.Forall₂ S ys zs) ↔
      List.Forall₂ (fun x z => ∃ y, R x y ∧ S y z) xs zs := by
  constructor
  · rintro ⟨ys, hxy, hyz⟩
    induction hxy generalizing zs with
    | nil =>
        cases hyz
        exact .nil
    | cons hx hrest ih =>
        cases hyz with
        | cons hz hzs => exact .cons ⟨_, hx, hz⟩ (ih hzs)
  · intro h
    induction h with
    | nil => exact ⟨[], .nil, .nil⟩
    | cons hxz hrest ih =>
        obtain ⟨y, hx, hz⟩ := hxz
        obtain ⟨ys, hxs, hzs⟩ := ih
        exact ⟨y :: ys, .cons hx hxs, .cons hz hzs⟩

theorem exists_of_mem_right {α β : Type} {R : α → β → Prop} {xs : List α} {ys : List β}
    (h : List.Forall₂ R xs ys) {y : β} (hy : y ∈ ys) : ∃ x ∈ xs, R x y := by
  induction h with
  | nil => cases hy
  | @cons x z xs zs hxz hrest ih =>
      rcases List.mem_cons.mp hy with rfl | hy
      · exact ⟨x, List.mem_cons_self, hxz⟩
      · obtain ⟨x', hx', hread⟩ := ih hy
        exact ⟨x', List.mem_cons_of_mem x hx', hread⟩

theorem exists_of_mem_left {α β : Type} {R : α → β → Prop} {xs : List α} {ys : List β}
    (h : List.Forall₂ R xs ys) {x : α} (hx : x ∈ xs) : ∃ y ∈ ys, R x y :=
  exists_of_mem_right h.flip hx

/-- Two runs over a list, one on the results of the other, are one run with two steps. -/
theorem mapM_bind_mapM_ok_iff {ε α β γ : Type} {f : α → Except ε β} {g : β → Except ε γ}
    {xs : List α} {zs : List γ} :
    (xs.mapM f >>= fun ys => ys.mapM g) = .ok zs ↔
      List.Forall₂ (fun x z => ∃ y, f x = .ok y ∧ g y = .ok z) xs zs := by
  rw [bind_eq_ok_iff, ← forall₂_comp_iff]
  simp only [mapM_eq_ok_iff]

/-- The selector takes an item to a column without a conversion, and a row with a header by the name
that the column has there. -/
structure Expr.Addresses (mapper : Mapper) (type : ItemType) (selector : Expr) (column : String) :
    Prop where
  names : selector.Names mapper type.shape column
  unconverted : selector.unwrapped = selector
  unmapped : ∀ name, type = .row → selector = .member mainSource name → mapper.map name = name

theorem Projector.selector_of_ofExpr {e : Expr} {projector : Projector}
    (h : ofExpr e = .ok projector) : projector.selector = e := by
  unfold ofExpr at h
  split at h
  · cases h
    rfl
  · cases h

/-! ## Records with one field filled -/

/-- A record in which one field has been filled answers for that field with what is in it. -/
theorem Record.get?_replace_zero {t : RecordType} (ht : t.check = .ok ()) {f : Field}
    (hf : f ∈ t.fields) (v : Value) : ((zero t).replace f.name v).get? f.name = some v := by
  refine get?_of_mem_zip ht ?_
  have hvalues : ((zero t).replace f.name v).values =
      t.fields.map fun g => if g.name == f.name then v else g.type.zero := by
    simp only [replace, zero, ← List.map_prod_left_eq_zip, List.map_map]
    rfl
  rw [hvalues]
  show (f, v) ∈ t.fields.zip _
  rw [← List.map_prod_left_eq_zip]
  exact List.mem_map.mpr ⟨f, hf, by simp⟩

/-- What a record answers for a name stands in the place of the field of that name. -/
theorem Record.exists_of_get? {r : Record} (ht : r.type.check = .ok ()) {name : String} {v : Value}
    (h : r.get? name = some v) :
    ∃ f, r.type.field? name = some f ∧ f.name = name ∧ (f, v) ∈ r.type.fields.zip r.values := by
  obtain ⟨⟨f, u⟩, hfind, rfl⟩ := Option.map_eq_some_iff.mp h
  have hmem := List.mem_of_find?_eq_some hfind
  have hname : f.name = name := by simpa using List.find?_some hfind
  subst hname
  exact ⟨f, find?_of_mem (RecordType.nodup_of_check ht) (List.of_mem_zip hmem).1, rfl, hmem⟩

namespace Materializer

variable {m : Materializer} {type : ItemType} {selector : Expr} {raw value : Value}

/-- What a cell is read as on its own, where the selector asks for different values. -/
def Reads (m : Materializer) (type : ItemType) (selector : Expr) (raw value : Value) : Prop :=
  m.distinctValues type selector [[raw]] = .ok [value]

theorem Reads.unique {value' : Value} (h : m.Reads type selector raw value)
    (h' : m.Reads type selector raw value') : value = value' :=
  (List.cons.inj (Except.ok.inj (h.symm.trans h'))).1

theorem distinctValues_member_ok_iff {t : RecordType} {source : Nat} {name : String}
    (hselector : selector.unwrapped = .member source name) {rows : List (List Value)}
    {values : List Value} :
    m.distinctValues (.record t) selector rows = .ok values ↔ ∃ projector f,
      Projector.ofExpr selector = .ok projector ∧ t.check = .ok () ∧ t.field? name = some f ∧
        List.Forall₂ (fun raw value => ∃ r, ((m.fieldValue f raw).map fun v =>
          (Record.zero t).replace f.name v) = .ok r ∧ projector.applyTo (.record r) = .ok value)
          (rows.filterMap List.head?) values := by
  simp only [distinctValues, hselector, fieldRecords]
  constructor
  · intro h
    obtain ⟨projector, hprojector, h⟩ := bind_eq_ok_iff.mp h
    obtain ⟨records, hrecords, hvalues⟩ := bind_eq_ok_iff.mp h
    obtain ⟨u, hcheck, hrecords⟩ := bind_eq_ok_iff.mp hrecords
    split at hrecords
    · cases hrecords
    · next f hf =>
        exact ⟨projector, f, hprojector, hcheck, hf,
          mapM_bind_mapM_ok_iff.mp (bind_eq_ok_iff.mpr ⟨records, hrecords, hvalues⟩)⟩
  · rintro ⟨projector, f, hprojector, hcheck, hf, hcells⟩
    obtain ⟨records, hrecords, hvalues⟩ := bind_eq_ok_iff.mp (mapM_bind_mapM_ok_iff.mpr hcells)
    refine bind_eq_ok_iff.mpr ⟨projector, hprojector, bind_eq_ok_iff.mpr ⟨records, ?_, hvalues⟩⟩
    refine bind_eq_ok_iff.mpr ⟨(), hcheck, ?_⟩
    simp only [hf]
    exact hrecords

/-- A member of a record is read through its field, and a cell of any other kind is trimmed. -/
theorem distinctValues_cases (m : Materializer) (type : ItemType) (selector : Expr) :
    (∃ t source name, type = .record t ∧ selector.unwrapped = .member source name) ∨
      ∀ rows, m.distinctValues type selector rows = .ok (m.columnValues rows) := by
  cases type with
  | record t =>
      cases hselector : selector.unwrapped with
      | member source name => exact Or.inl ⟨t, source, name, rfl, rfl⟩
      | _ => exact Or.inr fun rows => by simp only [distinctValues, hselector]
  | row => exact Or.inr fun rows => by simp only [distinctValues]
  | headerless => exact Or.inr fun rows => by simp only [distinctValues]

/-- Values are read cell by cell, from the first cell of each row that has one. -/
theorem reads_of_distinctValues {rows : List (List Value)} {values : List Value}
    (h : m.distinctValues type selector rows = .ok values) :
    List.Forall₂ (m.Reads type selector) (rows.filterMap List.head?) values := by
  rcases m.distinctValues_cases type selector with ⟨t, source, name, rfl, hselector⟩ | hcells
  · obtain ⟨projector, f, hprojector, hcheck, hf, hvalues⟩ :=
      (distinctValues_member_ok_iff hselector).mp h
    refine hvalues.imp fun raw value hvalue => ?_
    exact (distinctValues_member_ok_iff hselector).mpr
      ⟨projector, f, hprojector, hcheck, hf, .cons hvalue .nil⟩
  · rw [hcells] at h
    rw [← Except.ok.inj h, columnValues, List.forall₂_map_right_iff, List.forall₂_same]
    exact fun raw _ => hcells [[raw]]

theorem length_of_distinctValues {rows : List (List Value)} {values : List Value}
    (h : m.distinctValues type selector rows = .ok values) :
    values.length = (rows.filterMap List.head?).length :=
  (reads_of_distinctValues h).length_eq.symm

/-- A cell of a generic item is trimmed. -/
theorem reads_generic_iff (htype : ∀ t, type ≠ .record t) :
    m.Reads type selector raw value ↔ value = m.trimmed raw := by
  rcases m.distinctValues_cases type selector with ⟨t, source, name, hrecord, -⟩ | hcells
  · exact absurd hrecord (htype t)
  · have hcell : m.distinctValues type selector [[raw]] = .ok [m.trimmed raw] := hcells [[raw]]
    rw [Reads, hcell, Except.ok.injEq, List.cons.injEq]
    exact ⟨fun h => h.1.symm, fun h => ⟨h.symm, rfl⟩⟩

/-- A cell is read for a member of a record as the field takes it. -/
theorem reads_member {t : RecordType} (ht : t.check = .ok ()) {f : Field}
    (hf : t.field? f.name = some f) (h : m.fieldValue f raw = .ok value) :
    m.Reads (.record t) (.member mainSource f.name) raw value := by
  refine (distinctValues_member_ok_iff rfl).mpr
    ⟨⟨.member mainSource f.name, rfl⟩, f, rfl, ht, hf,
      .cons ⟨_, map_eq_ok_iff.mpr ⟨_, h, rfl⟩, ?_⟩ .nil⟩
  have hget := Record.get?_replace_zero ht (List.mem_of_find?_eq_some hf) value
  show Item.member (.record ((Record.zero t).replace f.name value)) f.name = .ok value
  have hcheck : ((Record.zero t).replace f.name value).type.check = .ok () := ht
  simp only [Item.member, hcheck, hget, ok_bind]

/-! ## From items -/

/-- Items are made row by row. -/
theorem forall₂_of_items {columns : List String} {rows : List (List Value)} {found : List Item}
    (h : m.items type columns rows = .ok found) :
    List.Forall₂ (fun row item => m.items type columns [row] = .ok [item]) rows found := by
  cases type with
  | row =>
      obtain ⟨made, hmade, rfl⟩ := map_eq_ok_iff.mp h
      obtain ⟨u, hu, rfl⟩ := map_eq_ok_iff.mp hmade
      rw [List.map_map, List.forall₂_map_right_iff, List.forall₂_same]
      exact fun row _ => map_eq_ok_iff.mpr ⟨_, map_eq_ok_iff.mpr ⟨u, hu, rfl⟩, rfl⟩
  | headerless =>
      cases h
      rw [List.forall₂_map_right_iff, List.forall₂_same]
      exact fun row _ => rfl
  | record t =>
      obtain ⟨made, hmade, rfl⟩ := map_eq_ok_iff.mp h
      obtain ⟨u, hu, hrecords⟩ := bind_eq_ok_iff.mp hmade
      rw [List.forall₂_map_right_iff]
      refine (mapM_eq_ok_iff.mp hrecords).imp fun row r hr => map_eq_ok_iff.mpr ⟨[r], ?_, rfl⟩
      exact bind_eq_ok_iff.mpr ⟨u, hu, mapM_eq_ok_iff.mpr (.cons hr .nil)⟩

theorem items_of_materialize {columns : List String} {rows : List (List Value)} {found : List Item}
    (h : m.materialize type columns rows = .ok (.items found)) :
    m.items type columns rows = .ok found := by
  by_cases halone : columns = [m.scalarColumn]
  · rw [materialize_alone halone] at h
    cases h
  · rw [materialize_not_alone halone] at h
    obtain ⟨items, hitems, heq⟩ := map_eq_ok_iff.mp h
    cases heq
    exact hitems

theorem length_of_materialize {columns : List String} {rows : List (List Value)} {found : List Item}
    (h : m.materialize type columns rows = .ok (.items found)) : found.length = rows.length :=
  (forall₂_of_items (items_of_materialize h)).length_eq.symm

section OneRow

variable {columns : List String} {row : List Value} {item : Item}

theorem eq_of_items_row (h : m.items .row columns [row] = .ok [item]) :
    item = .row (m.rowWithHeader columns row) := by
  obtain ⟨made, hmade, heq⟩ := map_eq_ok_iff.mp h
  obtain ⟨u, -, rfl⟩ := map_eq_ok_iff.mp hmade
  exact (List.cons.inj heq).1.symm

theorem exists_of_items_record {t : RecordType}
    (h : m.items (.record t) columns [row] = .ok [item]) :
    ∃ r, t.check = .ok () ∧ m.record t columns row = .ok r ∧ item = .record r := by
  obtain ⟨made, hmade, heq⟩ := map_eq_ok_iff.mp h
  obtain ⟨u, hu, hrecords⟩ := bind_eq_ok_iff.mp hmade
  obtain ⟨u', hcheck, -⟩ := bind_eq_ok_iff.mp hu
  have hmade := mapM_eq_ok_iff.mp hrecords
  cases hmade with
  | @cons _ r _ _ hr hnone =>
      cases hnone
      exact ⟨r, hcheck, hr, (List.cons.inj heq).1.symm⟩

/-- A row with a header answers for a column with the trimmed cell. -/
theorem eq_of_get (hlength : row.length = columns.length) {name : String} (hname : name ∈ columns)
    {value : Value} (h : (m.rowWithHeader columns row).get name = .ok value) :
    value = m.trimmed (cell columns row name) :=
  Except.ok.inj (h.symm.trans (rowWithHeader_get hlength hname))

/-- A row without a header answers for a position with the trimmed cell. -/
theorem eq_of_cellAt {n index : Nat} (hname : positionName index ∈ Grid.positionNames n)
    {value : Value} (h : Item.cellAt (row.map m.trimmed) index = .ok value) :
    value = m.trimmed (cell (Grid.positionNames n) row (positionName index)) := by
  obtain ⟨i, hi, heq⟩ := Grid.mem_positionNames.mp hname
  obtain rfl := positionName_injective heq
  rw [cell, Grid.findIdx?_positionNames hi, Option.bind_some]
  unfold Item.cellAt at h
  rw [List.getElem?_map] at h
  cases hcell : row[i]? with
  | none =>
      rw [hcell] at h
      cases h
  | some v =>
      rw [hcell] at h
      cases h
      rfl

/-- A record answers for a member with what its field takes from the cell. -/
theorem reads_of_record {t : RecordType} {r : Record} {name : String} {value : Value}
    (ht : t.check = .ok ()) (hr : m.record t columns row = .ok r)
    (hlength : row.length = columns.length) (hcolumn : m.mapper.map name ∈ columns)
    (h : r.get? name = some value) :
    m.Reads (.record t) (.member mainSource name) (cell columns row (m.mapper.map name)) value := by
  obtain ⟨rfl, hvalues⟩ := record_ok_iff.mp hr
  obtain ⟨f, hf, rfl, hplace⟩ := Record.exists_of_get? ht h
  have hfield := (List.forall₂_iff_zip.mp hvalues).2 hplace
  rw [fieldInRow_eq hlength hcolumn] at hfield
  exact reads_member ht hf hfield

/-- **The item is read for a column as the cell of its row is.** By cases on how the selector names
the column, and on what the item is. -/
theorem reads_of_evaluate {column : String} (hselector : selector.Addresses m.mapper type column)
    (hcolumn : column ∈ columns)
    (hpositions : type = .headerless → ∃ n, columns = Grid.positionNames n)
    (hlength : row.length = columns.length) (hitem : m.items type columns [row] = .ok [item])
    (hvalue : selector.evaluate (Bindings.main item) = .ok value) :
    m.Reads type selector (cell columns row column) value := by
  obtain ⟨hnames, hplain, hmember⟩ := hselector
  cases hnames with
  | member name =>
      have hget : item.member name = .ok value := hvalue
      cases type with
      | row =>
          rw [eq_of_items_row hitem] at hget
          rw [hmember name rfl rfl] at hcolumn ⊢
          exact (reads_generic_iff (by simp)).mpr (eq_of_get hlength hcolumn hget)
      | headerless =>
          cases hitem
          cases hget
      | record t =>
          obtain ⟨r, ht, hr, rfl⟩ := exists_of_items_record hitem
          refine reads_of_record ht hr hlength hcolumn ?_
          obtain ⟨u, -, hget⟩ := bind_eq_ok_iff.mp hget
          split at hget
          · next v hv =>
              cases hget
              exact hv
          · cases hget
  | named name hshape =>
      have hget : item.column (.named column) = .ok value := hvalue
      cases type with
      | row =>
          rw [eq_of_items_row hitem] at hget
          exact (reads_generic_iff (by simp)).mpr (eq_of_get hlength hcolumn hget)
      | headerless => exact absurd rfl hshape
      | record t =>
          obtain ⟨r, -, -, rfl⟩ := exists_of_items_record hitem
          cases hget
  | positioned index hshape =>
      have hget : item.column (.positioned index) = .ok value := hvalue
      cases type with
      | row => cases hshape
      | headerless =>
          cases hitem
          obtain ⟨n, rfl⟩ := hpositions rfl
          exact (reads_generic_iff (by simp)).mpr (eq_of_cellAt hcolumn hget)
      | record t => cases hshape
  | convert kind h =>
      -- a conversion would have been unwrapped
      have haccess := (Expr.Names.convert kind h).isColumnAccess
      rw [Expr.isColumnAccess, hplain] at haccess
      cases haccess

end OneRow

end Materializer

end SheetQuery
