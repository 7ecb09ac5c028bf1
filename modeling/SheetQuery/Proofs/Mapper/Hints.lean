import SheetQuery.Proofs.Mapper.Owners
import SheetQuery.Proofs.Materialize.Fields
import SheetQuery.Statement

/-!
# Hints as registrations

A hint is tested against a mapper that the hints before it have already changed. Still the outcome
can be told from the mapper before all of them, because no two hints of a checked record type have
the same field or the same column: a hint is taken exactly when its property and its column are free
from the start, for no other hint can take either away. So their order does not matter, and a second
merge finds nothing to do. Where all hints are free, merging and registering them are the same
steps.

Main statement: `Mapper.mergeHints_registers`.
-/

namespace SheetQuery

/-! ## Dictionaries -/

namespace Dictionary

variable {α : Type} {d d' : Dictionary α}

theorem IsSorted.nodup (h : d.IsSorted) : d.Nodup := by
  refine List.Pairwise.imp ?_ h
  rintro a _ hlt rfl
  exact String.lt_irrefl a.1 hlt

/-- **What is found under each key decides a dictionary**, since its entries have one order. -/
theorem IsSorted.ext (h : d.IsSorted) (h' : d'.IsSorted)
    (hget : ∀ key, d.get? key = d'.get? key) : d = d' := by
  have hperm : d.Perm d' := by
    rw [List.perm_ext_iff_of_nodup h.nodup h'.nodup]
    rintro ⟨key, value⟩
    rw [h.mem_iff, h'.mem_iff, hget]
  refine hperm.eq_of_pairwise ?_ h h'
  exact fun a b _ _ hab hba => absurd (String.lt_trans hab hba) (String.lt_irrefl _)

end Dictionary

namespace Mapper

variable {m m' : Mapper} {property column : String} {hint : String × String}
  {hints : List (String × String)}

/-! ## One hint -/

/-- Neither the property nor the column has a mapping. -/
structure IsFree (m : Mapper) (hint : String × String) : Prop where
  property : m.target? hint.1 = none
  column : ∀ q, m.target? q ≠ some hint.2

/-- The mapper with a property mapped to a column, whatever was there. -/
def withTarget (m : Mapper) (hint : String × String) : Mapper :=
  { m with columns := m.columns.insert hint.1 hint.2 }

theorem IsOneToOne.isFree_iff (h : m.IsOneToOne) :
    m.IsFree hint ↔ (m.isMapped hint.1 || m.isColumnMapped hint.2) = false := by
  rw [Bool.or_eq_false_iff, isMapped, Dictionary.has, isColumnMapped, Option.isSome_eq_false_iff,
    Option.isSome_eq_false_iff, Option.isNone_iff_eq_none, Option.isNone_iff_eq_none,
    h.owner?_eq_none_iff]
  exact ⟨fun hfree => ⟨hfree.property, hfree.column⟩, fun hfree => ⟨hfree.1, hfree.2⟩⟩

theorem IsFree.mergeHint_eq (hfree : m.IsFree hint) (h : m.IsOneToOne) :
    m.mergeHint hint = m.withTarget hint := by
  rw [mergeHint, h.isFree_iff.mp hfree, if_neg Bool.false_ne_true]
  rfl

theorem IsFree.register_eq (hfree : m.IsFree hint) (h : m.IsOneToOne) :
    m.register hint.1 hint.2 = .ok (m.withTarget hint) :=
  h.register_ok_iff.mpr ⟨fun q hq => absurd hq (hfree.column q), rfl⟩

theorem mergeHint_of_not_isFree (hfree : ¬m.IsFree hint) (h : m.IsOneToOne) :
    m.mergeHint hint = m := by
  rw [h.isFree_iff, Bool.not_eq_false] at hfree
  rw [mergeHint, if_pos hfree]

theorem target?_withTarget (m : Mapper) (hint : String × String) (other : String) :
    (m.withTarget hint).target? other = if other = hint.1 then some hint.2 else m.target? other :=
  m.target?_insert hint.1 hint.2 other

/-- A hint that shares nothing with another one is free after that is taken as it was before. -/
theorem IsFree.withTarget_iff {other : String × String} (hfree : m.IsFree hint)
    (hproperty : other.1 ≠ hint.1) (hcolumn : other.2 ≠ hint.2) :
    (m.withTarget hint).IsFree other ↔ m.IsFree other := by
  constructor
  · rintro ⟨hnone, hnobody⟩
    rw [target?_withTarget, if_neg hproperty] at hnone
    refine ⟨hnone, fun q hq => hnobody q ?_⟩
    rw [target?_withTarget, if_neg]
    · exact hq
    · -- the property of the hint has no column before
      rintro rfl
      cases hfree.property.symm.trans hq
  · rintro ⟨hnone, hnobody⟩
    refine ⟨?_, fun q hq => ?_⟩
    · rw [target?_withTarget, if_neg hproperty, hnone]
    · rw [target?_withTarget] at hq
      split_ifs at hq with heq
      · exact hcolumn (Option.some.inj hq).symm
      · exact hnobody q hq

/-! ## All hints -/

/-- No two pairs have the same property or the same column. -/
structure AreApart (hints : List (String × String)) : Prop where
  properties : (hints.map Prod.fst).Nodup
  columns : (hints.map Prod.snd).Nodup

theorem AreApart.of_perm {hints' : List (String × String)} (h : AreApart hints)
    (hperm : hints'.Perm hints) : AreApart hints' :=
  ⟨(hperm.map _).nodup_iff.mpr h.properties, (hperm.map _).nodup_iff.mpr h.columns⟩

theorem areApart_cons_iff : AreApart (hint :: hints) ↔
    (∀ other ∈ hints, other.1 ≠ hint.1 ∧ other.2 ≠ hint.2) ∧ AreApart hints := by
  constructor
  · rintro ⟨hproperties, hcolumns⟩
    rw [List.map_cons, List.nodup_cons] at hproperties hcolumns
    refine ⟨fun other hother => ⟨fun heq => ?_, fun heq => ?_⟩, hproperties.2, hcolumns.2⟩
    · exact hproperties.1 (heq ▸ List.mem_map_of_mem hother)
    · exact hcolumns.1 (heq ▸ List.mem_map_of_mem hother)
  · rintro ⟨hothers, hproperties, hcolumns⟩
    refine ⟨?_, ?_⟩
    · rw [List.map_cons, List.nodup_cons]
      refine ⟨fun hmem => ?_, hproperties⟩
      obtain ⟨other, hother, heq⟩ := List.mem_map.mp hmem
      exact (hothers other hother).1 heq
    · rw [List.map_cons, List.nodup_cons]
      refine ⟨fun hmem => ?_, hcolumns⟩
      obtain ⟨other, hother, heq⟩ := List.mem_map.mp hmem
      exact (hothers other hother).2 heq

end Mapper

/-- The hints of a checked record type are apart: a field is declared once, and so is a column. -/
theorem RecordType.areApart_hints {t : RecordType} (h : t.check = .ok ()) :
    Mapper.AreApart t.hints := by
  have hfields := apart_of_check h
  constructor
  · rw [List.Nodup, List.pairwise_map, hints, List.pairwise_filterMap]
    refine hfields.imp fun {f g} hapart a ha b hb => ?_
    obtain ⟨c, -, rfl⟩ := Option.map_eq_some_iff.mp ha
    obtain ⟨d, -, rfl⟩ := Option.map_eq_some_iff.mp hb
    exact hapart.1
  · rw [List.Nodup, List.pairwise_map, hints, List.pairwise_filterMap]
    refine hfields.imp fun {f g} hapart a ha b hb => ?_
    obtain ⟨c, hc, rfl⟩ := Option.map_eq_some_iff.mp ha
    obtain ⟨d, hd, rfl⟩ := Option.map_eq_some_iff.mp hb
    rintro rfl
    exact hapart.2 _ hc hd

namespace Mapper

variable {m m' : Mapper} {property column : String} {hints : List (String × String)}

/-- **The merged mapper has the mappings that were there and the hints that were free.** By
induction on the hints: the first one changes nothing about whether those behind it are free. -/
theorem IsOneToOne.target?_mergeHints_iff (h : m.IsOneToOne) (hapart : AreApart hints) :
    (m.mergeHints hints).target? property = some column ↔
      m.target? property = some column ∨
        (property, column) ∈ hints ∧ m.IsFree (property, column) := by
  induction hints generalizing m with
  | nil => exact ⟨Or.inl, fun h => h.resolve_right fun h => absurd h.1 List.not_mem_nil⟩
  | cons hint rest ih =>
      obtain ⟨hothers, hrest⟩ := areApart_cons_iff.mp hapart
      have hstep : m.mergeHints (hint :: rest) = (m.mergeHint hint).mergeHints rest := rfl
      rw [hstep, ih (h.mergeHint hint) hrest]
      by_cases hfree : m.IsFree hint
      · rw [hfree.mergeHint_eq h, target?_withTarget]
        constructor
        · rintro (htarget | ⟨hmem, hthen⟩)
          · split_ifs at htarget with heq
            · obtain rfl := Option.some.inj htarget
              subst heq
              exact Or.inr ⟨List.mem_cons_self, hfree⟩
            · exact Or.inl htarget
          · obtain ⟨hproperty, hcolumn⟩ := hothers _ hmem
            exact Or.inr ⟨List.mem_cons_of_mem _ hmem,
              (hfree.withTarget_iff hproperty hcolumn).mp hthen⟩
        · rintro (htarget | ⟨hmem, hthen⟩)
          · left
            rw [if_neg]
            · exact htarget
            · rintro rfl
              cases hfree.property.symm.trans htarget
          · rcases List.mem_cons.mp hmem with rfl | hmem
            · exact Or.inl (if_pos rfl)
            · obtain ⟨hproperty, hcolumn⟩ := hothers _ hmem
              exact Or.inr ⟨hmem, (hfree.withTarget_iff hproperty hcolumn).mpr hthen⟩
      · rw [mergeHint_of_not_isFree hfree h]
        refine or_congr_right (and_congr_left fun hthen => ?_)
        -- a hint that is passed over is not one of the free ones
        rw [List.mem_cons, or_iff_right]
        rintro rfl
        exact hfree hthen

/-- One-to-one mappers with the same explicit targets and transformations are the same. -/
theorem IsOneToOne.ext (h : m.IsOneToOne) (h' : m'.IsOneToOne)
    (htargets : ∀ p c, m.target? p = some c ↔ m'.target? p = some c)
    (htransforms : m.transforms = m'.transforms) : m = m' := by
  have hcolumns : m.columns = m'.columns :=
    h.sorted.ext h'.sorted fun p => Option.ext fun c => htargets p c
  cases m
  cases m'
  cases hcolumns
  cases htransforms
  rfl

/-- The order of hints does not matter. -/
theorem IsOneToOne.mergeHints_perm (h : m.IsOneToOne) (hapart : AreApart hints)
    {hints' : List (String × String)} (hperm : hints'.Perm hints) :
    m.mergeHints hints' = m.mergeHints hints := by
  obtain ⟨hone, -, htransforms⟩ := h.mergeHints hints
  obtain ⟨hone', -, htransforms'⟩ := h.mergeHints hints'
  refine hone'.ext hone (fun p c => ?_) (htransforms'.trans htransforms.symm)
  rw [h.target?_mergeHints_iff (hapart.of_perm hperm), h.target?_mergeHints_iff hapart,
    hperm.mem_iff]

/-- No hint is free once all have been merged. -/
theorem IsOneToOne.mergeHints_again (h : m.IsOneToOne) (hapart : AreApart hints)
    {hints' : List (String × String)} (hperm : hints'.Perm hints) :
    (m.mergeHints hints).mergeHints hints' = m.mergeHints hints := by
  obtain ⟨hone, -, -⟩ := h.mergeHints hints
  obtain ⟨hagain, -, htransforms⟩ := hone.mergeHints hints'
  refine hagain.ext hone (fun p c => ?_) htransforms
  rw [hone.target?_mergeHints_iff (hapart.of_perm hperm), or_iff_left]
  rintro ⟨hmem, hnone, hnobody⟩
  -- were it free now, it would have been free before and then been taken
  have htaken : (m.mergeHints hints).target? p = some c := by
    refine (h.target?_mergeHints_iff hapart).mpr (Or.inr ⟨hperm.mem_iff.mp hmem, ?_, ?_⟩)
    · cases hbefore : m.target? p with
      | none => rfl
      | some c' =>
          cases hnone.symm.trans ((h.mergeHints hints).2.1 p c' hbefore)
    · exact fun q hq => hnobody q ((h.mergeHints hints).2.1 q c hq)
  cases hnone.symm.trans htaken

/-! ## Registering -/

/-- Pairs that are all free are registered without a refusal, and that is merging them. -/
theorem IsOneToOne.registerAll_eq (h : m.IsOneToOne) (hapart : AreApart hints)
    (hfree : ∀ hint ∈ hints, m.IsFree hint) : m.registerAll hints = .ok (m.mergeHints hints) := by
  induction hints generalizing m with
  | nil => rfl
  | cons hint rest ih =>
      obtain ⟨hothers, hrest⟩ := areApart_cons_iff.mp hapart
      have hfirst := hfree hint List.mem_cons_self
      have hmerge : m.mergeHint hint = m.withTarget hint := hfirst.mergeHint_eq h
      have hstep : m.registerAll (hint :: rest) =
          (m.register hint.1 hint.2 >>= fun m => m.registerAll rest) := rfl
      have hmerged : m.mergeHints (hint :: rest) = (m.mergeHint hint).mergeHints rest := rfl
      rw [hstep, hmerged, hfirst.register_eq h, ok_bind, ← hmerge]
      refine ih (h.mergeHint hint) hrest fun other hother => ?_
      obtain ⟨hproperty, hcolumn⟩ := hothers other hother
      rw [hmerge, hfirst.withTarget_iff hproperty hcolumn]
      exact hfree other (List.mem_cons_of_mem _ hother)

theorem isFree_empty (hint : String × String) : empty.IsFree hint :=
  ⟨rfl, nofun⟩

/-- **Hints behave like registrations.** Whatever calls a mapper has been through, merging pairs of
which no two share a property or a column, as the hints of a checked record type are, leaves the
mappings that were there and adds the pairs whose property has no mapping and whose column is no
explicit target; the transformations stay. The order of the pairs does not matter, and merging them
once more changes nothing. Registered with a mapper that has no mappings, in any order, the same
pairs give the mapper that merging gives, so that every query has the same statement under both or
none. -/
theorem mergeHints_registers (calls : List Call) (hapart : AreApart hints) :
    (∀ p c, (p, c) ∈ ((empty.run calls).mergeHints hints).columns ↔
        (p, c) ∈ (empty.run calls).columns ∨ (p, c) ∈ hints ∧
          (∀ c', (p, c') ∉ (empty.run calls).columns) ∧
            ∀ q, (q, c) ∉ (empty.run calls).columns) ∧
      ((empty.run calls).mergeHints hints).transforms = (empty.run calls).transforms ∧
      ∀ hints', hints'.Perm hints →
        (empty.run calls).mergeHints hints' = (empty.run calls).mergeHints hints ∧
        ((empty.run calls).mergeHints hints).mergeHints hints' =
          (empty.run calls).mergeHints hints ∧
        ∃ registered, empty.registerAll hints' = .ok registered ∧
          registered = empty.mergeHints hints ∧
          ∀ (model : Model) (table : Table),
            compile registered model = compile (empty.mergeHints hints) model ∧
            (compile registered model).map (·.render table) =
              (compile (empty.mergeHints hints) model).map (·.render table) := by
  have h : (empty.run calls).IsOneToOne := (isOneToOne_empty.run calls).1
  obtain ⟨hmerged, -, htransforms⟩ := h.mergeHints hints
  refine ⟨fun p c => ?_, htransforms, fun hints' hperm => ?_⟩
  · simp only [hmerged.sorted.mem_iff, h.sorted.mem_iff]
    refine (h.target?_mergeHints_iff hapart).trans (or_congr_right (and_congr_right fun _ => ?_))
    constructor
    · rintro ⟨hnone, hnobody⟩
      refine ⟨fun c' hc' => ?_, hnobody⟩
      cases hnone.symm.trans hc'
    · rintro ⟨hnone, hnobody⟩
      exact ⟨Option.eq_none_iff_forall_ne_some.mpr hnone, hnobody⟩
  · refine ⟨h.mergeHints_perm hapart hperm, h.mergeHints_again hapart hperm, ?_⟩
    have hregistered := isOneToOne_empty.registerAll_eq (hapart.of_perm hperm)
      fun hint _ => isFree_empty hint
    rw [isOneToOne_empty.mergeHints_perm hapart hperm] at hregistered
    exact ⟨_, hregistered, rfl, fun model table => ⟨rfl, rfl⟩⟩

/-- Companies, with a column of its own for each of three fields. -/
def companyType : RecordType :=
  ((((((RecordType.named "Company").field "Name" ⟨.text, false⟩).column "Company Title").field "CEO"
    ⟨.text, false⟩).column "Chief").field "Staff" ⟨.int64, false⟩).column "Boss"

theorem mergeHints_registers_company :
    ("Name", "Company Title") ∈
        ((empty.run [.register "CEO" "Boss"]).mergeHints companyType.hints).columns ∧
      ("Staff", "Boss") ∉
        ((empty.run [.register "CEO" "Boss"]).mergeHints companyType.hints).columns ∧
      (empty.run [.register "CEO" "Boss"]).mergeHints companyType.hints.reverse =
        (empty.run [.register "CEO" "Boss"]).mergeHints companyType.hints ∧
      empty.registerAll companyType.hints.reverse = .ok (empty.mergeHints companyType.hints) := by
  have hcheck : companyType.check = .ok () := rfl
  have hcolumns : (empty.run [.register "CEO" "Boss"]).columns = [("CEO", "Boss")] := by decide
  obtain ⟨hmem, -, hperm⟩ :=
    mergeHints_registers [.register "CEO" "Boss"] (RecordType.areApart_hints hcheck)
  obtain ⟨hsame, -, registered, hregistered, rfl, -⟩ := hperm _ (List.reverse_perm _)
  refine ⟨(hmem _ _).mpr (Or.inr ⟨by decide, ?_, ?_⟩), fun hstaff => ?_, hsame, hregistered⟩
  · simp [hcolumns]
  · simp [hcolumns]
  · -- the column of the staff is that of the CEO
    rcases (hmem _ _).mp hstaff with hstaff | ⟨-, -, hnobody⟩
    · simp [hcolumns] at hstaff
    · exact hnobody "CEO" (by decide)

end Mapper

end SheetQuery
