import SheetQuery.Mapper
import SheetQuery.Proofs.Outcome

/-!
# Owners of columns

Three calls change a mapper. One maps a property to a column, in place of its earlier mapping; one
attaches a transformation, in place of none; one merges hints and passes over what is mapped
already. Whatever calls a mapper has been through, refused ones among them, each column is the
explicit target of one property at most. The search for the owner of a column relies on that: it
stops at the first entry with the column, which is right because there is no other.

Main statement: `Mapper.isOrderly_run`.
-/

namespace SheetQuery

/-! ## Dictionaries -/

namespace Dictionary

variable {α : Type} {key : String} {value : α} {d : Dictionary α}

/-- The keys ascend, so none stands twice. -/
def IsSorted (d : Dictionary α) : Prop :=
  d.Pairwise fun a b => a.1 < b.1

theorem get?_cons (k : String) (v : α) (d : Dictionary α) (key : String) :
    get? key ((k, v) :: d) = if key = k then some v else d.get? key := by
  unfold get?
  rw [List.lookup_cons]
  by_cases h : key = k
  · rw [if_pos h, beq_iff_eq.mpr h]
  · rw [if_neg h, beq_eq_false_iff_ne.mpr h]

/-- A value that was put in is found under its key, and all else is found as before. -/
theorem get?_insert (key : String) (value : α) (d : Dictionary α) (other : String) :
    get? other (d.insert key value) = if other = key then some value else d.get? other := by
  induction d with
  | nil => exact get?_cons key value [] other
  | cons entry rest ih =>
      obtain ⟨k, v⟩ := entry
      rw [insert]
      by_cases hlt : key < k
      · rw [if_pos hlt, get?_cons]
      · rw [if_neg hlt]
        by_cases heq : key = k
        · subst heq
          rw [if_pos rfl, get?_cons, get?_cons]
          split_ifs <;> rfl
        · rw [if_neg heq, get?_cons, get?_cons, ih]
          -- the entry in front has another key than the one that is put in
          by_cases hother : other = k
          · rw [if_pos hother, if_pos hother, if_neg fun h => heq (h.symm.trans hother)]
          · rw [if_neg hother, if_neg hother]

theorem mem_insert {entry : String × α} (h : entry ∈ d.insert key value) :
    entry = (key, value) ∨ entry ∈ d := by
  induction d with
  | nil => exact Or.inl (List.mem_singleton.mp h)
  | cons front rest ih =>
      obtain ⟨k, v⟩ := front
      rw [insert] at h
      split_ifs at h with hlt heq
      · exact List.mem_cons.mp h
      · exact (List.mem_cons.mp h).imp id (List.mem_cons_of_mem _)
      · rcases List.mem_cons.mp h with rfl | h
        · exact Or.inr List.mem_cons_self
        · exact (ih h).imp id (List.mem_cons_of_mem _)

theorem IsSorted.insert (h : d.IsSorted) (key : String) (value : α) :
    IsSorted (d.insert key value) := by
  induction d with
  | nil => exact List.pairwise_singleton _ _
  | cons front rest ih =>
      obtain ⟨k, v⟩ := front
      obtain ⟨hfront, hrest⟩ := List.pairwise_cons.mp h
      unfold IsSorted
      rw [Dictionary.insert]
      split_ifs with hlt heq
      · refine List.pairwise_cons.mpr ⟨fun entry hentry => ?_, h⟩
        rcases List.mem_cons.mp hentry with rfl | hentry
        · exact hlt
        · exact String.lt_trans hlt (hfront entry hentry)
      · subst heq
        exact List.pairwise_cons.mpr ⟨hfront, hrest⟩
      · refine List.pairwise_cons.mpr ⟨fun entry hentry => ?_, ih hrest⟩
        rcases mem_insert hentry with rfl | hentry
        · -- of two keys that are not the same the smaller one stands in front
          by_contra hge
          exact heq (String.le_antisymm (String.not_lt.mp hge) (String.not_lt.mp hlt))
        · exact hfront entry hentry

/-- In a sorted dictionary an entry is what is found under its key. -/
theorem IsSorted.mem_iff (h : d.IsSorted) : (key, value) ∈ d ↔ d.get? key = some value := by
  induction d with
  | nil => exact ⟨nofun, nofun⟩
  | cons front rest ih =>
      obtain ⟨k, v⟩ := front
      obtain ⟨hfront, hrest⟩ := List.pairwise_cons.mp h
      rw [get?_cons, List.mem_cons, ih hrest, Prod.mk.injEq]
      split_ifs with heq
      · subst heq
        constructor
        · rintro (⟨-, rfl⟩ | hlater)
          · rfl
          · exact absurd (hfront _ ((ih hrest).mpr hlater)) (String.lt_irrefl key)
        · intro hsome
          exact Or.inl ⟨rfl, (Option.some.inj hsome).symm⟩
      · exact ⟨fun h => h.resolve_left fun h => heq h.1, Or.inr⟩

end Dictionary

namespace Mapper

variable {m m' : Mapper} {property column : String}

/-! ## Explicit targets -/

/-- The column that a property is explicitly mapped to. -/
def target? (m : Mapper) (property : String) : Option String :=
  m.columns.get? property

theorem map_eq (m : Mapper) (property : String) :
    m.map property = (m.target? property).getD property :=
  rfl

/-- Each property has one entry, and each column one property. -/
structure IsOneToOne (m : Mapper) : Prop where
  sorted : m.columns.IsSorted
  injective : ∀ p q column, m.target? p = some column → m.target? q = some column → p = q

/-- **The search for the owner of a column is exact.** -/
theorem IsOneToOne.owner?_eq_some_iff (h : m.IsOneToOne) :
    m.owner? column = some property ↔ m.target? property = some column := by
  constructor
  · intro howner
    obtain ⟨⟨p, c⟩, hfind, rfl⟩ := Option.map_eq_some_iff.mp howner
    obtain rfl : c = column := by simpa using List.find?_some hfind
    exact h.sorted.mem_iff.mp (List.mem_of_find?_eq_some hfind)
  · intro htarget
    have hmem := h.sorted.mem_iff.mpr htarget
    cases hfind : List.find? (fun entry => entry.2 == column) m.columns with
    | none =>
        have hnone := List.find?_eq_none.mp hfind (property, column) hmem
        simp at hnone
    | some entry =>
        obtain ⟨p, c⟩ := entry
        obtain rfl : c = column := by simpa using List.find?_some hfind
        -- the first entry with the column is the only one
        have hfirst := h.sorted.mem_iff.mp (List.mem_of_find?_eq_some hfind)
        rw [owner?, hfind, h.injective p property c hfirst htarget]
        rfl

theorem IsOneToOne.owner?_eq_none_iff (h : m.IsOneToOne) :
    m.owner? column = none ↔ ∀ p, m.target? p ≠ some column := by
  rw [Option.eq_none_iff_forall_ne_some]
  exact forall_congr' fun p => not_congr h.owner?_eq_some_iff

/-- A column that no other property has may be given to a property. -/
theorem IsOneToOne.insert (h : m.IsOneToOne)
    (hfree : ∀ q, m.target? q = some column → q = property) :
    IsOneToOne { m with columns := m.columns.insert property column } := by
  refine ⟨h.sorted.insert property column, fun p q c hp hq => ?_⟩
  unfold target? at hp hq
  rw [Dictionary.get?_insert] at hp hq
  split_ifs at hp hq with hpp hqp hqp
  · exact hpp.trans hqp.symm
  · cases hp
    exact hpp.trans (hfree q hq).symm
  · cases hq
    exact (hfree p hp).trans hqp.symm
  · exact h.injective p q c hp hq

/-! ## Calls -/

/-- A call that may change a mapper. -/
inductive Call where
  | register (property column : String)
  | registerTransform (property : String) (transform : Transform)
  | mergeHints (hints : List (String × String))

/-- The mapper that a call makes, or its refusal. Merging is never refused. -/
def answer (m : Mapper) : Call → Except QueryError Mapper
  | .register property column => m.register property column
  | .registerTransform property transform => m.registerTransform property transform
  | .mergeHints hints => .ok (m.mergeHints hints)

/-- The mapper behind a call: the one it makes, or the same as before where it is refused. -/
def after (m : Mapper) (call : Call) : Mapper :=
  match m.answer call with
  | .ok changed => changed
  | .error _ => m

/-- The mapper behind calls, refused ones among them. -/
def run (m : Mapper) (calls : List Call) : Mapper :=
  calls.foldl after m

/-! ### Registering -/

/-- **A column is given to a property exactly when no other one has it.** -/
theorem IsOneToOne.register_ok_iff (h : m.IsOneToOne) :
    m.register property column = .ok m' ↔
      (∀ q, m.target? q = some column → q = property) ∧
        m' = { m with columns := m.columns.insert property column } := by
  unfold register
  cases howner : m.owner? column with
  | none =>
      have hfree := h.owner?_eq_none_iff.mp howner
      constructor
      · rintro ⟨⟩
        exact ⟨fun q hq => absurd hq (hfree q), rfl⟩
      · rintro ⟨-, rfl⟩
        rfl
  | some owner =>
      have htarget := h.owner?_eq_some_iff.mp howner
      show (if owner = property then _ else _) = _ ↔ _
      split_ifs with heq
      · subst heq
        constructor
        · rintro ⟨⟩
          exact ⟨fun q hq => h.injective q owner column hq htarget, rfl⟩
        · rintro ⟨-, rfl⟩
          rfl
      · exact ⟨nofun, fun hfree => absurd (hfree.1 owner htarget) heq⟩

/-- A mapped property is read from its column, and all others from where they were. -/
theorem target?_insert (m : Mapper) (property column other : String) :
    ({ m with columns := m.columns.insert property column } : Mapper).target? other =
      if other = property then some column else m.target? other :=
  Dictionary.get?_insert property column m.columns other

/-! ### Merging hints -/

/-- A hint is passed over where its property or its column has a mapping. -/
theorem mergeHint_cases (h : m.IsOneToOne) (hint : String × String) :
    m.mergeHint hint = m ∨
      m.target? hint.1 = none ∧ (∀ q, m.target? q ≠ some hint.2) ∧
        m.mergeHint hint = { m with columns := m.columns.insert hint.1 hint.2 } := by
  unfold mergeHint
  split_ifs with hmapped
  · exact Or.inl rfl
  · rw [Bool.or_eq_true, not_or, isMapped, Dictionary.has, isColumnMapped] at hmapped
    obtain ⟨hproperty, hcolumn⟩ := hmapped
    rw [Bool.not_eq_true, Option.isSome_eq_false_iff, Option.isNone_iff_eq_none] at hproperty hcolumn
    exact Or.inr ⟨hproperty, h.owner?_eq_none_iff.mp hcolumn, rfl⟩

/-- A hint leaves every mapping that is there. -/
theorem target?_mergeHint (h : m.IsOneToOne) {hint : String × String}
    (htarget : m.target? property = some column) :
    (m.mergeHint hint).target? property = some column := by
  rcases mergeHint_cases h hint with hsame | ⟨hnone, -, hnew⟩
  · rw [hsame, htarget]
  · rw [hnew, target?_insert, if_neg]
    · exact htarget
    · rintro rfl
      cases hnone.symm.trans htarget

theorem IsOneToOne.mergeHint (h : m.IsOneToOne) (hint : String × String) :
    (m.mergeHint hint).IsOneToOne := by
  rcases mergeHint_cases h hint with hsame | ⟨-, hfree, hnew⟩
  · rwa [hsame]
  · rw [hnew]
    exact h.insert fun q hq => absurd hq (hfree q)

/-- Merging keeps the mapper one to one and leaves every mapping that is there. By induction on the
hints, since a hint finds what the hints before it have left. -/
theorem IsOneToOne.mergeHints (h : m.IsOneToOne) (hints : List (String × String)) :
    (m.mergeHints hints).IsOneToOne ∧
      (∀ p c, m.target? p = some c → (m.mergeHints hints).target? p = some c) ∧
      (m.mergeHints hints).transforms = m.transforms := by
  induction hints generalizing m with
  | nil => exact ⟨h, fun p c htarget => htarget, rfl⟩
  | cons hint rest ih =>
      obtain ⟨hone, hkept, htransforms⟩ := ih (h.mergeHint hint)
      refine ⟨hone, fun p c htarget => hkept p c (target?_mergeHint h htarget), ?_⟩
      refine htransforms.trans ?_
      rcases mergeHint_cases h hint with hsame | ⟨-, -, hnew⟩
      · rw [hsame]
      · rw [hnew]

/-! ### Any call -/

/-- **One call keeps a mapper one to one**, and every transformation that is there. -/
theorem IsOneToOne.after (h : m.IsOneToOne) (call : Call) :
    (m.after call).IsOneToOne ∧
      ∀ p f, m.transform? p = some f → (m.after call).transform? p = some f := by
  unfold Mapper.after
  cases call with
  | register p c =>
      cases hregister : m.register p c with
      | error e =>
          simp only [answer, hregister]
          exact ⟨h, fun q f hf => hf⟩
      | ok changed =>
          obtain ⟨hfree, rfl⟩ := h.register_ok_iff.mp hregister
          simp only [answer, hregister]
          exact ⟨h.insert hfree, fun q f hf => hf⟩
  | registerTransform p transform =>
      simp only [answer, registerTransform]
      split_ifs with htaken
      · exact ⟨h, fun q f hf => hf⟩
      · refine ⟨⟨h.sorted, h.injective⟩, fun q f hf => ?_⟩
        show Dictionary.get? q (m.transforms.insert p transform) = some f
        rw [Dictionary.get?_insert, if_neg]
        · exact hf
        · -- a property with a transformation is not given another one
          rintro rfl
          exact htaken (Option.isSome_iff_exists.mpr ⟨f, hf⟩)
  | mergeHints hints =>
      obtain ⟨hone, -, htransforms⟩ := h.mergeHints hints
      refine ⟨hone, fun q f hf => ?_⟩
      show (m.mergeHints hints).transforms.get? q = some f
      rwa [htransforms]

theorem IsOneToOne.run (h : m.IsOneToOne) (calls : List Call) :
    (m.run calls).IsOneToOne ∧
      ∀ p f, m.transform? p = some f → (m.run calls).transform? p = some f := by
  induction calls generalizing m with
  | nil => exact ⟨h, fun p f hf => hf⟩
  | cons call rest ih =>
      obtain ⟨hone, hkept⟩ := h.after call
      obtain ⟨hrun, hlater⟩ := ih hone
      exact ⟨hrun, fun p f hf => hlater p f (hkept p f hf)⟩

theorem isOneToOne_empty : empty.IsOneToOne :=
  ⟨List.Pairwise.nil, nofun⟩

/-! ## Runs -/

/-- **What can be relied on between two calls to a mapper.** -/
structure IsOrderly (m : Mapper) : Prop where
  /-- No column is the explicit target of two properties. -/
  unique : ∀ p q column, m.target? p = some column → m.target? q = some column → p = q
  /-- The listing of the mappings shows each of them, and no column twice. -/
  listed : (∀ p column, (p, column) ∈ m.columns ↔ m.target? p = some column) ∧
    (m.columns.map Prod.snd).Nodup
  /-- A refused call leaves all mappings and transformations as they are. -/
  refused : ∀ call e, m.answer call = .error e → m.after call = m
  /-- Hints leave every mapping that is there, and all transformations. -/
  hints : ∀ hints, (∀ p column, m.target? p = some column →
    (m.mergeHints hints).target? p = some column) ∧ (m.mergeHints hints).transforms = m.transforms
  /-- No later call replaces a transformation. -/
  transforms : ∀ calls p f, m.transform? p = some f → (m.run calls).transform? p = some f
  /-- A property is given a column exactly when no other property has it. -/
  registers : ∀ p column, (∃ m', m.register p column = .ok m') ↔
    ∀ q, m.target? q = some column → q = p
  /-- It is read from the column then, and every other property from where it was. -/
  registered : ∀ p column m', m.register p column = .ok m' →
    m'.map p = column ∧ m'.target? p = some column ∧
      (∀ q, q ≠ p → m'.map q = m.map q ∧ m'.target? q = m.target? q) ∧
      m'.transforms = m.transforms

theorem IsOneToOne.nodup_columns (h : m.IsOneToOne) : (m.columns.map Prod.snd).Nodup := by
  rw [List.Nodup, List.pairwise_map]
  refine h.sorted.imp_of_mem fun {a b} ha hb hlt hsame => ?_
  obtain ⟨p, c⟩ := a
  obtain ⟨q, d⟩ := b
  obtain rfl : c = d := hsame
  obtain rfl := h.injective p q c (h.sorted.mem_iff.mp ha) (h.sorted.mem_iff.mp hb)
  exact String.lt_irrefl p hlt

theorem IsOneToOne.isOrderly (h : m.IsOneToOne) : m.IsOrderly where
  unique := h.injective
  listed := ⟨fun p column => h.sorted.mem_iff, h.nodup_columns⟩
  refused call e he := by rw [Mapper.after, he]
  hints hints := (h.mergeHints hints).2
  transforms calls := (h.run calls).2
  registers p column := by
    constructor
    · rintro ⟨m', hm'⟩
      exact (h.register_ok_iff.mp hm').1
    · exact fun hfree => ⟨_, h.register_ok_iff.mpr ⟨hfree, rfl⟩⟩
  registered p column m' hm' := by
    obtain ⟨-, rfl⟩ := h.register_ok_iff.mp hm'
    refine ⟨?_, ?_, fun q hq => ⟨?_, ?_⟩, rfl⟩
    · rw [map_eq, target?_insert, if_pos rfl]
      rfl
    · rw [target?_insert, if_pos rfl]
    · rw [map_eq, map_eq, target?_insert, if_neg hq]
    · rw [target?_insert, if_neg hq]

/-- **Every run of calls keeps a mapper orderly**, whether they succeed or not: each column has one
owner, and what a call may change is what it says. -/
theorem isOrderly_run (calls : List Call) : (empty.run calls).IsOrderly :=
  (isOneToOne_empty.run calls).1.isOrderly

example : (empty.run [.register "CEO" "Boss", .register "Owner" "Boss",
    .mergeHints [("CEO", "Chief"), ("Name", "Title"), ("Alias", "Boss")]]).columns =
    [("CEO", "Boss"), ("Name", "Title")] := by
  decide

end Mapper

end SheetQuery
