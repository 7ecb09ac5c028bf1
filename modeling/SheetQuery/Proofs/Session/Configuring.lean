import SheetQuery.Proofs.Mapper.Hints
import SheetQuery.Session.Basic

/-!
# Configuring a session

Three calls change the mapper of a session. A refused one should leave the session as it was, and
the calls for a mapping alone and for a transformation alone do: they look first and change
afterwards. The call for both makes two changes, the second of which may be refused when the first
is made, so a new mapping stays behind where the property has a transformation already. Nothing else
is ever left behind.

Main statement: `Session.register_refused`. The mapping that stays behind is shown by
`Session.register_refused_changes`.
-/

namespace SheetQuery

/-- A call that registers something with a session. -/
inductive Registration where
  | mapping (property column : String)
  | mappingWithTransform (property column : String) (transform : Transform)
  | transformation (property : String) (transform : Transform)

namespace Mapper

variable {m : Mapper} {property column : String}

theorem taken_of_registerTransform_error {transform : Transform} {e : QueryError}
    (h : m.registerTransform property transform = .error e) :
    (m.transform? property).isSome = true := by
  unfold registerTransform at h
  split_ifs at h with htaken
  exact htaken

/-- A mapping that is there already is registered without a change. -/
theorem IsOneToOne.withTarget_eq_iff (h : m.IsOneToOne)
    (hfree : ∀ q, m.target? q = some column → q = property) :
    m.withTarget (property, column) = m ↔ m.target? property = some column := by
  constructor
  · intro hsame
    rw [← hsame, target?_withTarget, if_pos rfl]
  · intro htarget
    refine IsOneToOne.ext (h.insert hfree) h (fun q c => ?_) rfl
    rw [target?_withTarget]
    split_ifs with heq
    · rw [heq, htarget]
    · exact Iff.rfl

end Mapper

namespace Session

variable {s : Session} {property column : String} {transform : Transform} {e : QueryError}

/-- The answer to a call, and the session behind it. -/
def register (s : Session) : Registration → Except QueryError Unit × Session
  | .mapping property column => s.addMapping property column
  | .mappingWithTransform property column transform =>
    s.addMappingWithTransform property column transform
  | .transformation property transform => s.addTransformation property transform

/-- The session behind calls, refused ones among them. -/
def registered (s : Session) (calls : List Registration) : Session :=
  calls.foldl (fun s call => (s.register call).2) s

/-! ## Sessions behind calls -/

/-- A change to the mapper is made, or refused and not made. -/
theorem withMapper_answer (s : Session) (call : Mapper.Call) :
    (s.withMapper (s.mapper.answer call)).2 = { s with mapper := s.mapper.after call } := by
  unfold Mapper.after
  cases s.mapper.answer call with
  | ok changed => rfl
  | error e => rfl

/-- A call changes the mapper only, and in a way that calls to the mapper do. -/
theorem exists_run_of_register (s : Session) (call : Registration) :
    ∃ calls, (s.register call).2 = { s with mapper := s.mapper.run calls } := by
  cases call with
  | mapping property column =>
      exact ⟨[.register property column], s.withMapper_answer (.register property column)⟩
  | transformation property transform =>
      exact ⟨[.registerTransform property transform],
        s.withMapper_answer (.registerTransform property transform)⟩
  | mappingWithTransform property column transform =>
      have hmapping : (s.addMapping property column).2 = _ :=
        s.withMapper_answer (.register property column)
      simp only [register, addMappingWithTransform]
      split
      · next u changed hchanged =>
          rw [hchanged] at hmapping
          obtain rfl : changed = _ := hmapping
          exact ⟨[.register property column, .registerTransform property transform],
            withMapper_answer _ (.registerTransform property transform)⟩
      · exact ⟨[.register property column], hmapping⟩

/-- So does any number of calls. -/
theorem exists_run_of_registered (s : Session) (calls : List Registration) :
    ∃ calls', s.registered calls = { s with mapper := s.mapper.run calls' } := by
  induction calls generalizing s with
  | nil => exact ⟨[], rfl⟩
  | cons call rest ih =>
      obtain ⟨first, hfirst⟩ := s.exists_run_of_register call
      obtain ⟨others, hothers⟩ := ih (s.register call).2
      refine ⟨first ++ others, ?_⟩
      have hrun : s.mapper.run (first ++ others) = (s.mapper.run first).run others :=
        List.foldl_append
      rw [hrun]
      exact hothers.trans (by rw [hfirst])

/-- Whatever calls a session has been through, each column is the target of one property. -/
theorem isOneToOne_registered (file : Option String) (options : Options)
    (calls : List Registration) :
    (registered ⟨file, .empty, options⟩ calls).mapper.IsOneToOne := by
  obtain ⟨calls', hrun⟩ := exists_run_of_registered ⟨file, .empty, options⟩ calls
  rw [hrun]
  exact (Mapper.isOneToOne_empty.run calls').1

/-! ## Refused calls -/

/-- A change to the mapper that is refused is none to the session. -/
theorem withMapper_error {change : Except QueryError Mapper}
    (h : (s.withMapper change).1 = .error e) :
    change = .error e ∧ (s.withMapper change).2 = s := by
  cases change with
  | ok m => cases h
  | error fault => exact ⟨congrArg _ (Except.error.inj h), rfl⟩

/-- **The call for both is refused at one of two places**: at the mapping, where the column is
another property's, or at the transformation, where the mapping is made. -/
theorem addMappingWithTransform_error (h : s.mapper.IsOneToOne)
    (he : (s.addMappingWithTransform property column transform).1 = .error e) :
    (¬ ∀ q, s.mapper.target? q = some column → q = property) ∧
        (s.addMappingWithTransform property column transform).2 = s ∨
      (∀ q, s.mapper.target? q = some column → q = property) ∧
        (s.mapper.transform? property).isSome = true ∧
        (s.addMappingWithTransform property column transform).2 =
          { s with mapper := s.mapper.withTarget (property, column) } := by
  unfold addMappingWithTransform addMapping at he ⊢
  cases hregister : s.mapper.register property column with
  | error fault =>
      refine Or.inl ⟨fun hfree => ?_, rfl⟩
      cases hregister.symm.trans (h.register_ok_iff.mpr ⟨hfree, rfl⟩)
  | ok changed =>
      obtain ⟨hfree, rfl⟩ := h.register_ok_iff.mp hregister
      rw [hregister] at he
      obtain ⟨hrefused, hsame⟩ := withMapper_error he
      have htaken := Mapper.taken_of_registerTransform_error hrefused
      -- the transformations are those from before the mapping
      exact Or.inr ⟨hfree, htaken, hsame⟩

/-- The call leaves a mapping behind when it is refused: its column is no other property's, its
mapping is new, and its property has a transformation. -/
structure StopsHalfway (s : Session) (property column : String) : Prop where
  free : ∀ q, s.mapper.target? q = some column → q = property
  new : s.mapper.target? property ≠ some column
  taken : (s.mapper.transform? property).isSome = true

/-- **A refused call leaves the session as it was**, so that everything made of the session is the
same as without the call, unless it is a call for a mapping and a transformation that stops halfway:
that leaves its mapping behind and nothing else. -/
theorem register_refused {file : Option String} {options : Options} {calls : List Registration}
    (hs : registered ⟨file, .empty, options⟩ calls = s) {call : Registration}
    (he : (s.register call).1 = .error e) :
    ((s.register call).2 = s ↔ ∀ property column transform,
        call = .mappingWithTransform property column transform →
          ¬ s.StopsHalfway property column) ∧
      ∀ property column transform, call = .mappingWithTransform property column transform →
        s.StopsHalfway property column →
          (s.register call).2 = { s with mapper := s.mapper.withTarget (property, column) } := by
  have h : s.mapper.IsOneToOne := hs ▸ isOneToOne_registered file options calls
  cases call with
  | mapping property column => exact ⟨⟨nofun, fun _ => (withMapper_error he).2⟩, nofun⟩
  | transformation property transform => exact ⟨⟨nofun, fun _ => (withMapper_error he).2⟩, nofun⟩
  | mappingWithTransform property column transform =>
      unfold register at he ⊢
      rcases addMappingWithTransform_error h he with ⟨htaken, hsame⟩ | ⟨hfree, htaken, hchanged⟩
      · -- another property has the column, so the mapping is refused already
        refine ⟨⟨?_, fun _ => hsame⟩, ?_⟩
        · rintro - p c f ⟨⟩ hhalfway
          exact htaken hhalfway.free
        · rintro p c f ⟨⟩ hhalfway
          exact absurd hhalfway.free htaken
      · have hnew : { s with mapper := s.mapper.withTarget (property, column) } = s ↔
            s.mapper.target? property = some column := by
          rw [← h.withTarget_eq_iff hfree]
          exact ⟨fun hsame => congrArg mapper hsame, fun hsame => by rw [hsame]⟩
        refine ⟨?_, ?_⟩
        · rw [hchanged, hnew]
          constructor
          · rintro htarget p c f ⟨⟩ hhalfway
            exact hhalfway.new htarget
          · intro hnone
            by_contra hother
            exact hnone property column transform rfl ⟨hfree, hother, htaken⟩
        · rintro p c f ⟨⟩ -
          exact hchanged

/-- Takes every text for a truth value. -/
def asTruth : Transform :=
  fun text => .bool (text == "yes")

/-- A session that shows the texts of one property as truth values. -/
def surveys : Session :=
  registered (new (some "surveys.xls")) [.transformation "IsActive" asTruth]

theorem register_refused_surveys :
    (∃ e, (surveys.register (.transformation "IsActive" asTruth)).1 = .error e) ∧
      (surveys.register (.transformation "IsActive" asTruth)).2 = surveys ∧
      (∃ e, (surveys.register (.mappingWithTransform "IsActive" "Active" asTruth)).1 = .error e) ∧
      (surveys.register (.mappingWithTransform "IsActive" "Active" asTruth)).2 =
        { surveys with mapper := surveys.mapper.withTarget ("IsActive", "Active") } := by
  have hs : registered ⟨some "surveys.xls", .empty, .standard⟩
      [.transformation "IsActive" asTruth] = surveys := rfl
  have hagain : (surveys.register (.transformation "IsActive" asTruth)).1 =
      .error (.configuration (.transformTaken "IsActive")) := rfl
  have hboth : (surveys.register (.mappingWithTransform "IsActive" "Active" asTruth)).1 =
      .error (.configuration (.transformTaken "IsActive")) := rfl
  have hhalfway : surveys.StopsHalfway "IsActive" "Active" := ⟨nofun, nofun, rfl⟩
  exact ⟨⟨_, hagain⟩, (register_refused hs hagain).1.mpr nofun, ⟨_, hboth⟩,
    (register_refused hs hboth).2 _ _ _ rfl hhalfway⟩

/-- **A refused call may change a session**: the property is read from another column after it. -/
theorem register_refused_changes :
    ∃ e, (surveys.register (.mappingWithTransform "IsActive" "Active" asTruth)).1 = .error e ∧
      surveys.mapper.map "IsActive" = "IsActive" ∧
      (surveys.register (.mappingWithTransform "IsActive" "Active" asTruth)).2.mapper.map
        "IsActive" = "Active" :=
  ⟨_, rfl, rfl, rfl⟩

end Session

end SheetQuery
