import Mathlib.Algebra.Group.Nat.Defs
import Mathlib.Data.List.Forall2
import SheetQuery.Error

/-!
# Steps that may fail

A chain of steps succeeds exactly when every step does, with the results handed on. Stated as
equivalences, so that a successful run of a long chain is taken apart one step at a time.
-/

namespace SheetQuery

variable {ε α β : Type}

@[simp] theorem ok_bind (a : α) (f : α → Except ε β) : (Except.ok a >>= f) = f a := rfl

@[simp] theorem error_bind (e : ε) (f : α → Except ε β) :
    (Except.error e >>= f) = .error e := rfl

/-- Two steps in a row succeed when the first does and the second does on its result. -/
theorem bind_eq_ok_iff {x : Except ε α} {f : α → Except ε β} {b : β} :
    (x >>= f) = .ok b ↔ ∃ a, x = .ok a ∧ f a = .ok b := by
  cases x with
  | error e => simp
  | ok a => simp

theorem map_eq_ok_iff {x : Except ε α} {f : α → β} {b : β} :
    x.map f = .ok b ↔ ∃ a, x = .ok a ∧ f a = b := by
  cases x with
  | error e => simp [Except.map]
  | ok a => simp [Except.map]

theorem map_eq_error_iff {x : Except ε α} {f : α → β} {e : ε} :
    x.map f = .error e ↔ x = .error e := by
  cases x with
  | error e' => simp [Except.map]
  | ok a => simp [Except.map]

/-- Two chains of steps come to the same, seen through maps, when each step does. -/
theorem map_bind_congr {γ δ : Type} {x y : Except ε α} {f g : α → Except ε β} {r : α → γ}
    {s : β → δ} (h : x.map r = y.map r) (hfg : ∀ a b, r a = r b → (f a).map s = (g b).map s) :
    (x >>= f).map s = (y >>= g).map s := by
  cases x with
  | error e =>
      cases y with
      | error e' =>
          cases h
          rfl
      | ok b => cases h
  | ok a =>
      cases y with
      | error e => cases h
      | ok b => exact hfg a b (Except.ok.inj h)

theorem mapError_eq_ok_iff {ε' : Type} {x : Except ε α} {f : ε → ε'} {a : α} :
    x.mapError f = .ok a ↔ x = .ok a := by
  cases x with
  | error e => simp [Except.mapError]
  | ok a => simp [Except.mapError]

theorem exists_error_iff {x : Except ε α} : (∃ e, x = .error e) ↔ ∀ a, x ≠ .ok a := by
  cases x with
  | error e => simp
  | ok a => simp

theorem exists_map_error_iff {x : Except ε α} {f : α → β} :
    (∃ e, x.map f = .error e) ↔ ∃ e, x = .error e := by
  cases x with
  | error e => simp [Except.map]
  | ok a => simp [Except.map]

/-- Running over a list succeeds when it does on each element, with the results in order. -/
theorem mapM_eq_ok_iff {f : α → Except ε β} {xs : List α} {ys : List β} :
    xs.mapM f = .ok ys ↔ List.Forall₂ (fun x y => f x = .ok y) xs ys := by
  induction xs generalizing ys with
  | nil =>
      rw [List.mapM_nil, List.forall₂_nil_left_iff]
      exact ⟨fun h => (Except.ok.inj h).symm, fun h => congrArg Except.ok h.symm⟩
  | cons x xs ih =>
      rw [List.mapM_cons, List.forall₂_cons_left_iff, bind_eq_ok_iff]
      constructor
      · rintro ⟨y, hy, h⟩
        obtain ⟨rest, hrest, h⟩ := bind_eq_ok_iff.mp h
        cases h
        exact ⟨y, rest, hy, ih.mp hrest, rfl⟩
      · rintro ⟨y, rest, hy, hrest, rfl⟩
        exact ⟨y, hy, bind_eq_ok_iff.mpr ⟨rest, ih.mpr hrest, rfl⟩⟩

/-- Running over a list fails when it does on some element. -/
theorem mapM_error_iff {f : α → Except ε β} {xs : List α} :
    (∃ e, xs.mapM f = .error e) ↔ ∃ x ∈ xs, ∃ e, f x = .error e := by
  induction xs with
  | nil => simp [pure, Except.pure]
  | cons x xs ih =>
      rw [List.mapM_cons, List.exists_mem_cons_iff, ← ih]
      cases hx : f x with
      | error e => simp
      | ok y =>
          cases hxs : xs.mapM f with
          | error e => simp
          | ok ys => simp [pure, Except.pure]

/-! ## Kinds of faults -/

/-- A step that fails does so by a fault of the kind. -/
def FailsBy (kind : ε → Prop) (step : Except ε α) : Prop :=
  ∀ fault, step = .error fault → kind fault

namespace FailsBy

variable {kind : ε → Prop}

theorem ok (a : α) : FailsBy kind (.ok a : Except ε α) :=
  nofun

theorem error {fault : ε} (h : kind fault) : FailsBy kind (.error fault : Except ε α) := by
  rintro _ ⟨⟩
  exact h

/-- Two steps in a row fail by what either fails by. -/
theorem bind {x : Except ε α} {f : α → Except ε β} (hx : FailsBy kind x)
    (hf : ∀ a, FailsBy kind (f a)) : FailsBy kind (x >>= f) := by
  cases x with
  | ok a => exact hf a
  | error fault => exact error (hx fault rfl)

theorem map {x : Except ε α} (hx : FailsBy kind x) (f : α → β) : FailsBy kind (x.map f) :=
  fun fault h => hx fault (map_eq_error_iff.mp h)

theorem mono {kind' : ε → Prop} {step : Except ε α} (h : FailsBy kind step)
    (hkind : ∀ fault, kind fault → kind' fault) : FailsBy kind' step :=
  fun fault hfault => hkind fault (h fault hfault)

/-- Running over a list fails by what it fails by on an element. -/
theorem mapM {f : α → Except ε β} (h : ∀ a, FailsBy kind (f a)) (xs : List α) :
    FailsBy kind (xs.mapM f) := by
  induction xs with
  | nil => exact ok _
  | cons x xs ih =>
      rw [List.mapM_cons]
      exact (h x).bind fun _ => ih.bind fun _ => ok _

end FailsBy

/-! ## Two runs -/

/-- Two runs of a step go together: where either succeeds so does the other, with a result that is
related. -/
def Matched (R : α → α → Prop) (x x' : Except ε α) : Prop :=
  (∀ a, x = .ok a → ∃ a', x' = .ok a' ∧ R a a') ∧ ∀ a', x' = .ok a' → ∃ a, x = .ok a ∧ R a a'

theorem Matched.ok {R : α → α → Prop} {a a' : α} (h : R a a') :
    Matched R (.ok a : Except ε α) (.ok a') := by
  constructor
  · rintro b ⟨⟩
    exact ⟨a', rfl, h⟩
  · rintro b ⟨⟩
    exact ⟨a, rfl, h⟩

theorem Matched.error (R : α → α → Prop) (e e' : ε) :
    Matched R (.error e : Except ε α) (.error e') :=
  ⟨nofun, nofun⟩

end SheetQuery
