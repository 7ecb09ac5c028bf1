import SheetQuery.Proofs.Decimal.Whole
import SheetQuery.Proofs.Sql.Ordering
import SheetQuery.Proofs.Value.Ranking

/-!
# How far the order of cells goes

Sorting takes the comparison of cells for an order. From the other side it is always turned around.
But what stands for less than a second value, which stands for less than a third, need not stand for
less than that one: a text is compared as a text with texts and as what it spells with all others,
whole numbers are compared exactly among each other and rounded with others, and values that have
nothing in common count as level. Three values without such a conflict are in one order.

Main statements: `compareCells_trans_or_isTangled` and `sortRows_pairwise`.
-/

namespace SheetQuery.Value

open Calendar Sql Decimal

/-- Three values that the comparison of cells can put in a circle. -/
inductive IsTangled : Value → Value → Value → Prop where
  /-- The second value is level with one of the others for want of an order between them. -/
  | unrelated {a b c : Value} (hb : b.isNull = false) (hac : compare a c ≠ none)
      (h : compare a b = none ∨ compare b c = none) : IsTangled a b c
  /-- Two texts are compared as texts, and with a number or a moment as what they spell. -/
  | spelled {a b c : Value} (h : [a, b, c].countP isText = 2) : IsTangled a b c
  /-- Two whole numbers are level where they are rounded to be compared with something else. -/
  | rounded {i j : Int64} {b : Value} (hb : ∀ k, b ≠ .int k) (hlt : j.toInt < i.toInt)
      (hlevel : compareFloat (ofWord i) (ofWord j) = some .eq) : IsTangled (.int i) b (.int j)

/-! ## The order of floating-point numbers -/

section Floats

open Float.Model

/-- The place of a number on the line: beyond, before or behind zero, or at zero, and then its
exponent and significand, which count down before zero. -/
def place : UnpackedFloat → Int × Int × Int
  | .infinity .negative => (-2, 0, 0)
  | .finite .negative m e _ => (-1, -e, -m)
  | .notANumber | .zero _ => (0, 0, 0)
  | .finite .positive m e _ => (1, e, m)
  | .infinity .positive => (2, 0, 0)

/-- Places one after the other. -/
def comparePlace : Int × Int × Int → Int × Int × Int → Ordering :=
  compareLex (compareOn Prod.fst)
    (compareLex (compareOn fun p => p.2.1) (compareOn fun p => p.2.2))

instance : Std.TransCmp comparePlace :=
  inferInstanceAs (Std.TransCmp (compareLex _ (compareLex _ _)))

theorem compare_neg (m n : Int) : Ord.compare (-m) (-n) = (Ord.compare m n).swap := by
  rw [← Std.OrientedCmp.eq_swap]
  rcases lt_trichotomy n m with h | rfl | h
  · rw [compare_lt_iff_lt.mpr h, compare_lt_iff_lt.mpr (neg_lt_neg h)]
  · rw [compare_eq_iff_eq.mpr rfl, compare_eq_iff_eq.mpr rfl]
  · rw [compare_gt_iff_gt.mpr h, compare_gt_iff_gt.mpr (neg_lt_neg h)]

theorem compare_natCast (m n : Nat) : Ord.compare (m : Int) n = Ord.compare m n := by
  rcases Nat.lt_trichotomy m n with h | rfl | h
  · rw [compare_lt_iff_lt.mpr h, compare_lt_iff_lt.mpr (by omega)]
  · rw [compare_eq_iff_eq.mpr rfl, compare_eq_iff_eq.mpr rfl]
  · rw [compare_gt_iff_gt.mpr h, compare_gt_iff_gt.mpr (by omega)]

/-- Numbers compare by their places. -/
theorem compareUnpacked_eq {a b : UnpackedFloat} (ha : a ≠ .notANumber) (hb : b ≠ .notANumber) :
    a.compare b = some (comparePlace (place a) (place b)) := by
  cases a with
  | notANumber => exact absurd rfl ha
  | infinity s =>
      cases s <;> cases b with
      | notANumber => exact absurd rfl hb
      | infinity r => cases r <;> rfl
      | zero r => rfl
      | finite r => cases r <;> rfl
  | zero s =>
      cases b with
      | notANumber => exact absurd rfl hb
      | infinity r => cases r <;> rfl
      | zero r => rfl
      | finite r => cases r <;> rfl
  | finite s m e h =>
      cases b with
      | notANumber => exact absurd rfl hb
      | infinity r => cases s <;> cases r <;> rfl
      | zero r => cases s <;> rfl
      | finite r m' e' h' =>
          cases s <;> cases r
          · show some ((Ord.compare e e').then (Ord.compare m m')).swap =
              some ((Ord.compare (-e) (-e')).then (Ord.compare (-(m : Int)) (-(m' : Int))))
            rw [compare_neg, compare_neg, compare_natCast, Ordering.swap_then]
          · rfl
          · rfl
          · show some ((Ord.compare e e').then (Ord.compare m m')) =
              some ((Ord.compare e e').then (Ord.compare (m : Int) (m' : Int)))
            rw [compare_natCast]

/-- Only what is a number is compared. -/
theorem ne_notANumber_of_compare {a b : UnpackedFloat} {o : Ordering} (h : a.compare b = some o) :
    a ≠ .notANumber ∧ b ≠ .notANumber := by
  constructor
  · rintro rfl
    cases h
  · rintro rfl
    cases a <;> cases h

theorem isLE_compareFloat_trans {x y z : Float} {o o' : Ordering} (h : compareFloat x y = some o)
    (ho : o.isLE = true) (h' : compareFloat y z = some o') (ho' : o'.isLE = true) :
    ∃ o'', compareFloat x z = some o'' ∧ o''.isLE = true := by
  rw [compareFloat_eq] at h h' ⊢
  obtain ⟨hx, hy⟩ := ne_notANumber_of_compare h
  obtain ⟨-, hz⟩ := ne_notANumber_of_compare h'
  rw [compareUnpacked_eq hx hy, Option.some.injEq] at h
  rw [compareUnpacked_eq hy hz, Option.some.injEq] at h'
  subst h h'
  exact ⟨_, compareUnpacked_eq hx hz, Std.TransCmp.isLE_trans ho ho'⟩

/-- Rounding words keeps their order. -/
theorem isLE_compareFloat_ofWord {i j : Int64} (h : i.toInt ≤ j.toInt) :
    ∃ o, compareFloat (ofWord i) (ofWord j) = some o ∧ o.isLE = true := by
  rw [compareFloat_eq]
  exact (isRounded_ofInt (natAbs_toInt_lt i)).isLE_compare (isRounded_ofInt (natAbs_toInt_lt j))
    (by exact_mod_cast h)

end Floats

/-! ## How two values compare -/

/-- The floating-point number that a number is taken for in a comparison, or a text spells. -/
inductive StandsFor : Value → Float → Prop where
  | int (i : Int64) : StandsFor (.int i) (ofWord i)
  | float (x : Float) : StandsFor (.float x) x
  | text {s : String} {x : Float} (h : toFloat (.text s) = .ok x) : StandsFor (.text s) x

/-- The moment that a value is, or that a text spells. -/
inductive Dates : Value → DateTime → Prop where
  | moment (t : DateTime) : Dates (.dateTime t) t
  | text {s : String} {t : DateTime} (h : toDateTime (.text s) = .ok t) : Dates (.text s) t

/-- What there is to compare two values by. -/
inductive Related : Value → Value → Ordering → Prop where
  | words (i j : Int64) : Related (.int i) (.int j) (compareWord i j)
  | texts (s t : String) : Related (.text s) (.text t) (compareText s t)
  | truths (p q : Bool) : Related (.bool p) (.bool q) (compareBool p q)
  | numbers {a b : Value} {x y : Float} {o : Ordering} (ha : StandsFor a x) (hb : StandsFor b y)
      (htexts : a.isText = false ∨ b.isText = false)
      (hwords : (∀ i, a ≠ .int i) ∨ ∀ j, b ≠ .int j) (h : compareFloat x y = some o) :
      Related a b o
  | moments {a b : Value} {t u : DateTime} (ha : Dates a t) (hb : Dates b u)
      (htexts : a.isText = false ∨ b.isText = false) : Related a b (t.compare u)

variable {a b c : Value} {o o' : Ordering}

theorem StandsFor.unique {x y : Float} (h : StandsFor a x) (h' : StandsFor a y) : x = y := by
  cases h with
  | int => cases h'; rfl
  | float => cases h'; rfl
  | text h =>
      cases h' with
      | text h' => exact Except.ok.inj (h.symm.trans h')

theorem Dates.unique {t u : DateTime} (h : Dates a t) (h' : Dates a u) : t = u := by
  cases h with
  | moment => cases h'; rfl
  | text h =>
      cases h' with
      | text h' => exact Except.ok.inj (h.symm.trans h')

/-- A text compares with a number if it spells one. -/
theorem related_textToNumber {s : String} {y : Float} (hb : StandsFor b y)
    (htext : b.isText = false) (h : compareTextToNumber s y = some o) : Related (.text s) b o := by
  unfold compareTextToNumber at h
  split at h
  · next x hx => exact .numbers (.text hx) hb (Or.inr htext) (Or.inl nofun) h
  · cases h

theorem related_textToMoment {s : String} {t : DateTime} (h : compareTextToMoment s t = some o) :
    Related (.text s) (.dateTime t) o := by
  unfold compareTextToMoment at h
  split at h
  · next u hu =>
      cases h
      exact .moments (.text hu) (.moment t) (Or.inr rfl)
  · cases h

theorem Related.swap (h : Related a b o) : Related b a o.swap := by
  cases h with
  | words i j =>
      have hswap : compareWord j i = (compareWord i j).swap := Std.OrientedCmp.eq_swap
      exact hswap ▸ .words j i
  | texts s t =>
      have hswap : compareText t s = (compareText s t).swap := Std.OrientedCmp.eq_swap
      exact hswap ▸ .texts t s
  | truths p q =>
      have hswap : compareBool q p = (compareBool p q).swap := Std.OrientedCmp.eq_swap
      exact hswap ▸ .truths q p
  | numbers ha hb htexts hwords h =>
      refine .numbers hb ha htexts.symm hwords.symm ?_
      rw [compareFloat_swap, h]
      rfl
  | @moments _ _ t u ha hb htexts =>
      have hswap : u.compare t = (t.compare u).swap := Std.OrientedCmp.eq_swap
      exact hswap ▸ .moments hb ha htexts.symm

/-- The other way round, where the comparison is defined by turning it around. -/
theorem related_of_map_swap {p : Option Ordering} (hp : ∀ o, p = some o → Related b a o)
    (h : p.map Ordering.swap = some o) : Related a b o := by
  obtain ⟨r, rfl, rfl⟩ := Option.map_eq_some_iff.mp h
  exact (hp r rfl).swap

/-- **Values that compare have something in common.** -/
theorem related_of_compare (h : compare a b = some o) : Related a b o := by
  cases a with
  | null => simp at h
  | record => cases b <;> cases h
  | bool p =>
      cases b with
      | bool q => cases h; exact .truths p q
      | _ => cases h
  | int i =>
      cases b with
      | int j => cases h; exact .words i j
      | float y => exact .numbers (.int i) (.float y) (Or.inl rfl) (Or.inr nofun) h
      | text s => exact related_of_map_swap (fun r => related_textToNumber (.int i) rfl) h
      | _ => cases h
  | float x =>
      cases b with
      | int j => exact .numbers (.float x) (.int j) (Or.inl rfl) (Or.inl nofun) h
      | float y => exact .numbers (.float x) (.float y) (Or.inl rfl) (Or.inl nofun) h
      | text s => exact related_of_map_swap (fun r => related_textToNumber (.float x) rfl) h
      | _ => cases h
  | text s =>
      cases b with
      | int j => exact related_textToNumber (.int j) rfl h
      | float y => exact related_textToNumber (.float y) rfl h
      | text t => cases h; exact .texts s t
      | dateTime t => exact related_textToMoment h
      | _ => cases h
  | dateTime t =>
      cases b with
      | dateTime u => cases h; exact .moments (.moment t) (.moment u) (Or.inl rfl)
      | text s => exact related_of_map_swap (fun r => related_textToMoment) h
      | _ => cases h

/-! ## Three values -/

theorem isLE_trans {α : Type} (cmp : α → α → Ordering) [Std.TransCmp cmp] {x y z : α}
    (h : (cmp x y).isLE = true) (h' : (cmp y z).isLE = true) : (cmp x z).isLE = true :=
  Std.TransCmp.isLE_trans h h'

@[simp] theorem isText_text (s : String) : (text s).isText = true :=
  rfl

instance : Std.TransCmp compareWord :=
  inferInstanceAs (Std.TransCmp (compareOn Int64.toInt))

instance : Std.TransCmp compareText :=
  inferInstanceAs (Std.TransCmp (Ord.compare : String → String → Ordering))

instance : Std.TransCmp compareBool where
  isLE_trans {a b c} := by cases a <;> cases b <;> cases c <;> decide

/-- Values that compare by numbers, of which the outer ones compare as well. -/
theorem isLE_of_numbers {x z : Float} {o'' : Ordering} (ha : StandsFor a x) (hc : StandsFor c z)
    (hle : ∃ r, compareFloat x z = some r ∧ r.isLE = true) (hac : Related a c o'')
    (htexts : a.isText = false ∨ c.isText = false)
    (hwords : ∀ i j, a = .int i → c = .int j → ∀ k, b ≠ .int k) :
    o''.isLE = true ∨ IsTangled a b c := by
  obtain ⟨r, hr, hrle⟩ := hle
  cases hac with
  | numbers ha' hc' _ _ h =>
      rw [ha'.unique ha, hc'.unique hc, hr] at h
      exact Or.inl (Option.some.inj h ▸ hrle)
  | words i j =>
      rcases Int.lt_or_le j.toInt i.toInt with hlt | hle
      · -- rounded, the one does not come before the other, and exactly it does not come behind
        obtain ⟨r', hr', hrle'⟩ := isLE_compareFloat_ofWord hlt.le
        cases ha
        cases hc
        have hswap : r' = r.swap := by
          rw [compareFloat_swap, hr] at hr'
          exact (Option.some.inj hr').symm
        have hlevel : r = .eq := by
          subst hswap
          cases r with
          | eq => rfl
          | lt => cases hrle'
          | gt => cases hrle
        exact Or.inr (.rounded (hwords i j rfl rfl) hlt (hlevel ▸ hr))
      · exact Or.inl (Std.isLE_compare.mpr hle)
  | texts s t => simp [isText] at htexts
  | truths p q => cases ha
  | moments ha' hc' htexts' =>
      cases ha <;> cases ha'
      cases hc <;> cases hc'
      simp [isText] at htexts

/-- What stands for a number and for a moment is a text. -/
theorem isText_of_standsFor_of_dates {x : Float} {t : DateTime} (h : StandsFor a x)
    (h' : Dates a t) : a.isText = true := by
  cases h <;> cases h'
  rfl

/-- A number and a moment have nothing in common. -/
theorem not_related_of_standsFor_of_dates {x : Float} {t : DateTime} (ha : StandsFor a x)
    (hc : Dates c t) (hta : a.isText = false) (htc : c.isText = false) : ¬ Related a c o := by
  intro h
  cases h with
  | words => cases hc
  | texts => cases hta
  | truths => cases ha
  | numbers _ hc' => simp [isText_of_standsFor_of_dates hc' hc] at htc
  | moments ha' => simp [isText_of_standsFor_of_dates ha ha'] at hta

theorem spelled_of_outer (ha : a.isText = true) (hb : b.isText = false) (hc : c.isText = true) :
    IsTangled a b c :=
  .spelled (by simp [ha, hb, hc])

/-- **What is not out of order with a second value, which is not with a third, is not with that
one**, or the three are tangled. -/
theorem Related.trans_or_isTangled {o'' : Ordering} (hab : Related a b o) (ho : o.isLE = true)
    (hbc : Related b c o') (ho' : o'.isLE = true) (hac : Related a c o'') :
    o''.isLE = true ∨ IsTangled a b c := by
  cases hab with
  | words i j =>
      cases hbc with
      | words _ k =>
          cases hac with
          | words => exact Or.inl (isLE_trans compareWord ho ho')
          | numbers _ _ _ hwords => simp at hwords
          | moments ha => cases ha
      | numbers hb hc htexts hwords h =>
          cases hb
          obtain ⟨r, hr, hrle⟩ := isLE_compareFloat_ofWord (Std.isLE_compare.mp ho)
          refine isLE_of_numbers (.int i) hc (isLE_compareFloat_trans hr hrle h ho') hac
            (Or.inl rfl) ?_
          rintro - l - rfl
          simp at hwords
      | moments hb => cases hb
  | texts s t =>
      cases hbc with
      | texts _ u =>
          cases hac with
          | texts => exact Or.inl (isLE_trans compareText ho ho')
          | numbers _ _ htexts => simp [isText] at htexts
          | moments _ _ htexts => simp [isText] at htexts
      | numbers _ _ htexts =>
          have hc := htexts.resolve_left nofun
          exact Or.inr (.spelled (by simp [List.countP_cons, hc]))
      | moments _ _ htexts =>
          have hc := htexts.resolve_left nofun
          exact Or.inr (.spelled (by simp [List.countP_cons, hc]))
  | truths p q =>
      cases hbc with
      | truths _ r =>
          cases hac with
          | truths => exact Or.inl (isLE_trans compareBool ho ho')
          | numbers ha => cases ha
          | moments ha => cases ha
      | numbers hb => cases hb
      | moments hb => cases hb
  | numbers ha hb htexts hwords h =>
      cases hbc with
      | words j k =>
          cases hb
          obtain ⟨r, hr, hrle⟩ := isLE_compareFloat_ofWord (Std.isLE_compare.mp ho')
          refine isLE_of_numbers ha (.int k) (isLE_compareFloat_trans h ho hr hrle) hac
            (Or.inr rfl) ?_
          rintro l - rfl
          simp at hwords
      | texts t u =>
          have hta := htexts.resolve_right nofun
          exact Or.inr (.spelled (by simp [List.countP_cons, hta]))
      | truths => cases hb
      | numbers hb' hc htexts' hwords' h' =>
          obtain rfl := hb'.unique hb
          by_cases houter : a.isText = false ∨ c.isText = false
          · refine isLE_of_numbers ha hc (isLE_compareFloat_trans h ho h' ho') hac houter ?_
            rintro l k rfl -
            simpa using hwords
          · simp only [not_or, Bool.not_eq_false] at houter
            exact Or.inr (spelled_of_outer houter.1
              (htexts.resolve_left (by simp [houter.1])) houter.2)
      | moments hb' hc htexts' =>
          have htb := isText_of_standsFor_of_dates hb hb'
          exact absurd hac (not_related_of_standsFor_of_dates ha hc
            (htexts.resolve_right (by simp [htb])) (htexts'.resolve_left (by simp [htb])))
  | moments ha hb htexts =>
      cases hbc with
      | words => cases hb
      | truths => cases hb
      | texts t u =>
          have hta := htexts.resolve_right nofun
          exact Or.inr (.spelled (by simp [List.countP_cons, hta]))
      | numbers hb' hc htexts' =>
          have htb := isText_of_standsFor_of_dates hb' hb
          exact absurd hac.swap (not_related_of_standsFor_of_dates hc ha
            (htexts'.resolve_left (by simp [htb])) (htexts.resolve_right (by simp [htb])))
      | moments hb' hc htexts' =>
          obtain rfl := hb'.unique hb
          cases hac with
          | words => cases ha
          | truths => cases ha
          | texts s u =>
              exact Or.inr (spelled_of_outer rfl (htexts.resolve_left nofun) rfl)
          | numbers ha' hc' htexts'' =>
              rw [isText_of_standsFor_of_dates ha' ha,
                isText_of_standsFor_of_dates hc' hc] at htexts''
              simp at htexts''
          | moments ha' hc' =>
              obtain rfl := ha'.unique ha
              obtain rfl := hc'.unique hc
              exact Or.inl (isLE_trans DateTime.compare ho ho')

/-- **How far the comparison of cells is an order.** It is turned around from the other side, and of
three values that are not tangled the first does not come behind the third, when it does not come
behind the second and this not behind the third. -/
theorem compareCells_trans_or_isTangled (a b c : Value) :
    compareCells b a = (compareCells a b).swap ∧
      (compareCells a b ≠ .gt → compareCells b c ≠ .gt →
        compareCells a c ≠ .gt ∨ IsTangled a b c) := by
  refine ⟨compareCells_swap a b, fun hab hbc => ?_⟩
  cases ha : a.isNull with
  | true =>
      refine Or.inl ?_
      unfold compareCells
      rw [ha]
      cases c.isNull <;> nofun
  | false =>
      cases hb : b.isNull with
      | true => simp [compareCells, ha, hb] at hab
      | false =>
          cases hc : c.isNull with
          | true => simp [compareCells, hb, hc] at hbc
          | false =>
              simp only [compareCells, ha, hb, hc, ne_eq, ← Ordering.isLE_iff_ne_gt] at hab hbc ⊢
              cases hout : compare a c with
              | none => exact Or.inl rfl
              | some o =>
                  have hout' : compare a c ≠ none := by simp [hout]
                  cases hfirst : compare a b with
                  | none => exact Or.inr (.unrelated hb hout' (Or.inl hfirst))
                  | some p =>
                      cases hsecond : compare b c with
                      | none => exact Or.inr (.unrelated hb hout' (Or.inr hsecond))
                      | some q =>
                          rw [hfirst] at hab
                          rw [hsecond] at hbc
                          exact (related_of_compare hfirst).trans_or_isTangled hab
                            (related_of_compare hsecond) hbc (related_of_compare hout)

/-- A number with a point between two whole numbers. -/
theorem compareCells_trans_or_isTangled_numbers :
    compareCells (.int 1) (.float 1.5) ≠ .gt ∧ compareCells (.float 1.5) (.int 2) ≠ .gt ∧
      (compareCells (.int 1) (.int 2) ≠ .gt ∨ IsTangled (.int 1) (.float 1.5) (.int 2)) :=
  ⟨by decide +kernel, by decide +kernel, (compareCells_trans_or_isTangled _ _ _).2
    (by decide +kernel) (by decide +kernel)⟩

/-- Each way of being tangled does close a circle: texts around a number, numbers around a truth
value, and the whole numbers around `2 ^ 53` as a number with a point. -/
theorem compareCells_circles :
    (compareCells (.text "10") (.text "9") ≠ .gt ∧ compareCells (.text "9") (.int 9) ≠ .gt ∧
        compareCells (.text "10") (.int 9) = .gt) ∧
      (compareCells (.int 2) (.bool true) ≠ .gt ∧ compareCells (.bool true) (.int 1) ≠ .gt ∧
        compareCells (.int 2) (.int 1) = .gt) ∧
      (compareCells (.int (2 ^ 53 + 1)) (.float (ofWord (2 ^ 53))) ≠ .gt ∧
        compareCells (.float (ofWord (2 ^ 53))) (.int (2 ^ 53)) ≠ .gt ∧
        compareCells (.int (2 ^ 53 + 1)) (.int (2 ^ 53)) = .gt) := by
  decide +kernel

/-- **Rows are sorted as far as no three cells of the column are tangled**, in either direction. -/
theorem sortRows_pairwise {i : Nat} {rows : List (List Value)}
    (h : ∀ x ∈ rows, ∀ y ∈ rows, ∀ z ∈ rows,
      ¬ IsTangled (cellAt x i) (cellAt y i) (cellAt z i)) (direction : Direction) :
    (sortRows i direction rows).Pairwise fun x y =>
      compareDirected direction (cellAt x i) (cellAt y i) ≠ .gt := by
  have hswap (a b : Value) :
      compareDirected direction b a = (compareDirected direction a b).swap := by
    cases direction with
    | ascending => exact compareCells_swap a b
    | descending => exact congrArg Ordering.swap (compareCells_swap a b)
  have hsorted : (sortRows i direction rows).Pairwise fun x y =>
      (x ∈ rows ∧ y ∈ rows) ∧ compareDirected direction (cellAt x i) (cellAt y i) ≠ .gt := by
    refine sortBy_pairwise _ (fun x hx y hy hlt => ⟨⟨hx, hy⟩, ?_⟩)
      (fun x hx y hy hge => ⟨⟨hy, hx⟩, ?_⟩) ?_
    · rw [eq_of_beq hlt]
      nofun
    · rw [hswap]
      intro hgt
      cases ho : compareDirected direction (cellAt x i) (cellAt y i) with
      | lt => simp [ho] at hge
      | eq => simp [ho] at hgt
      | gt => simp [ho] at hgt
    · rintro x y z ⟨⟨hx, hy⟩, hxy⟩ ⟨⟨-, hz⟩, hyz⟩
      refine ⟨⟨hx, hz⟩, ?_⟩
      cases direction with
      | ascending =>
          exact ((compareCells_trans_or_isTangled _ _ _).2 hxy hyz).resolve_right (h x hx y hy z hz)
      | descending =>
          -- the three from the other end
          rw [compareDirected, ← compareCells_swap] at hxy hyz ⊢
          exact ((compareCells_trans_or_isTangled _ _ _).2 hyz hxy).resolve_right (h z hz y hy x hx)
  exact hsorted.imp And.right

/-- A circle leaves a column unsorted: the text `"10"` belongs before the text `"9"`. -/
example : sortRows 0 .ascending [[.text "9"], [.int 9], [.text "10"]] =
    [[.text "9"], [.int 9], [.text "10"]] := by
  rfl

end SheetQuery.Value
