import Mathlib.Data.List.Infix
import SheetQuery.Sql.Like

/-!
# What patterns stand for

A pattern stands for the texts that come from it when some text is put in the place of each percent
sign. To find out whether a text is one of them the search goes through the pieces of the pattern
once: the first has to come first, each one between is taken where it is found first, and the last
has to end what is left. It never goes back, and misses nothing by that: where a piece is found
first, most of the text is left, and whatever another place of the piece leaves is the end of it.

Main statements: `Sql.fits_iff_standsFor`, and `Sql.standsFor_cons_wildcard_iff` and
`Sql.standsFor_concat_wildcard_iff` for a percent sign at an end.
-/

namespace SheetQuery

namespace Text

/-! ## First occurrences -/

/-- What is found follows the part somewhere in the text. -/
theorem exists_append_of_afterFirst? {part s rest : List Char} (h : afterFirst? part s = some rest) :
    ∃ gap, s = gap ++ (part ++ rest) := by
  induction s with
  | nil =>
      rw [afterFirst?] at h
      split at h
      · next hempty =>
          cases h
          exact ⟨[], by rw [List.isEmpty_iff.mp hempty]; rfl⟩
      · cases h
  | cons c s ih =>
      rw [afterFirst?] at h
      split at h
      · next hstart =>
          cases h
          obtain ⟨after, hafter⟩ := List.isPrefixOf_iff_prefix.mp hstart
          exact ⟨[], by rw [← hafter, List.drop_left, List.nil_append]⟩
      · obtain ⟨gap, rfl⟩ := ih h
        exact ⟨c :: gap, rfl⟩

/-- **The first occurrence leaves the most**: what follows the part in another place is the end of
what follows it in the first one. -/
theorem exists_afterFirst?_append (gap part rest : List Char) :
    ∃ after, afterFirst? part (gap ++ (part ++ rest)) = some after ∧ rest <:+ after := by
  induction gap with
  | nil =>
      refine ⟨rest, ?_, List.suffix_rfl⟩
      rw [List.nil_append]
      cases htext : part ++ rest with
      | nil =>
          obtain ⟨rfl, rfl⟩ := List.append_eq_nil_iff.mp htext
          rfl
      | cons c s =>
          have hstart : part.isPrefixOf (c :: s) = true := by
            rw [List.isPrefixOf_iff_prefix, ← htext]
            exact List.prefix_append part rest
          rw [afterFirst?, if_pos hstart, ← htext, List.drop_left]
  | cons c gap ih =>
      rw [List.cons_append, afterFirst?]
      split
      · -- the part is found before the gap is through
        refine ⟨_, rfl, ?_⟩
        have hrest : rest <:+ c :: (gap ++ (part ++ rest)) :=
          ⟨c :: (gap ++ part), by rw [List.cons_append, List.append_assoc]⟩
        refine List.suffix_of_suffix_length_le hrest (List.drop_suffix _ _) ?_
        simp only [List.length_drop, List.length_cons, List.length_append]
        omega
      · exact ih

theorem splitOn_ne_nil (separator : Char) (s : List Char) : splitOn separator s ≠ [] := by
  cases s with
  | nil => exact List.cons_ne_nil _ _
  | cons c s =>
      rw [splitOn]
      split
      · exact List.cons_ne_nil _ _
      · split <;> exact List.cons_ne_nil _ _

end Text

namespace Sql

/-- **The pattern stands for the text**: the text is the pattern with some text, the empty one
included, in place of each percent sign, and every other character stands for itself. -/
inductive StandsFor : List Char → List Char → Prop where
  | nil : StandsFor [] []
  | char {c : Char} {pattern s : List Char} (hc : c ≠ wildcard) (h : StandsFor pattern s) :
      StandsFor (c :: pattern) (c :: s)
  | any (gap : List Char) {pattern s : List Char} (h : StandsFor pattern s) :
      StandsFor (wildcard :: pattern) (gap ++ s)

/-- The text goes through the pieces in order, from its start to its end, with any text between two
of them. -/
def GoesThrough : List (List Char) → List Char → Prop
  | [], _ => False
  | [piece], s => s = piece
  | piece :: pieces, s => ∃ gap rest, s = piece ++ (gap ++ rest) ∧ GoesThrough pieces rest

theorem goesThrough_cons_iff {piece : List Char} {pieces : List (List Char)} (h : pieces ≠ [])
    {s : List Char} : GoesThrough (piece :: pieces) s ↔
      ∃ gap rest, s = piece ++ (gap ++ rest) ∧ GoesThrough pieces rest := by
  cases pieces with
  | nil => exact absurd rfl h
  | cons second pieces => rfl

/-- A piece that is longer by its first character. -/
theorem goesThrough_cons_char_iff {c : Char} {piece : List Char} {pieces : List (List Char)}
    {s : List Char} : GoesThrough ((c :: piece) :: pieces) s ↔
      ∃ rest, s = c :: rest ∧ GoesThrough (piece :: pieces) rest := by
  cases pieces with
  | nil => exact ⟨fun h => ⟨piece, h, rfl⟩, fun ⟨rest, hs, hrest⟩ => hs.trans (congrArg _ hrest)⟩
  | cons second pieces =>
      constructor
      · rintro ⟨gap, rest, rfl, hrest⟩
        exact ⟨piece ++ (gap ++ rest), rfl, gap, rest, rfl, hrest⟩
      · rintro ⟨after, rfl, gap, rest, rfl, hrest⟩
        exact ⟨gap, rest, rfl, hrest⟩

/-- A pattern stands for the texts that go through its pieces. By induction on the pattern, which
starts a piece with each percent sign and makes the piece in front longer with any other character.
-/
theorem standsFor_iff_goesThrough {pattern s : List Char} :
    StandsFor pattern s ↔ GoesThrough (Text.splitOn wildcard pattern) s := by
  induction pattern generalizing s with
  | nil =>
      constructor
      · rintro ⟨⟩
        rfl
      · rintro rfl
        exact .nil
  | cons c pattern ih =>
      have hpieces := Text.splitOn_ne_nil wildcard pattern
      rw [Text.splitOn]
      cases hsplit : Text.splitOn wildcard pattern with
      | nil => exact absurd hsplit hpieces
      | cons piece pieces =>
          rw [hsplit] at ih
          dsimp only
          split
          · next hwildcard =>
              subst hwildcard
              rw [goesThrough_cons_iff (List.cons_ne_nil _ _)]
              constructor
              · rintro (_ | ⟨hc, -⟩ | ⟨gap, h⟩)
                · exact absurd rfl hc
                · exact ⟨gap, _, rfl, ih.mp h⟩
              · rintro ⟨gap, rest, rfl, hrest⟩
                exact .any gap (ih.mpr hrest)
          · next hchar =>
              rw [goesThrough_cons_char_iff]
              constructor
              · rintro (_ | ⟨-, h⟩ | ⟨gap, h⟩)
                · exact ⟨_, rfl, ih.mp h⟩
                · exact absurd rfl hchar
              · rintro ⟨rest, rfl, hrest⟩
                exact .char hchar (ih.mpr hrest)

/-! ## Searching -/

/-- The pieces behind the first are found one after the other exactly where the text goes through
them from some place on. -/
theorem endsThrough_iff {pieces : List (List Char)} (h : pieces ≠ []) {s : List Char} :
    endsThrough pieces s = true ↔ ∃ gap rest, s = gap ++ rest ∧ GoesThrough pieces rest := by
  induction pieces generalizing s with
  | nil => exact absurd rfl h
  | cons piece pieces ih =>
      cases pieces with
      | nil =>
          rw [endsThrough, List.isSuffixOf_iff_suffix]
          constructor
          · rintro ⟨gap, rfl⟩
            exact ⟨gap, piece, rfl, rfl⟩
          · rintro ⟨gap, rest, rfl, rfl⟩
            exact List.suffix_append gap rest
      | cons second pieces =>
          have hsome : second :: pieces ≠ [] := List.cons_ne_nil _ _
          simp only [endsThrough]
          constructor
          · intro hfound
            split at hfound
            · next rest hrest =>
                obtain ⟨gap, rfl⟩ := Text.exists_append_of_afterFirst? hrest
                obtain ⟨gap', rest', rfl, hthrough⟩ := (ih hsome).mp hfound
                exact ⟨gap, _, rfl, gap', rest', rfl, hthrough⟩
            · cases hfound
          · rintro ⟨gap, rest, rfl, gap', rest', rfl, hthrough⟩
            -- the piece may be found earlier, which only leaves a longer gap behind it
            obtain ⟨after, hafter, ⟨more, rfl⟩⟩ :=
              Text.exists_afterFirst?_append gap piece (gap' ++ rest')
            rw [hafter]
            exact (ih hsome).mpr ⟨more ++ gap', rest', by rw [List.append_assoc], hthrough⟩

/-- **The search through the pieces misses nothing.** -/
theorem fitsPieces_iff {pieces : List (List Char)} {s : List Char} :
    fitsPieces s pieces = true ↔ GoesThrough pieces s := by
  cases pieces with
  | nil => exact ⟨nofun, nofun⟩
  | cons first pieces =>
      cases pieces with
      | nil => exact beq_iff_eq
      | cons second pieces =>
          have hsome : second :: pieces ≠ [] := List.cons_ne_nil _ _
          simp only [fitsPieces, Text.afterPrefix?]
          constructor
          · intro hfits
            split at hfits
            · next rest hrest =>
                split at hrest
                · next hstart =>
                    cases hrest
                    obtain ⟨after, rfl⟩ := List.isPrefixOf_iff_prefix.mp hstart
                    rw [List.drop_left] at hfits
                    obtain ⟨gap, rest, rfl, hthrough⟩ := (endsThrough_iff hsome).mp hfits
                    exact ⟨gap, rest, rfl, hthrough⟩
                · cases hrest
            · cases hfits
          · rintro ⟨gap, rest, rfl, hthrough⟩
            rw [if_pos (List.isPrefixOf_iff_prefix.mpr (List.prefix_append first _)),
              List.drop_left]
            exact (endsThrough_iff hsome).mpr ⟨gap, rest, rfl, hthrough⟩

theorem fitsPieces_splitOn_iff {pattern s : List Char} :
    fitsPieces s (Text.splitOn wildcard pattern) = true ↔ StandsFor pattern s :=
  fitsPieces_iff.trans standsFor_iff_goesThrough.symm

/-- **A text fits a pattern exactly when the pattern stands for it**, both in small letters. -/
theorem fits_iff_standsFor (s pattern : List Char) :
    fits s pattern = true ↔ StandsFor (Text.lower pattern) (Text.lower s) :=
  fitsPieces_splitOn_iff

/-- What comes before a percent sign and what comes behind it may not share text. -/
example : fits "aba".toList "AB%ba".toList = false ∧ fits "abba".toList "AB%ba".toList = true := by
  decide +kernel

/-! ## Percent signs at the ends -/

variable {pattern s : List Char}

/-- Without percent signs a pattern stands for itself alone. -/
theorem standsFor_iff_eq (h : wildcard ∉ pattern) : StandsFor pattern s ↔ s = pattern := by
  induction pattern generalizing s with
  | nil =>
      constructor
      · rintro ⟨⟩
        rfl
      · rintro rfl
        exact .nil
  | cons c pattern ih =>
      rw [List.mem_cons, not_or] at h
      constructor
      · rintro (_ | ⟨-, hrest⟩ | ⟨gap, hrest⟩)
        · rw [(ih h.2).mp hrest]
        · exact absurd rfl h.1
      · rintro rfl
        exact .char (Ne.symm h.1) ((ih h.2).mpr rfl)

/-- A percent sign in front: the pattern behind it stands for the end of the text. -/
theorem standsFor_cons_wildcard_iff :
    StandsFor (wildcard :: pattern) s ↔ ∃ part, StandsFor pattern part ∧ part <:+ s := by
  constructor
  · rintro (_ | ⟨hc, -⟩ | ⟨gap, h⟩)
    · exact absurd rfl hc
    · exact ⟨_, h, List.suffix_append _ _⟩
  · rintro ⟨part, h, ⟨gap, rfl⟩⟩
    exact .any gap h

/-- A percent sign at the end: the pattern before it stands for the start of the text. -/
theorem standsFor_concat_wildcard_iff :
    StandsFor (pattern ++ [wildcard]) s ↔ ∃ part, StandsFor pattern part ∧ part <+: s := by
  induction pattern generalizing s with
  | nil =>
      rw [List.nil_append, standsFor_cons_wildcard_iff]
      exact ⟨fun _ => ⟨[], .nil, List.nil_prefix⟩, fun _ => ⟨[], .nil, List.nil_suffix⟩⟩
  | cons c pattern ih =>
      rw [List.cons_append]
      constructor
      · rintro (_ | ⟨hc, h⟩ | ⟨gap, h⟩)
        · obtain ⟨part, hpart, after, rfl⟩ := ih.mp h
          exact ⟨c :: part, .char hc hpart, after, rfl⟩
        · obtain ⟨part, hpart, after, rfl⟩ := ih.mp h
          exact ⟨gap ++ part, .any gap hpart, after, List.append_assoc ..⟩
      · rintro ⟨part, hpart, after, rfl⟩
        rcases hpart with _ | ⟨hc, hpart⟩ | ⟨gap, hpart⟩
        · exact .char hc (ih.mpr ⟨_, hpart, after, rfl⟩)
        · rw [List.append_assoc]
          exact .any gap (ih.mpr ⟨_, hpart, after, rfl⟩)

end Sql

end SheetQuery
