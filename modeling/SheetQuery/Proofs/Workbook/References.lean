import Mathlib.Tactic.Ring
import SheetQuery.Proofs.Workbook.Listing
import SheetQuery.Source

/-!
# References of cells

A reference such as `AB12` has the letters of a column and the digits of a row. Letters are the
digits of the column in a numeral without a zero: from 1 for `A` over 26 for `Z` to 27 for `AA`,
small letters as capital ones. What the check on ranges lets through, with a row from 1 on, names
the cell in that row and column; with a row of zeros it names none. Machine words are enough to read
it with.

Main statements: `CellPosition.read?_eq_of_isCellReference` and
`CellPosition.readIn?_of_isCellReference`.
-/

namespace SheetQuery.CellPosition

/-! ## Numerals -/

/-- The number that signs stand for in a base, each by its rank; the first one counts most. -/
def numeral (base : Nat) (rank : Char → Nat) : List Char → Nat
  | [] => 0
  | c :: rest => rank c * base ^ rest.length + numeral base rank rest

/-- The place of a letter in the alphabet, counted from 1. -/
def letterRank (c : Char) : Nat :=
  "ABCDEFGHIJKLMNOPQRSTUVWXYZ".toList.idxOf c.toUpper + 1

/-- The value of a digit. -/
def digitRank (c : Char) : Nat :=
  "0123456789".toList.idxOf c

/-- The number of the column that a reference names, counted from 1. -/
def columnRank (reference : List Char) : Nat :=
  numeral 26 letterRank (reference.takeWhile Char.isAlpha)

/-- The number of the row that a reference names, counted from 1. -/
def rowRank (reference : List Char) : Nat :=
  numeral 10 digitRank (reference.dropWhile Char.isAlpha)

variable {base : Nat} {rank rank' : Char → Nat} {s : List Char}

theorem numeral_congr (h : ∀ c ∈ s, rank c = rank' c) :
    numeral base rank s = numeral base rank' s := by
  induction s with
  | nil => rfl
  | cons c rest ih =>
      obtain ⟨hc, hrest⟩ := List.forall_mem_cons.mp h
      rw [numeral, numeral, hc, ih hrest]

/-- Reading sign by sign goes through the numerals of what has been read. -/
theorem foldl_eq_numeral (base : Nat) (rank : Char → Nat) (s : List Char) (n : Nat) :
    s.foldl (fun n c => base * n + rank c) n =
      n * base ^ s.length + numeral base rank s := by
  induction s generalizing n with
  | nil => simp [numeral]
  | cons c rest ih =>
      rw [List.foldl_cons, ih, numeral, List.length_cons, pow_succ]
      ring

theorem numeral_lt (h : ∀ c ∈ s, rank c < base) : numeral base rank s < base ^ s.length := by
  induction s with
  | nil => simp [numeral]
  | cons c rest ih =>
      obtain ⟨hc, hrest⟩ := List.forall_mem_cons.mp h
      calc numeral base rank (c :: rest)
          < rank c * base ^ rest.length + base ^ rest.length := by
            rw [numeral]
            exact Nat.add_lt_add_left (ih hrest) _
        _ = (rank c + 1) * base ^ rest.length := by ring
        _ ≤ base * base ^ rest.length := Nat.mul_le_mul_right _ hc
        _ = base ^ (c :: rest).length := by rw [List.length_cons, pow_succ, Nat.mul_comm]

/-! ## Letters and digits -/

/-- A fact about the first characters is one about all letters and digits. -/
theorem forall_of_lt {p : Char → Prop} (h : ∀ n < 128, p (Char.ofNat n)) {c : Char}
    (hc : c.isAlphanum = true) : p c := by
  have hlt : c.toNat < 128 := by
    have hlast : ∃ last, c.val ≤ last ∧ last.toNat < 128 := by
      rcases Bool.or_eq_true_iff.mp hc with halpha | hdigit
      · rcases Bool.or_eq_true_iff.mp halpha with hupper | hlower
        · exact ⟨'Z'.val, (of_decide_eq_true hupper).2, by decide⟩
        · exact ⟨'z'.val, of_decide_eq_true (Bool.and_eq_true_iff.mp hlower).2, by decide⟩
      · exact ⟨'9'.val, of_decide_eq_true (Bool.and_eq_true_iff.mp hdigit).2, by decide⟩
    obtain ⟨last, hle, hlast⟩ := hlast
    exact lt_of_le_of_lt (UInt32.le_iff_toNat_le.mp hle) hlast
  have hself := h c.toNat hlt
  rwa [Char.ofNat_toNat] at hself

theorem letterValue_toUpper {c : Char} (h : c.isAlpha = true) :
    letterValue c.toUpper = letterRank c :=
  forall_of_lt (p := fun c => c.isAlpha = true → letterValue c.toUpper = letterRank c) (by decide)
    (by simp [Char.isAlphanum, h]) h

theorem isDigit_of_isAlpha {c : Char} (h : c.isAlpha = true) : c.isDigit = false :=
  forall_of_lt (p := fun c => c.isAlpha = true → c.isDigit = false) (by decide)
    (by simp [Char.isAlphanum, h]) h

theorem digitRank_eq {c : Char} (h : c.isDigit = true) : c.toNat - '0'.toNat = digitRank c :=
  forall_of_lt (p := fun c => c.isDigit = true → c.toNat - '0'.toNat = digitRank c) (by decide)
    (by simp [Char.isAlphanum, h]) h

theorem digitRank_lt {c : Char} (h : c.isDigit = true) : digitRank c < 10 :=
  forall_of_lt (p := fun c => c.isDigit = true → digitRank c < 10) (by decide)
    (by simp [Char.isAlphanum, h]) h

/-- The number of a column counts its letters, capital or small. -/
theorem columnNumber_upperAscii (h : ∀ c ∈ s, c.isAlpha = true) :
    columnNumber (Text.upperAscii s) = numeral 26 letterRank s := by
  have hfold := foldl_eq_numeral 26 (fun c => letterValue c.toUpper) s 0
  rw [Nat.zero_mul, Nat.zero_add, numeral_congr fun c hc => letterValue_toUpper (h c hc)] at hfold
  rw [columnNumber, Text.upperAscii, List.foldl_map, ← hfold]
  simp only [Nat.mul_comm]

theorem ofDigitChars_eq (h : ∀ c ∈ s, c.isDigit = true) :
    Nat.ofDigitChars 10 s 0 = numeral 10 digitRank s := by
  have hfold := foldl_eq_numeral 10 (fun c => c.toNat - '0'.toNat) s 0
  rw [Nat.zero_mul, Nat.zero_add, numeral_congr fun c hc => digitRank_eq (h c hc)] at hfold
  exact hfold

/-! ## Accepted references -/

/-- An accepted reference is letters and then digits, and there are few of either. -/
theorem parts_of_isCellReference (h : isCellReference s = true) :
    ∃ letters digits, s = letters ++ digits ∧ letters ≠ [] ∧ digits ≠ [] ∧
      (∀ c ∈ letters, c.isAlpha = true) ∧ (∀ c ∈ digits, c.isDigit = true) ∧
      letters.length ≤ 3 ∧ digits.length ≤ 7 := by
  simp only [isCellReference, Bool.and_eq_true, decide_eq_true_eq, List.all_eq_true] at h
  obtain ⟨⟨⟨⟨hletters, hshort⟩, hdigits⟩, hshort'⟩, hall⟩ := h
  refine ⟨s.takeWhile Char.isAlpha, s.dropWhile Char.isAlpha, List.takeWhile_append_dropWhile.symm,
    List.ne_nil_of_length_pos hletters, List.ne_nil_of_length_pos hdigits,
    fun c hc => List.mem_takeWhile_imp hc, hall, hshort, hshort'⟩

/-- It has no other signs. -/
theorem notMem_of_isCellReference (h : isCellReference s = true) {c : Char}
    (hc : c.isAlphanum = false) : c ∉ s := by
  obtain ⟨letters, digits, rfl, -, -, halpha, hdigit, -⟩ := parts_of_isCellReference h
  rw [Char.isAlphanum, Bool.or_eq_false_iff] at hc
  rw [List.mem_append]
  rintro (hmem | hmem)
  · exact absurd ((halpha c hmem).symm.trans hc.1) (by decide)
  · exact absurd ((hdigit c hmem).symm.trans hc.2) (by decide)

/-- Letters with digits behind them are cut between the two, by either kind. -/
theorem cut_append {p : Char → Bool} {letters digits : List Char}
    (hletters : ∀ c ∈ letters, p c = true) (hdigits : ∀ c ∈ digits, p c = false)
    (hne : digits ≠ []) :
    (letters ++ digits).takeWhile p = letters ∧ (letters ++ digits).dropWhile p = digits := by
  obtain ⟨first, rest, rfl⟩ := List.exists_cons_of_ne_nil hne
  have hfirst := hdigits first List.mem_cons_self
  rw [List.takeWhile_append_of_pos hletters, List.dropWhile_append_of_pos hletters]
  simp [hfirst]

/-- The letters and the digits of an accepted reference are told apart by the digits as well, which
stand for its row. -/
theorem cut_of_isCellReference (h : isCellReference s = true) :
    ∃ letters digits, s.takeWhile (!·.isDigit) = letters ∧ s.dropWhile (!·.isDigit) = digits ∧
      letters ≠ [] ∧ letters.length ≤ 3 ∧ (∀ c ∈ letters, c.isAlpha = true) ∧ digits ≠ [] ∧
      columnRank s = numeral 26 letterRank letters ∧
      Decimal.readDigits? digits = some (rowRank s) ∧ rowRank s < 10 ^ 7 := by
  obtain ⟨letters, digits, rfl, hletters, hdigits, halpha, hdigit, hshort, hshort'⟩ :=
    parts_of_isCellReference h
  have hnotAlpha : ∀ c ∈ digits, c.isAlpha = false := by
    intro c hc
    by_contra hcontra
    rw [Bool.not_eq_false] at hcontra
    exact absurd ((hdigit c hc).symm.trans (isDigit_of_isAlpha hcontra)) (by decide)
  have hnotDigit : ∀ c ∈ letters, (!c.isDigit) = true := by
    intro c hc
    rw [isDigit_of_isAlpha (halpha c hc)]
    rfl
  have hdigit' : ∀ c ∈ digits, (!c.isDigit) = false := by
    intro c hc
    rw [hdigit c hc]
    rfl
  obtain ⟨htake, hdrop⟩ := cut_append halpha hnotAlpha hdigits
  obtain ⟨htake', hdrop'⟩ := cut_append hnotDigit hdigit' hdigits
  have hread : Decimal.readDigits? digits = some (numeral 10 digitRank digits) := by
    rw [Decimal.readDigits?, if_neg (by simpa [hdigits] using hdigit), ofDigitChars_eq hdigit]
  have hbound : numeral 10 digitRank digits < 10 ^ 7 :=
    calc numeral 10 digitRank digits
        < 10 ^ digits.length := numeral_lt fun c hc => digitRank_lt (hdigit c hc)
      _ ≤ 10 ^ 7 := Nat.pow_le_pow_right (by decide) hshort'
  rw [rowRank, hdrop, columnRank, htake]
  exact ⟨letters, digits, htake', hdrop', hletters, hshort, halpha, hdigits, rfl, hread, hbound⟩

/-- **An accepted reference is read exactly where its row is from 1 on**, and then as the position
of the cell in its row and column. -/
theorem read?_eq_of_isCellReference (h : isCellReference s = true) :
    read? s = if 1 ≤ rowRank s then some ⟨rowRank s - 1, columnRank s - 1⟩ else none := by
  obtain ⟨letters, digits, htake, hdrop, hletters, -, halpha, -, hcolumn, hread, hbound⟩ :=
    cut_of_isCellReference h
  have hgood : ¬(letters.isEmpty || !letters.all Char.isAlpha) = true := by
    simpa [hletters] using halpha
  have hfits : rowRank s < rowLimit := hbound.trans (by decide)
  unfold read?
  simp only [htake, hdrop, if_neg hgood, hread, columnNumber_upperAscii halpha, ← hcolumn, hfits,
    and_true]

/-- **An accepted reference names its cell**: with a row from 1 on it is read as the position of the
cell in its row and column. -/
theorem read?_of_isCellReference (h : isCellReference s = true) (hrow : 1 ≤ rowRank s) :
    read? s = some ⟨rowRank s - 1, columnRank s - 1⟩ := by
  rw [read?_eq_of_isCellReference h, if_pos hrow]

example : read? "aB12".toList = some ⟨11, 27⟩ := by decide

/-- The columns of accepted references count from 1. -/
theorem one_le_columnRank (h : isCellReference s = true) : 1 ≤ columnRank s := by
  simp only [isCellReference, Bool.and_eq_true, decide_eq_true_eq] at h
  obtain ⟨c, rest, hletters⟩ := List.exists_cons_of_length_pos h.1.1.1.1
  rw [columnRank, hletters, numeral, letterRank]
  have hpos : 0 < 26 ^ rest.length := Nat.pow_pos (by decide)
  calc 1 ≤ 26 ^ rest.length := hpos
    _ ≤ (_ + 1) * 26 ^ rest.length := Nat.le_mul_of_pos_left _ (Nat.succ_pos _)
    _ ≤ _ := Nat.le_add_right _ _

/-! ## Words -/

/-- One letter more behind a number, in words below a limit. There is no number where the step leaves
them: where the letter comes before `A`, or is worth more than a byte, or the sum is too great. -/
def letterStep? (limit n : Nat) (c : Char) : Option Nat :=
  if 'A'.toNat ≤ c.toNat ∧ letterValue c < 256 ∧ n * 26 + letterValue c < limit then
    some (n * 26 + letterValue c)
  else none

/-- The number of a column in words below a limit. -/
def columnIn? (limit : Nat) (letters : List Char) : Option Nat :=
  letters.foldlM (letterStep? limit) 0

/-- Reading a reference in words below a limit: none where a step leaves the words, which is the end
of all reading, else what is read. -/
def readIn? (limit : Nat) (s : List Char) : Option (Option CellPosition) :=
  let letters := s.takeWhile (!·.isDigit)
  let digits := s.dropWhile (!·.isDigit)
  if digits.isEmpty || letters.isEmpty || !letters.all Char.isAlpha then some none
  else (columnIn? limit (Text.upperAscii letters)).bind fun column =>
    match Decimal.readDigits? digits with
    | some row =>
      if 1 ≤ row ∧ row < limit then
        if 1 ≤ column then some (some ⟨row - 1, column - 1⟩) else none
      else some none
    | none => some none

/-- What letters are worth is at most what as many of the last one are. -/
theorem numeral_le (h : ∀ c ∈ s, rank c ≤ 26) : 25 * numeral 26 rank s + 26 ≤ 26 ^ (s.length + 1) := by
  induction s with
  | nil => simp [numeral]
  | cons c rest ih =>
      obtain ⟨hc, hrest⟩ := List.forall_mem_cons.mp h
      have hfirst : rank c * 26 ^ rest.length ≤ 26 * 26 ^ rest.length := Nat.mul_le_mul_right _ hc
      have hrest := ih hrest
      rw [numeral, List.length_cons, pow_succ, pow_succ] at *
      omega

theorem letterRank_le {c : Char} (h : c.isAlpha = true) : letterRank c ≤ 26 :=
  forall_of_lt (p := fun c => c.isAlpha = true → letterRank c ≤ 26) (by decide)
    (by simp [Char.isAlphanum, h]) h

theorem le_toNat_toUpper {c : Char} (h : c.isAlpha = true) : 'A'.toNat ≤ c.toUpper.toNat :=
  forall_of_lt (p := fun c => c.isAlpha = true → 'A'.toNat ≤ c.toUpper.toNat) (by decide)
    (by simp [Char.isAlphanum, h]) h

/-- No step leaves the words where the last number is one of them: the numbers on the way grow
towards it. -/
theorem foldlM_letterStep? {limit n : Nat} (h : ∀ c ∈ s, c.isAlpha = true)
    (hn : n * 26 ^ s.length + numeral 26 letterRank s < limit) :
    (Text.upperAscii s).foldlM (letterStep? limit) n =
      some (n * 26 ^ s.length + numeral 26 letterRank s) := by
  induction s generalizing n with
  | nil => simp [Text.upperAscii, numeral]
  | cons c rest ih =>
      obtain ⟨hc, hrest⟩ := List.forall_mem_cons.mp h
      have hrank := letterRank_le hc
      have hsplit : n * 26 ^ (c :: rest).length + numeral 26 letterRank (c :: rest) =
          (n * 26 + letterRank c) * 26 ^ rest.length + numeral 26 letterRank rest := by
        rw [numeral, List.length_cons, pow_succ]
        ring
      rw [hsplit] at hn ⊢
      have hfits : n * 26 + letterRank c < limit :=
        calc n * 26 + letterRank c
            ≤ (n * 26 + letterRank c) * 26 ^ rest.length :=
              Nat.le_mul_of_pos_right _ (Nat.pow_pos (by decide))
          _ ≤ _ := Nat.le_add_right _ _
          _ < limit := hn
      have hstep : letterStep? limit n c.toUpper = some (n * 26 + letterRank c) := by
        rw [letterStep?, letterValue_toUpper hc, if_pos ⟨le_toNat_toUpper hc, by omega, hfits⟩]
      rw [Text.upperAscii, List.map_cons, List.foldlM_cons, hstep]
      exact ih hrest hn

theorem columnIn?_upperAscii {limit : Nat} (h : ∀ c ∈ s, c.isAlpha = true)
    (hlimit : numeral 26 letterRank s < limit) :
    columnIn? limit (Text.upperAscii s) = some (numeral 26 letterRank s) := by
  have hfold := foldlM_letterStep? (n := 0) h (by rwa [Nat.zero_mul, Nat.zero_add])
  rwa [Nat.zero_mul, Nat.zero_add] at hfold

/-- **Reading an accepted reference stays within words**, down to words of three bytes: whatever its
letters and digits are, no step leaves them, and what is read is what is read without a limit. -/
theorem readIn?_of_isCellReference {limit : Nat} (h : isCellReference s = true)
    (hlimit : 10 ^ 7 ≤ limit) : readIn? limit s = some (read? s) := by
  have hone := one_le_columnRank h
  have heq := read?_eq_of_isCellReference h
  obtain ⟨letters, digits, htake, hdrop, hletters, hshort, halpha, hdigits, hcolumn, hread, hbound⟩ :=
    cut_of_isCellReference h
  have hgood : ¬(digits.isEmpty || letters.isEmpty || !letters.all Char.isAlpha) = true := by
    simpa [hletters, hdigits] using halpha
  have hfits : numeral 26 letterRank letters < limit := by
    have hle : 25 * numeral 26 letterRank letters + 26 ≤ 26 ^ (letters.length + 1) :=
      numeral_le fun c hc => letterRank_le (halpha c hc)
    have hpow : 26 ^ (letters.length + 1) ≤ 26 ^ 4 := Nat.pow_le_pow_right (by decide) (by omega)
    omega
  have hrow : rowRank s < limit := hbound.trans_le hlimit
  unfold readIn?
  simp only [htake, hdrop, if_neg hgood, columnIn?_upperAscii halpha hfits, Option.bind_some, hread,
    ← hcolumn, hrow, and_true, hone, if_true, heq]
  split <;> rfl

end SheetQuery.CellPosition
