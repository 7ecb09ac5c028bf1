import SheetQuery.Proofs.Outcome
import SheetQuery.Proofs.Text.Trimming
import SheetQuery.Sql.Parser

/-!
# What a text falls into

How the pieces that statements are written in come apart again. A piece is looked at together with
the characters that really follow it, so a word is never cut where it would have gone on. Every
token takes a character at least, so the bound on the number of tokens is never what ends a text;
from `ofChars?_token` on it is out of sight.

Main statements: what each kind of token does to the front of a text (`yields_word`, `yields_name`,
`yields_number` and the one-character tokens beside them).
-/

namespace SheetQuery.Sql

namespace Token

/-! ## The bound -/

theorem length_of_name? {s rest : List Char} {t : Token} (h : name? s = .ok (t, rest)) :
    rest.length ≤ s.length := by
  have hle := (List.dropWhile_suffix (l := s) (· != ']')).length_le
  unfold name? at h
  split at h
  · cases h
  · next heq =>
      cases h
      rw [heq, List.length_cons] at hle
      omega

theorem length_of_quotedText? {s inner rest : List Char}
    (h : quotedText? s = some (inner, rest)) : rest.length ≤ s.length := by
  induction s using quotedText?.induct generalizing inner with
  | case1 => cases h
  | case2 s ih =>
      -- two quotes stand for one
      obtain ⟨⟨i, r⟩, hr, heq⟩ := Option.map_eq_some_iff.mp h
      cases heq
      have := ih hr
      simp only [List.length_cons]
      omega
  | case3 s hne =>
      rw [quotedText?] at h
      · cases h
        simp
      · exact hne
  | case4 c s h₁ h₂ ih =>
      rw [quotedText?] at h
      · obtain ⟨⟨i, r⟩, hr, heq⟩ := Option.map_eq_some_iff.mp h
        cases heq
        have := ih hr
        simp only [List.length_cons]
        omega
      · exact h₁
      · exact h₂

theorem length_of_text? {s rest : List Char} {t : Token} (h : text? s = .ok (t, rest)) :
    rest.length ≤ s.length := by
  unfold text? at h
  split at h
  · next hq =>
      cases h
      exact length_of_quotedText? hq
  · cases h

theorem length_dropWhile_cons {p : Char → Bool} {c : Char} {s : List Char} (hc : p c = true) :
    ((c :: s).dropWhile p).length ≤ s.length := by
  rw [List.dropWhile_cons_of_pos hc]
  exact (List.dropWhile_suffix p).length_le

theorem isWordChar_of_isWordStart {c : Char} (h : isWordStart c = true) :
    isWordChar c = true := by
  simp only [isWordStart, isWordChar, Text.isLetterOrNumeral, Bool.or_eq_true] at h ⊢
  rcases h with h | h
  · exact Or.inl (Or.inl h)
  · exact Or.inr h

/-- A token takes one character at least. -/
theorem length_of_next? {c : Char} {s rest : List Char} {t : Token}
    (h : next? c s = .ok (t, rest)) : rest.length ≤ s.length := by
  unfold next? at h
  split at h
  · exact length_of_name? h
  · exact length_of_text? h
  all_goals try (cases h; simp)
  · split at h
    · next hd =>
        simp only [number?] at h
        split at h
        · cases h
          exact length_dropWhile_cons (by simp [isNumberChar, hd])
        · cases h
    · split at h
      · next hw =>
          cases h
          exact length_dropWhile_cons (isWordChar_of_isWordStart hw)
      · cases h

/-- The bound does not matter once it is long enough. By induction on the bound: a token leaves a
shorter text behind. -/
theorem listUpTo_eq {n m : Nat} {s : List Char} (hn : s.length ≤ n) (hm : s.length ≤ m) :
    listUpTo n s = listUpTo m s := by
  induction n generalizing m s with
  | zero =>
      obtain rfl : s = [] := List.length_eq_zero_iff.mp (by omega)
      cases m <;> rfl
  | succ n ih =>
      cases s with
      | nil => cases m <;> rfl
      | cons c s =>
          cases m with
          | zero => simp at hm
          | succ m =>
              simp only [List.length_cons] at hn hm
              have hstep : ∀ rest : List Char, rest.length ≤ s.length →
                  listUpTo n rest = listUpTo m rest :=
                fun rest hrest => ih (by omega) (by omega)
              simp only [listUpTo]
              split
              · exact hstep s (Nat.le_refl _)
              · cases hnext : next? c s with
                | error fault => rfl
                | ok found =>
                    simp only [bind, Except.bind, hstep found.2 (length_of_next? hnext)]

theorem ofChars?_blank {c : Char} {s : List Char} (hc : Text.isBlank c = true) :
    ofChars? (c :: s) = ofChars? s := by
  simp only [ofChars?, List.length_cons, listUpTo, if_pos hc]

theorem ofChars?_token {c : Char} {s rest : List Char} {t : Token}
    (hc : Text.isBlank c = false) (h : next? c s = .ok (t, rest)) :
    ofChars? (c :: s) = (ofChars? rest).map (t :: ·) := by
  simp only [ofChars?, List.length_cons, listUpTo, hc, Bool.false_eq_true, if_false, h]
  rw [ok_bind, listUpTo_eq (length_of_next? h) (Nat.le_refl _)]
  rfl

theorem ofChars?_error {c : Char} {s : List Char} {fault : Fault}
    (hc : Text.isBlank c = false) (h : next? c s = .error fault) :
    ofChars? (c :: s) = .error fault := by
  simp only [ofChars?, List.length_cons, listUpTo, hc, Bool.false_eq_true, if_false, h]
  rfl

end Token

/-! ## Pieces of a text -/

open Token

/-- The text starts with those tokens, and what they leave behind is the rest. -/
def Yields (s : List Char) (tokens : List Token) (rest : List Char) : Prop :=
  ofChars? s = (ofChars? rest).map (tokens ++ ·)

theorem Yields.refl (s : List Char) : Yields s [] s := by
  unfold Yields
  cases ofChars? s <;> rfl

/-- Pieces come apart one after the other. -/
theorem Yields.trans {s middle rest : List Char} {ts us : List Token} (h : Yields s ts middle)
    (h' : Yields middle us rest) : Yields s (ts ++ us) rest := by
  unfold Yields at h h' ⊢
  rw [h, h']
  cases ofChars? rest with
  | error fault => rfl
  | ok tokens => simp [Except.map]

theorem Yields.ofChars?_eq {s : List Char} {tokens : List Token} (h : Yields s tokens []) :
    ofChars? s = .ok tokens := by
  unfold Yields at h
  rw [h]
  simp [ofChars?, listUpTo, Except.map]

theorem yields_blank (rest : List Char) : Yields (' ' :: rest) [] rest := by
  unfold Yields
  rw [ofChars?_blank (by decide)]
  exact Yields.refl rest

theorem yields_of_next? {c : Char} {s rest : List Char} {t : Token}
    (hc : Text.isBlank c = false) (h : next? c s = .ok (t, rest)) : Yields (c :: s) [t] rest :=
  ofChars?_token hc h

theorem yields_opening (rest : List Char) : Yields ('(' :: rest) [.opening] rest :=
  yields_of_next? (by decide) rfl

theorem yields_closing (rest : List Char) : Yields (')' :: rest) [.closing] rest :=
  yields_of_next? (by decide) rfl

theorem yields_star (rest : List Char) : Yields ('*' :: rest) [.star] rest :=
  yields_of_next? (by decide) rfl

theorem yields_placeholder (rest : List Char) : Yields ('?' :: rest) [.placeholder] rest :=
  yields_of_next? (by decide) rfl

/-- A sign is read whole where a blank follows. -/
theorem yields_comparison (op : Comparison) (rest : List Char) :
    Yields (op.symbol.toList ++ ' ' :: rest) [.comparison op] rest := by
  have hsign : Yields (op.symbol.toList ++ ' ' :: rest) [.comparison op] (' ' :: rest) := by
    cases op <;> exact yields_of_next? (by decide) rfl
  exact hsign.trans (yields_blank rest)

theorem yields_emptyText {rest : List Char} (h : rest.head? ≠ some '\'') :
    Yields ('\'' :: '\'' :: rest) [.text []] rest := by
  refine yields_of_next? (by decide) ?_
  cases rest with
  | nil => rfl
  | cons c rest =>
      have hc : c ≠ '\'' := fun hc => h (congrArg some hc)
      simp [next?, text?, quotedText?, hc]

/-- A run of characters of one kind is over before the rest. -/
def Ends (p : Char → Bool) (rest : List Char) : Prop :=
  ∀ c ∈ rest.head?, p c = false

theorem ends_nil (p : Char → Bool) : Ends p [] := by
  intro c hc
  cases hc

theorem ends_cons {p : Char → Bool} {c : Char} {rest : List Char} (h : p c = false) :
    Ends p (c :: rest) := by
  intro d hd
  cases hd
  exact h

theorem takeWhile_append {p : Char → Bool} {run rest : List Char} (hrun : ∀ c ∈ run, p c = true)
    (hrest : Ends p rest) : (run ++ rest).takeWhile p = run := by
  rw [List.takeWhile_append_of_pos hrun]
  cases rest with
  | nil => simp
  | cons c rest => simp [hrest c rfl]

theorem dropWhile_append {p : Char → Bool} {run rest : List Char} (hrun : ∀ c ∈ run, p c = true)
    (hrest : Ends p rest) : (run ++ rest).dropWhile p = rest := by
  rw [List.dropWhile_append_of_pos hrun]
  cases rest with
  | nil => simp
  | cons c rest => simp [hrest c rfl]

/-- A name ends at the first closing bracket. -/
theorem yields_name {name : String} (h : ']' ∉ name.toList) (rest : List Char) :
    Yields (bracketed name ++ rest) [.name name.toList] rest := by
  have hrun : ∀ c ∈ name.toList, (c != ']') = true := by
    intro c hc
    have hne : c ≠ ']' := fun heq => h (heq ▸ hc)
    simp [hne]
  have hend : Ends (· != ']') (']' :: rest) := ends_cons (by decide)
  have hname : name? (name.toList ++ ']' :: rest) = .ok (.name name.toList, rest) := by
    simp only [name?, takeWhile_append hrun hend, dropWhile_append hrun hend]
  simp only [bracketed, List.cons_append, List.append_assoc]
  exact yields_of_next? (by decide) hname

/-! ## Words -/

/-- A word in ASCII capitals. -/
def IsCapitals (word : List Char) : Prop :=
  word ≠ [] ∧ ∀ c ∈ word, c.isUpper = true

instance (word : List Char) : Decidable (IsCapitals word) :=
  decidable_of_iff (word.isEmpty = false ∧ word.all Char.isUpper = true) (by simp [IsCapitals])

theorem toNat_of_isUpper {c : Char} (h : c.isUpper = true) : 65 ≤ c.toNat ∧ c.toNat ≤ 90 := by
  have hvalue : 'A'.val ≤ c.val ∧ c.val ≤ 'Z'.val := of_decide_eq_true h
  exact ⟨UInt32.le_iff_toNat_le.mp hvalue.1, UInt32.le_iff_toNat_le.mp hvalue.2⟩

theorem isBlank_of_isUpper {c : Char} (h : c.isUpper = true) : Text.isBlank c = false := by
  obtain ⟨hlow, hhigh⟩ := toNat_of_isUpper h
  simp [Text.isBlank]
  omega

theorem isWordStart_of_isUpper {c : Char} (h : c.isUpper = true) : isWordStart c = true := by
  have hascii : c.toNat < 0x80 := by
    have := toNat_of_isUpper h
    omega
  have halpha : c.isAlpha = true := by
    show (c.isUpper || c.isLower) = true
    rw [h, Bool.true_or]
  simp [isWordStart, Text.isLetter, hascii, halpha]

theorem not_isDigit_of_isUpper {c : Char} (h : c.isUpper = true) : c.isDigit = false := by
  cases hd : c.isDigit with
  | false => rfl
  | true =>
      have hupper := toNat_of_isUpper h
      have hdigit := Text.toNat_of_isDigit hd
      omega

/-- A capital starts a word: it is none of the characters with a meaning of their own. -/
theorem next?_of_isUpper {c : Char} (h : c.isUpper = true) (rest : List Char) :
    next? c rest = .ok (splitWord (c :: rest)) := by
  have hne : ∀ d : Char, d.isUpper = false → c ≠ d := by
    rintro d hd rfl
    rw [h] at hd
    cases hd
  unfold next?
  split
  -- the last case is that of all characters without a meaning of their own
  case h_13 =>
    rw [if_neg (by simp [not_isDigit_of_isUpper h]), if_pos (isWordStart_of_isUpper h)]
  all_goals exact absurd rfl (hne _ (by decide))

/-- A word goes on to the first character that no word has. -/
theorem yields_word {word : List Char} {rest : List Char} (hword : IsCapitals word)
    (hrest : Ends isWordChar rest) : Yields (word ++ rest) [.word word] rest := by
  obtain ⟨hne, hupper⟩ := hword
  obtain ⟨c, word, rfl⟩ := List.exists_cons_of_ne_nil hne
  have hchars : ∀ d ∈ c :: word, isWordChar d = true := fun d hd =>
    isWordChar_of_isWordStart (isWordStart_of_isUpper (hupper d hd))
  have hc : c.isUpper = true := hupper c List.mem_cons_self
  refine yields_of_next? (s := word ++ rest) (isBlank_of_isUpper hc) ?_
  rw [next?_of_isUpper hc, ← List.cons_append, splitWord, takeWhile_append hchars hrest,
    dropWhile_append hchars hrest]

/-! ## Numbers -/

theorem next?_of_isDigit {c : Char} (h : c.isDigit = true) (rest : List Char) :
    next? c rest = number? (c :: rest) := by
  have hne : ∀ d : Char, d.isDigit = false → c ≠ d := by
    rintro d hd rfl
    rw [h] at hd
    cases hd
  unfold next?
  split
  case h_13 => rw [if_pos h]
  all_goals exact absurd rfl (hne _ (by decide))

theorem isNumberChar_of_isDigit {c : Char} (h : c.isDigit = true) : isNumberChar c = true := by
  rw [isNumberChar, h, Bool.true_or]

theorem splitSign_of_isNumberChar {s : List Char} (h : ∀ c ∈ s, isNumberChar c = true) :
    Decimal.splitSign s = (false, s) := by
  unfold Decimal.splitSign
  split
  · exact absurd (h '-' List.mem_cons_self) (by decide)
  · exact absurd (h '+' List.mem_cons_self) (by decide)
  · rfl

theorem readWord?_digits (n : Nat) :
    Decimal.readWord? (Decimal.digits n) = Decimal.word? n := by
  have hdigits : ∀ c ∈ Decimal.digits n, c.isDigit = true := fun c hc =>
    Nat.isDigit_of_mem_toDigits (by decide) (by decide) hc
  have hsign := splitSign_of_isNumberChar fun c hc => isNumberChar_of_isDigit (hdigits c hc)
  simp [Decimal.readWord?, Decimal.readWhole?, hsign, Decimal.readDigits?_digits]

/-- The digits of a number that fits a word stand for that word. -/
theorem numberValue?_digits {n : Nat} (hn : n < 2 ^ 63) :
    numberValue? (Decimal.digits n) = some (.int (Int64.ofNat n)) := by
  have hword : Decimal.word? n = some (Int64.ofNat n) := by
    rw [Decimal.word?, if_pos]
    · rfl
    · have hmin : Int64.minValue.toInt = -2 ^ 63 := by decide
      have hmax : Int64.maxValue.toInt = 2 ^ 63 - 1 := by decide
      omega
  rw [numberValue?, readWord?_digits, hword]

/-- Digits that stand for a word are those of a number that fits one. -/
theorem lt_of_numberValue?_digits {n : Nat} {w : Int64}
    (h : numberValue? (Decimal.digits n) = some (.int w)) : n < 2 ^ 63 := by
  rw [numberValue?, readWord?_digits] at h
  split at h
  · next i hword =>
      have hi := Decimal.toInt_of_word? hword
      have hmax := Int64.toInt_le i
      have hvalue : Int64.maxValue.toInt = 2 ^ 63 - 1 := by decide
      omega
  · obtain ⟨x, -, hx⟩ := Option.map_eq_some_iff.mp h
    cases hx

/-- Digits are read up to the first character that is in no number. -/
theorem ofChars?_digits (n : Nat) {rest : List Char} (hrest : Ends isNumberChar rest) :
    ofChars? (Decimal.digits n ++ rest) =
      match numberValue? (Decimal.digits n) with
      | some value => (ofChars? rest).map (.number value :: ·)
      | none => .error (.invalidNumber (String.ofList (Decimal.digits n))) := by
  have hdigits : ∀ c ∈ Decimal.digits n, c.isDigit = true := fun c hc =>
    Nat.isDigit_of_mem_toDigits (by decide) (by decide) hc
  have hchars : ∀ c ∈ Decimal.digits n, isNumberChar c = true := fun c hc =>
    isNumberChar_of_isDigit (hdigits c hc)
  have hnumber := takeWhile_append hchars hrest
  have hbehind := dropWhile_append hchars hrest
  -- there is a first digit, by which the number is recognized
  obtain ⟨c, digits, heq⟩ := List.exists_cons_of_ne_nil (Nat.toDigits_ne_nil (n := n) (b := 10))
  have hc : c.isDigit = true := hdigits c (by simp [Decimal.digits, heq])
  rw [Decimal.digits, heq, List.cons_append] at hnumber hbehind ⊢
  split
  · next value hvalue =>
      refine ofChars?_token (Text.isBlank_of_isDigit hc) ?_
      simp only [next?_of_isDigit hc, number?, hnumber, hbehind, hvalue]
  · next hvalue =>
      refine ofChars?_error (Text.isBlank_of_isDigit hc) ?_
      simp only [next?_of_isDigit hc, number?, hnumber, hvalue]

/-- A number that fits a word is read as that number. -/
theorem yields_number {n : Nat} (hn : n < 2 ^ 63) {rest : List Char}
    (hrest : Ends isNumberChar rest) :
    Yields (Decimal.digits n ++ rest) [.number (.int (Int64.ofNat n))] rest := by
  rw [Yields, ofChars?_digits n hrest, numberValue?_digits hn]
  rfl

/-- Without a sign in front, a whole number is not negative. -/
theorem nonneg_of_numberValue? {s : List Char} (hs : ∀ c ∈ s, isNumberChar c = true) {w : Int64}
    (h : numberValue? s = some (.int w)) : 0 ≤ w.toInt := by
  unfold numberValue? Decimal.readWord? Decimal.readWhole? at h
  rw [splitSign_of_isNumberChar hs] at h
  split at h
  · next i hi =>
      cases h
      obtain ⟨i, hread, hword⟩ := Option.bind_eq_some_iff.mp hi
      obtain ⟨_, hdigits, rfl⟩ := Option.map_eq_some_iff.mp hread
      obtain ⟨n, -, hn⟩ := Option.bind_eq_some_iff.mp hdigits
      cases hn
      rw [Decimal.toInt_of_word? hword]
      exact Int.natCast_nonneg n
  · obtain ⟨x, -, hx⟩ := Option.map_eq_some_iff.mp h
    cases hx

theorem nonneg_of_next? {c : Char} {s rest : List Char} {w : Int64}
    (h : next? c s = .ok (.number (.int w), rest)) : 0 ≤ w.toInt := by
  unfold next? at h
  split at h
  · unfold name? at h
    split at h <;> cases h
  · unfold text? at h
    split at h <;> cases h
  all_goals try cases h
  split at h
  · simp only [number?] at h
    split at h
    · next value hvalue =>
        cases h
        exact nonneg_of_numberValue? (fun d hd => List.mem_takeWhile_imp hd) hvalue
    · cases h
  · split at h <;> cases h

theorem nonneg_of_listUpTo {n : Nat} {s : List Char} {tokens : List Token} {w : Int64}
    (h : listUpTo n s = .ok tokens) (hw : .number (.int w) ∈ tokens) : 0 ≤ w.toInt := by
  induction n generalizing s tokens with
  | zero =>
      cases h
      cases hw
  | succ n ih =>
      cases s with
      | nil =>
          cases h
          cases hw
      | cons c s =>
          unfold listUpTo at h
          split at h
          · exact ih h hw
          · obtain ⟨⟨t, rest⟩, ht, h⟩ := bind_eq_ok_iff.mp h
            obtain ⟨more, hmore, h⟩ := bind_eq_ok_iff.mp h
            cases h
            rcases List.mem_cons.mp hw with rfl | hw
            · exact nonneg_of_next? ht
            · exact ih hmore hw

/-- No whole number of a text is negative, as numbers have no sign. -/
theorem nonneg_of_ofChars? {s : List Char} {tokens : List Token} (h : ofChars? s = .ok tokens)
    {w : Int64} (hw : .number (.int w) ∈ tokens) : 0 ≤ w.toInt :=
  nonneg_of_listUpTo h hw

end SheetQuery.Sql
