/-!
# Ranges of code points

A character property is a sorted list of inclusive code-point ranges. The table modules beside this
one each hold one property of the Unicode standard in that form.
-/

namespace SheetQuery.Text

/-- Inclusive ranges of code points. -/
abbrev CodeRanges := List (Nat × Nat)

/-- Whether some range holds the character. -/
def CodeRanges.has (ranges : CodeRanges) (c : Char) : Bool :=
  ranges.any fun range => range.1 ≤ c.toNat && c.toNat ≤ range.2

end SheetQuery.Text
