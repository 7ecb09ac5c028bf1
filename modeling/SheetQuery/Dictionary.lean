/-!
# Dictionaries in the order of their keys

Pairs of a key and a value, kept in the order of the keys, each key once. The order is that of the
characters' code points, and every listing of the dictionary shows it.
-/

namespace SheetQuery

/-- Pairs in the order of their keys. -/
abbrev Dictionary (α : Type) := List (String × α)

namespace Dictionary

variable {α : Type}

/-- Puts a value under a key, in place of an earlier one. -/
def insert (key : String) (value : α) : Dictionary α → Dictionary α
  | [] => [(key, value)]
  | (k, v) :: rest =>
    if key < k then (key, value) :: (k, v) :: rest
    else if key = k then (key, value) :: rest
    else (k, v) :: insert key value rest

/-- The value under a key. -/
def get? (key : String) (d : Dictionary α) : Option α :=
  d.lookup key

/-- The key has a value. -/
def has (key : String) (d : Dictionary α) : Bool :=
  (d.get? key).isSome

/-- The keys, in order. -/
def keys (d : Dictionary α) : List String :=
  d.map Prod.fst

end Dictionary

end SheetQuery
