/-!
# Configuration documents

The data of a TOML document: scalars, arrays, and tables with keys in the order of their first use.
A table remembers how it came about, since that decides who may still add to it. A table under a
header may be opened once; one that only stands on the way to another may be opened later; one made
by dotted keys grows by dotted keys; one in braces is closed.
-/

namespace SheetQuery.Toml

/-- How a table came about: under a header, on the way to another header, by dotted keys, or in
braces. -/
inductive Origin where
  | header
  | passed
  | dotted
  | braces
  deriving DecidableEq, Repr

/-- A value of a document. An array grows when its elements stand under headers of their own. A
moment is kept as its text. -/
inductive Value where
  | text (s : String)
  | integer (i : Int)
  | float (x : Float)
  | boolean (b : Bool)
  | moment (s : String)
  | array (grows : Bool) (items : List Value)
  | table (origin : Origin) (entries : List (String × Value))

/-- The keys of a table with their values. -/
abbrev Entries := List (String × Value)

namespace Entries

/-- The value under a key. -/
def get? (key : String) (entries : Entries) : Option Value :=
  entries.lookup key

/-- Puts a value in the place of the one under the key, or behind the others. -/
def set (key : String) (value : Value) : Entries → Entries
  | [] => [(key, value)]
  | (k, v) :: rest => if k = key then (k, value) :: rest else (k, v) :: set key value rest

/-- Puts a value under a key that has none. -/
def add? (key : String) (value : Value) (entries : Entries) : Option Entries :=
  if (entries.get? key).isSome then none else some (entries ++ [(key, value)])

/-- Changes the last element of a growing array. -/
def changeLast? (change : Entries → Option Entries) (items : List Value) : Option Value :=
  match items.getLast? with
  | some (.table origin entries) =>
    (change entries).map fun changed => .array true (items.dropLast ++ [.table origin changed])
  | _ => none

/-- Changes the table at the end of a path of headers. Tables that are missing are made on the way,
and of a growing array the last element is meant. -/
def inside? (change : Entries → Option Entries) : List String → Entries → Option Entries
  | [], entries => change entries
  | key :: path, entries =>
    let changed : Option Value := match entries.get? key with
      | none => (inside? change path []).map (.table .passed)
      | some (.table .braces _) => none
      | some (.table origin inner) => (inside? change path inner).map (.table origin)
      | some (.array true items) => changeLast? (inside? change path) items
      | some _ => none
    changed.map fun value => entries.set key value

/-- Puts a value under a dotted key. The table before the last part belongs to dotted keys alone;
none on the way may stand under a header or in braces. -/
def assign? (key : String) (value : Value) : List String → Entries → Option Entries
  | [], entries => entries.add? key value
  | part :: path, entries =>
    let changed : Option Value := match entries.get? part with
      | none => (assign? key value path []).map (.table .dotted)
      | some (.table .dotted inner) => (assign? key value path inner).map (.table .dotted)
      | some (.table .passed inner) =>
        if path.isEmpty then none else (assign? key value path inner).map (.table .passed)
      | some (.array true items) =>
        if path.isEmpty then none else changeLast? (assign? key value path) items
      | some _ => none
    changed.map fun value => entries.set part value

/-- Opens a table under a header. -/
def openTable? (key : String) (entries : Entries) : Option Entries :=
  match entries.get? key with
  | none => some (entries ++ [(key, .table .header [])])
  | some (.table .passed inner) => some (entries.set key (.table .header inner))
  | some _ => none

/-- Opens a further element of a growing array under a header. -/
def openElement? (key : String) (entries : Entries) : Option Entries :=
  match entries.get? key with
  | none => some (entries ++ [(key, .array true [.table .header []])])
  | some (.array true items) => some (entries.set key (.array true (items ++ [.table .header []])))
  | some _ => none

end Entries

end SheetQuery.Toml
