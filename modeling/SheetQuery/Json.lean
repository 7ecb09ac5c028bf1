import SheetQuery.Decimal.Notation

/-!
# JSON documents

Documents as trees, and their text without any space in it. A number is whole when it was written
without point and exponent. Strings escape the quote, the backslash and the control characters below
the space; the common controls have their letter.
-/

namespace SheetQuery

/-- A JSON document. Objects keep their members in the order of the text. -/
inductive Json where
  | null
  | bool (b : Bool)
  | whole (i : Int)
  | decimal (x : Float)
  | string (s : String)
  | list (items : List Json)
  | object (members : List (String × Json))

instance : Inhabited Json := ⟨.null⟩

namespace Json

/-- The member of that name; the last one counts. -/
def member? (name : String) : Json → Option Json
  | .object members => (members.reverse.find? fun m => m.1 == name).map Prod.snd
  | _ => none

/-- Two hexadecimal digits. -/
def hexPair (n : Nat) : List Char :=
  [Nat.digitChar (n / 16), Nat.digitChar (n % 16)]

/-- One character inside a string. -/
def escapeChar (c : Char) : List Char :=
  if c = '"' then ['\\', '"']
  else if c = '\\' then ['\\', '\\']
  else if c = '\n' then ['\\', 'n']
  else if c = '\r' then ['\\', 'r']
  else if c = '\t' then ['\\', 't']
  else if c.toNat = 8 then ['\\', 'b']
  else if c.toNat = 12 then ['\\', 'f']
  else if c.toNat < 32 then ['\\', 'u', '0', '0'] ++ hexPair c.toNat
  else [c]

/-- A string with its quotes. -/
def stringChars (s : String) : List Char :=
  '"' :: s.toList.flatMap escapeChar ++ ['"']

mutual

/-- The text of a document. What is not a finite number is written as nothing. -/
def chars : Json → List Char
  | .null => ['n', 'u', 'l', 'l']
  | .bool b => if b then ['t', 'r', 'u', 'e'] else ['f', 'a', 'l', 's', 'e']
  | .whole i => Decimal.wholeText i
  | .decimal x => (Decimal.interchangeText? x).getD ['n', 'u', 'l', 'l']
  | .string s => stringChars s
  | .list items => '[' :: itemChars items ++ [']']
  | .object members => '\x7b' :: memberChars members ++ ['\x7d']

/-- List items with commas between them. -/
def itemChars : List Json → List Char
  | [] => []
  | [item] => chars item
  | item :: rest => chars item ++ ',' :: itemChars rest

/-- Members with commas between them. -/
def memberChars : List (String × Json) → List Char
  | [] => []
  | [(name, item)] => stringChars name ++ ':' :: chars item
  | (name, item) :: rest => stringChars name ++ ':' :: chars item ++ ',' :: memberChars rest

end

/-- The text of a document. -/
def text (j : Json) : String :=
  String.ofList j.chars

end Json

end SheetQuery
