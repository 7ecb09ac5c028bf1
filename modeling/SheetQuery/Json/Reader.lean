import SheetQuery.Json.Number

/-!
# Reading JSON documents

A recursive reader over the characters of a text. The fuel counts nested readings and is the length
of the text, which every nested reading shortens, so it never runs out on a text that is a document.
-/

namespace SheetQuery.Json

/-- The white space of documents. -/
def skipSpace (s : List Char) : List Char :=
  s.dropWhile fun c => c == ' ' || c == '\n' || c == '\r' || c == '\t'

/-- The value of a hexadecimal digit. -/
def hexValue? (c : Char) : Option Nat :=
  if '0' ≤ c ∧ c ≤ '9' then some (c.toNat - '0'.toNat)
  else if 'a' ≤ c ∧ c ≤ 'f' then some (c.toNat - 'a'.toNat + 10)
  else if 'A' ≤ c ∧ c ≤ 'F' then some (c.toNat - 'A'.toNat + 10)
  else none

/-- Four hexadecimal digits at the front. -/
def readHex4? : List Char → Option (Nat × List Char)
  | a :: b :: c :: d :: rest => do
    let a ← hexValue? a
    let b ← hexValue? b
    let c ← hexValue? c
    let d ← hexValue? d
    return (a * 4096 + b * 256 + c * 16 + d, rest)
  | _ => none

/-- The character that a backslash and a letter stand for. -/
def unescape? (c : Char) : Option Char :=
  match c with
  | '"' => some '"'
  | '\\' => some '\\'
  | '/' => some '/'
  | 'b' => some (Char.ofNat 8)
  | 'f' => some (Char.ofNat 12)
  | 'n' => some '\n'
  | 'r' => some '\r'
  | 't' => some '\t'
  | _ => none

/-- A character given by its code; the two halves of a pair make one character. -/
def readCode? (s : List Char) : Option (Char × List Char) := do
  let (n, rest) ← readHex4? s
  if 0xD800 ≤ n ∧ n < 0xDC00 then
    match rest with
    | '\\' :: 'u' :: tail => do
      let (m, rest) ← readHex4? tail
      if 0xDC00 ≤ m ∧ m < 0xE000 then
        return (Char.ofNat (0x10000 + (n - 0xD800) * 1024 + (m - 0xDC00)), rest)
      else none
    | _ => none
  else return (Char.ofNat n, rest)

/-- The characters of a string after its opening quote, and what follows the closing one. The
characters read so far stand in reverse. -/
def readString? : Nat → List Char → List Char → Option (String × List Char)
  | 0, _, _ => none
  | fuel + 1, done, s =>
    match s with
    | '"' :: rest => some (String.ofList done.reverse, rest)
    | '\\' :: 'u' :: rest =>
      (readCode? rest).bind fun (c, rest) => readString? fuel (c :: done) rest
    | '\\' :: c :: rest => (unescape? c).bind fun c => readString? fuel (c :: done) rest
    | c :: rest => readString? fuel (c :: done) rest
    | [] => none

/-- The rest after a word at the front. -/
def readWord? (word : List Char) (s : List Char) : Option (List Char) :=
  if word.isPrefixOf s then some (s.drop word.length) else none

mutual

/-- A document at the front of a text. -/
def readValue? : Nat → List Char → Option (Json × List Char)
  | 0, _ => none
  | fuel + 1, s =>
    match skipSpace s with
    | '"' :: rest => (readString? fuel [] rest).map fun (t, rest) => (.string t, rest)
    | '[' :: rest =>
      match skipSpace rest with
      | ']' :: rest => some (.list [], rest)
      | rest => (readItems? fuel [] rest).map fun (items, rest) => (.list items, rest)
    | '\x7b' :: rest =>
      match skipSpace rest with
      | '\x7d' :: rest => some (.object [], rest)
      | rest => (readMembers? fuel [] rest).map fun (members, rest) => (.object members, rest)
    | 'n' :: rest => (readWord? ['u', 'l', 'l'] rest).map fun rest => (.null, rest)
    | 't' :: rest => (readWord? ['r', 'u', 'e'] rest).map fun rest => (.bool true, rest)
    | 'f' :: rest => (readWord? ['a', 'l', 's', 'e'] rest).map fun rest => (.bool false, rest)
    | s => readNumber? s

/-- List items up to the closing bracket; those read so far stand in reverse. -/
def readItems? : Nat → List Json → List Char → Option (List Json × List Char)
  | 0, _, _ => none
  | fuel + 1, done, s =>
    (readValue? fuel s).bind fun (item, rest) =>
      match skipSpace rest with
      | ',' :: rest => readItems? fuel (item :: done) rest
      | ']' :: rest => some ((item :: done).reverse, rest)
      | _ => none

/-- Members up to the closing brace; those read so far stand in reverse. -/
def readMembers? : Nat → List (String × Json) → List Char →
    Option (List (String × Json) × List Char)
  | 0, _, _ => none
  | fuel + 1, done, s =>
    match skipSpace s with
    | '"' :: rest =>
      (readString? fuel [] rest).bind fun (name, rest) =>
        match skipSpace rest with
        | ':' :: rest =>
          (readValue? fuel rest).bind fun (item, rest) =>
            match skipSpace rest with
            | ',' :: rest => readMembers? fuel ((name, item) :: done) rest
            | '\x7d' :: rest => some (((name, item) :: done).reverse, rest)
            | _ => none
        | _ => none
    | _ => none

end

/-- The document that a text holds, with nothing but white space around it. -/
def read? (text : String) : Option Json :=
  let s := text.toList
  (readValue? (s.length + 2) s).bind fun (j, rest) =>
    if (skipSpace rest).isEmpty then some j else none

end SheetQuery.Json
