/-!
# Texts and keys of documents

A text stands in double quotes with escapes or in single quotes without; three quotes in a row open
a text of several lines. A key is a bare word or a text of one line, and a dotted key is a path of
keys. Each reader gives what it read with the rest of the document, or nothing.
-/

namespace SheetQuery.Toml

/-- A space or a tab. -/
def isGap (c : Char) : Bool :=
  c == ' ' || c == '\t'

/-- A control character other than the tab; line ends are among them. -/
def isControl (c : Char) : Bool :=
  (c.toNat < 0x20 && c != '\t') || c.toNat == 0x7F

/-- The document behind spaces and tabs. -/
def skipGap (s : List Char) : List Char :=
  s.dropWhile isGap

/-- The document behind gaps, line ends and comments; the flag tells that it starts inside a
comment. -/
def skipTrivia (inComment : Bool) : List Char → List Char
  | [] => []
  | '\r' :: '\n' :: rest => skipTrivia false rest
  | c :: rest =>
    if c == '\n' then skipTrivia false rest
    else if inComment then
      if isControl c then c :: rest else skipTrivia true rest
    else if c == '#' then skipTrivia true rest
    else if isGap c then skipTrivia false rest
    else c :: rest

/-- The document behind a line end; the end of the document is one. -/
def lineEnd? : List Char → Option (List Char)
  | [] => some []
  | '\n' :: rest => some rest
  | '\r' :: '\n' :: rest => some rest
  | _ => none

/-- The document behind the line, of which only a comment may be left. -/
def endLine? (s : List Char) : Option (List Char) :=
  match skipGap s with
  | '#' :: rest => lineEnd? (rest.dropWhile (!isControl ·))
  | rest => lineEnd? rest

/-! ## Escapes -/

/-- The value of a hexadecimal digit. -/
def hexValue? (c : Char) : Option Nat :=
  if c.isDigit then some (c.toNat - '0'.toNat)
  else if 'a' ≤ c ∧ c ≤ 'f' then some (c.toNat - 'a'.toNat + 10)
  else if 'A' ≤ c ∧ c ≤ 'F' then some (c.toNat - 'A'.toNat + 10)
  else none

/-- The character whose number the digits are. -/
def hexChar? (digits : List Char) : Option Char := do
  let values ← digits.mapM hexValue?
  let n := values.foldl (fun n d => n * 16 + d) 0
  if n.isValidChar then some (Char.ofNat n) else none

/-- The character that `count` digits stand for, and the rest. -/
def hexEscape? (count : Nat) (s : List Char) : Option (Char × List Char) :=
  if s.length < count then none else (hexChar? (s.take count)).map (·, s.drop count)

/-- The character that an escape stands for, behind its backslash, and the rest. -/
def escape? : List Char → Option (Char × List Char)
  | 'b' :: rest => some ('\x08', rest)
  | 't' :: rest => some ('\t', rest)
  | 'n' :: rest => some ('\n', rest)
  | 'f' :: rest => some ('\x0c', rest)
  | 'r' :: rest => some ('\r', rest)
  | 'e' :: rest => some ('\x1b', rest)
  | '"' :: rest => some ('"', rest)
  | '\\' :: rest => some ('\\', rest)
  | 'x' :: rest => hexEscape? 2 rest
  | 'u' :: rest => hexEscape? 4 rest
  | 'U' :: rest => hexEscape? 8 rest
  | _ => none

/-- The document behind gaps and line ends. -/
def skipFold : List Char → List Char
  | [] => []
  | '\r' :: '\n' :: rest => skipFold rest
  | c :: rest => if c == '\n' || isGap c then skipFold rest else c :: rest

/-- The rest behind a backslash that ends its line: all gaps and line ends are passed over. -/
def foldedLine? (s : List Char) : Option (List Char) :=
  match skipGap s with
  | '\n' :: rest => some (skipFold rest)
  | '\r' :: '\n' :: rest => some (skipFold rest)
  | _ => none

/-! ## Texts -/

/-- Puts a character in front of what was read. -/
def prepend (c : Char) (read : Option (List Char × List Char)) : Option (List Char × List Char) :=
  read.map fun (inner, rest) => (c :: inner, rest)

/-- A text in double quotes of at most `n` characters, behind its opening quote. -/
def escapedText? : Nat → List Char → Option (List Char × List Char)
  | 0, _ => none
  | _ + 1, [] => none
  | _ + 1, '"' :: rest => some ([], rest)
  | n + 1, '\\' :: rest => do
    let (c, rest) ← escape? rest
    prepend c (escapedText? n rest)
  | n + 1, c :: rest => if isControl c then none else prepend c (escapedText? n rest)

/-- A text of several lines in double quotes, behind its opening quotes. Up to two quotes may stand
before the closing ones. -/
def escapedLines? : Nat → List Char → Option (List Char × List Char)
  | 0, _ => none
  | _ + 1, [] => none
  | _ + 1, '"' :: '"' :: '"' :: '"' :: '"' :: rest => some (['"', '"'], rest)
  | _ + 1, '"' :: '"' :: '"' :: '"' :: rest => some (['"'], rest)
  | _ + 1, '"' :: '"' :: '"' :: rest => some ([], rest)
  | n + 1, '\\' :: rest =>
    match foldedLine? rest with
    | some rest => escapedLines? n rest
    | none => do
      let (c, rest) ← escape? rest
      prepend c (escapedLines? n rest)
  | n + 1, '\r' :: '\n' :: rest => prepend '\r' (prepend '\n' (escapedLines? n rest))
  | n + 1, c :: rest =>
    if isControl c && c != '\n' then none else prepend c (escapedLines? n rest)

/-- A text in single quotes, behind its opening quote. -/
def rawText? : List Char → Option (List Char × List Char)
  | [] => none
  | '\'' :: rest => some ([], rest)
  | c :: rest => if isControl c then none else prepend c (rawText? rest)

/-- A text of several lines in single quotes, behind its opening quotes. -/
def rawLines? : List Char → Option (List Char × List Char)
  | [] => none
  | '\'' :: '\'' :: '\'' :: '\'' :: '\'' :: rest => some (['\'', '\''], rest)
  | '\'' :: '\'' :: '\'' :: '\'' :: rest => some (['\''], rest)
  | '\'' :: '\'' :: '\'' :: rest => some ([], rest)
  | '\r' :: '\n' :: rest => prepend '\r' (prepend '\n' (rawLines? rest))
  | c :: rest => if isControl c && c != '\n' then none else prepend c (rawLines? rest)

/-- The document behind the line end that may follow opening quotes. -/
def skipFirstLineEnd (s : List Char) : List Char :=
  match s with
  | '\n' :: rest => rest
  | '\r' :: '\n' :: rest => rest
  | s => s

/-- What was read, as a string. -/
def asString (read : Option (List Char × List Char)) : Option (String × List Char) :=
  read.map fun (inner, rest) => (String.ofList inner, rest)

/-- The text that a document starts with. -/
def quoted? : List Char → Option (String × List Char)
  | '"' :: '"' :: '"' :: rest =>
    let rest := skipFirstLineEnd rest
    asString (escapedLines? (rest.length + 1) rest)
  | '\'' :: '\'' :: '\'' :: rest => asString (rawLines? (skipFirstLineEnd rest))
  | '"' :: rest => asString (escapedText? (rest.length + 1) rest)
  | '\'' :: rest => asString (rawText? rest)
  | _ => none

/-! ## Keys -/

/-- A character of a bare key. -/
def isKeyChar (c : Char) : Bool :=
  c.isAlphanum || c == '_' || c == '-'

/-- The bare key that a document starts with. -/
def bareKey? (s : List Char) : Option (String × List Char) :=
  let word := s.takeWhile isKeyChar
  if word.isEmpty then none else some (String.ofList word, s.dropWhile isKeyChar)

/-- The key that a document starts with. -/
def key? : List Char → Option (String × List Char)
  | '"' :: rest => asString (escapedText? (rest.length + 1) rest)
  | '\'' :: rest => asString (rawText? rest)
  | s => bareKey? s

/-- A dotted key of at most `n` further parts behind its first: the parts but the last, the last,
and the rest. -/
def keyPath? : Nat → List Char → Option (List String × String × List Char)
  | 0, _ => none
  | n + 1, s => do
    let (part, rest) ← key? s
    match skipGap rest with
    | '.' :: rest =>
      let (path, last, rest) ← keyPath? n (skipGap rest)
      return (part :: path, last, rest)
    | rest => return ([], part, rest)

/-- The dotted key that a document starts with. -/
def dottedKey? (s : List Char) : Option (List String × String × List Char) :=
  keyPath? (s.length + 1) s

end SheetQuery.Toml
