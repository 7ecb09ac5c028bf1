import SheetQuery.Sql.Fault
import SheetQuery.Sql.Syntax
import SheetQuery.Text.Blank
import SheetQuery.Text.Letter

/-!
# Tokens of statements

The text of a statement falls into words, names in brackets, texts in quotes, numbers, placeholders,
comparison signs and three marks; blanks between them separate and mean nothing. A name runs to the
next closing bracket and knows no escape. A text in quotes has each quote inside it written twice.
-/

namespace SheetQuery.Sql

/-- A token of a statement. -/
inductive Token where
  | word (word : List Char)
  | name (name : List Char)
  | text (text : List Char)
  | number (value : Value)
  | placeholder
  | comparison (op : Comparison)
  | opening
  | closing
  | star

namespace Token

/-- The name before the first closing bracket, and what follows the bracket. -/
def name? (s : List Char) : Except Fault (Token × List Char) :=
  match s.dropWhile (· != ']') with
  | [] => .error .unterminatedName
  | _ :: rest => .ok (.name (s.takeWhile (· != ']')), rest)

/-- The characters before the quote that ends a text, and what follows it. Two quotes in a row stand
for one inside the text. -/
def quotedText? : List Char → Option (List Char × List Char)
  | [] => none
  | '\'' :: '\'' :: rest => (quotedText? rest).map fun (inner, after) => ('\'' :: inner, after)
  | '\'' :: rest => some ([], rest)
  | c :: rest => (quotedText? rest).map fun (inner, after) => (c :: inner, after)

/-- The text in quotes, and what follows it. -/
def text? (s : List Char) : Except Fault (Token × List Char) :=
  match quotedText? s with
  | some (inner, after) => .ok (.text inner, after)
  | none => .error .unterminatedText

/-- The characters of numbers. -/
def isNumberChar (c : Char) : Bool :=
  c.isDigit || c == '.'

/-- The value that digits and points stand for: a word where one fits, else a floating-point
number. -/
def numberValue? (s : List Char) : Option Value :=
  match Decimal.readWord? s with
  | some i => some (.int i)
  | none => (Decimal.readFloat? s).map .float

/-- The number at the start of a text, and what follows it. -/
def number? (s : List Char) : Except Fault (Token × List Char) :=
  let run := s.takeWhile isNumberChar
  match numberValue? run with
  | some value => .ok (.number value, s.dropWhile isNumberChar)
  | none => .error (.invalidNumber (String.ofList run))

/-- A word may start with the character. -/
def isWordStart (c : Char) : Bool :=
  Text.isLetter c || c == '_'

/-- A word may go on with the character. -/
def isWordChar (c : Char) : Bool :=
  Text.isLetterOrNumeral c || c == '_'

/-- The word at the start of a text, and what follows it. -/
def splitWord (s : List Char) : Token × List Char :=
  (.word (s.takeWhile isWordChar), s.dropWhile isWordChar)

/-- The token that starts with a character which is no blank, and what follows it. -/
def next? (c : Char) (rest : List Char) : Except Fault (Token × List Char) :=
  match c, rest with
  | '[', rest => name? rest
  | '\'', rest => text? rest
  | '?', rest => .ok (.placeholder, rest)
  | '(', rest => .ok (.opening, rest)
  | ')', rest => .ok (.closing, rest)
  | '*', rest => .ok (.star, rest)
  | '=', rest => .ok (.comparison .eq, rest)
  | '<', '>' :: rest => .ok (.comparison .ne, rest)
  | '<', '=' :: rest => .ok (.comparison .le, rest)
  | '<', rest => .ok (.comparison .lt, rest)
  | '>', '=' :: rest => .ok (.comparison .ge, rest)
  | '>', rest => .ok (.comparison .gt, rest)
  | c, rest =>
    if c.isDigit then number? (c :: rest)
    else if isWordStart c then .ok (splitWord (c :: rest))
    else .error (.unexpectedCharacter c)

/-- The tokens of a text of at most `n` characters. -/
def listUpTo : Nat → List Char → Except Fault (List Token)
  | 0, _ => .ok []
  | _ + 1, [] => .ok []
  | n + 1, c :: rest =>
    if Text.isBlank c then listUpTo n rest
    else do
      let (token, rest) ← next? c rest
      let tokens ← listUpTo n rest
      return token :: tokens

/-- The tokens of a text, or the first character that starts none. Each token takes at least one
character, so the length of the text bounds their number. -/
def ofChars? (s : List Char) : Except Fault (List Token) :=
  listUpTo s.length s

end Token

end SheetQuery.Sql
