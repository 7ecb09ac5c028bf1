import SheetQuery.Toml.Scalar
import SheetQuery.Toml.Text

/-!
# Reading documents

A document is a list of lines: headers, which open a table, and assignments of a value to a dotted
key of the table that is open. A reader gives nothing where the document breaks a rule; what rule it
was is not told.
-/

namespace SheetQuery.Toml

mutual

/-- The value that a document starts with, and the rest; `n` bounds the nesting and the number of
elements. -/
def value? : Nat → List Char → Option (Value × List Char)
  | 0, _ => none
  | n + 1, s =>
    match s with
    | '[' :: rest => (elements? n (skipTrivia false rest)).map fun (items, rest) =>
        (.array false items, rest)
    | '\x7b' :: rest => (fields? n [] (skipTrivia false rest)).map fun (entries, rest) =>
        (.table .braces entries, rest)
    | '"' :: _ | '\'' :: _ => (quoted? s).map fun (text, rest) => (.text text, rest)
    | _ => scalar? s

/-- The elements of an array up to its closing bracket. -/
def elements? : Nat → List Char → Option (List Value × List Char)
  | 0, _ => none
  | n + 1, s =>
    match s with
    | ']' :: rest => some ([], rest)
    | _ => do
      let (item, rest) ← value? n s
      match skipTrivia false rest with
      | ',' :: rest =>
        let (items, rest) ← elements? n (skipTrivia false rest)
        return (item :: items, rest)
      | ']' :: rest => return ([item], rest)
      | _ => none

/-- The assignments in braces up to the closing one, added to those before. -/
def fields? : Nat → Entries → List Char → Option (Entries × List Char)
  | 0, _, _ => none
  | n + 1, entries, s =>
    match s with
    | '\x7d' :: rest => some (entries, rest)
    | _ => do
      let (path, key, rest) ← dottedKey? s
      match rest with
      | '=' :: rest =>
        let (value, rest) ← value? n (skipGap rest)
        let entries ← entries.assign? key value path
        match skipTrivia false rest with
        | ',' :: rest => fields? n entries (skipTrivia false rest)
        | '\x7d' :: rest => return (entries, rest)
        | _ => none
      | _ => none

end

/-- The part of a document that has been read: its entries, and the path of the open table. -/
structure Document where
  entries : Entries
  opened : List String

namespace Document

/-- Opens the table of a header. -/
def openTable? (d : Document) (path : List String) (key : String) : Option Document :=
  (d.entries.inside? (Entries.openTable? key) path).map fun entries => ⟨entries, path ++ [key]⟩

/-- Opens a further element of the array of a header. -/
def openElement? (d : Document) (path : List String) (key : String) : Option Document :=
  (d.entries.inside? (Entries.openElement? key) path).map fun entries => ⟨entries, path ++ [key]⟩

/-- Assigns a value to a dotted key of the open table. -/
def assign? (d : Document) (path : List String) (key : String) (value : Value) : Option Document :=
  (d.entries.inside? (Entries.assign? key value path) d.opened).map fun entries =>
    { d with entries := entries }

/-- Reads one line that is not blank. -/
def line? (d : Document) : List Char → Option (Document × List Char)
  | '[' :: '[' :: rest => do
    let (path, key, rest) ← dottedKey? (skipGap rest)
    match rest with
    | ']' :: ']' :: rest => return (← d.openElement? path key, ← endLine? rest)
    | _ => none
  | '[' :: rest => do
    let (path, key, rest) ← dottedKey? (skipGap rest)
    match rest with
    | ']' :: rest => return (← d.openTable? path key, ← endLine? rest)
    | _ => none
  | s => do
    let (path, key, rest) ← dottedKey? s
    match rest with
    | '=' :: rest =>
      let rest := skipGap rest
      let (value, rest) ← value? (2 * rest.length + 2) rest
      return (← d.assign? path key value, ← endLine? rest)
    | _ => none

/-- Reads at most `n` lines that are not blank. -/
def lines? : Nat → Document → List Char → Option Document
  | 0, d, s => if (skipTrivia false s).isEmpty then some d else none
  | n + 1, d, s =>
    match skipTrivia false s with
    | [] => some d
    | s => do
      let (d, rest) ← d.line? s
      lines? n d rest

end Document

/-- The text without a byte order mark at its start. -/
def withoutMark : List Char → List Char
  | '\ufeff' :: rest => rest
  | s => s

/-- The entries of a document. -/
def read? (s : List Char) : Option Entries :=
  let s := withoutMark s
  (Document.lines? s.length ⟨[], []⟩ s).map Document.entries

end SheetQuery.Toml
