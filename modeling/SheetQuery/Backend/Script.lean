import SheetQuery.Backend.Basic

/-!
# Scripted backends

A backend that plays a part: its answers are laid down in advance, and it keeps a list of what was
asked. Openings and statements take their answers in turn. Once the openings run out they succeed;
once the answers to statements run out, statements fail.
-/

namespace SheetQuery

/-- Something that was asked of a scripted backend. -/
inductive Call where
  | connect (spec : ConnectionSpec)
  | execute (statement : Rendered)
  | tableNames
  | close

/-- Answers laid down in advance, and what has been asked. -/
structure Script where
  computedColumn : String
  openings : List (Option String)
  replies : List (Except String Reply)
  tables : Except String (List String)
  closeFailure : Option String
  calls : List Call

namespace Script

/-- Success, or a failure with that message. -/
def outcome (failure : Option String) : Except String Unit :=
  match failure with
  | none => .ok ()
  | some message => .error message

/-- The script with one call more. -/
def record (s : Script) (call : Call) : Script :=
  { s with calls := s.calls ++ [call] }

/-- The next answer to an opening. -/
def opening (s : Script) : Except String Unit :=
  outcome (s.openings.head?.join)

/-- The next answer to a statement. -/
def reply (s : Script) : Except String Reply :=
  s.replies.head?.getD (.error "script exhausted")

end Script

instance : Backend Script where
  connect spec s := (s.opening, { s.record (.connect spec) with openings := s.openings.tail })
  execute _ statement s :=
    (s.reply, { s.record (.execute statement) with replies := s.replies.tail })
  tableNames _ s := (s.tables, s.record .tableNames)
  close _ s := (Script.outcome s.closeFailure, s.record .close)
  computedColumn s := s.computedColumn

end SheetQuery
