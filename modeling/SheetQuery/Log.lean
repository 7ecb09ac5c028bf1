/-!
# Log events

What the library reports beside its results: warnings about mappings that nothing fills, and errors
that are not allowed to change a result.
-/

namespace SheetQuery

/-- A reported event; an error has the text of its cause. -/
inductive LogEvent where
  | warning (message : String)
  | error (message cause : String)
  deriving DecidableEq, Repr

end SheetQuery
