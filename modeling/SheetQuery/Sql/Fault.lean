/-!
# Faults of statements

What the source can hold against a statement: that it has no reading, that it does not fit its
parameters, or that it asks for something the source does not have. A reading fails at a token,
counted from zero; where a token was taken and found wrong, the count is that of the next one.
-/

namespace SheetQuery.Sql

/-- What a reading wanted to see. -/
inductive Expected where
  | keyword (word : List Char)
  | opening
  | closing
  | star
  | name
  | rowCount
  | selection
  | comparison
  | operand
  | ending
  deriving DecidableEq, Repr

/-- The words for what was wanted. -/
def Expected.text : Expected → String
  | .keyword word => String.ofList word
  | .opening => "LParen"
  | .closing => "RParen"
  | .star => "Star"
  | .name => "bracketed name"
  | .rowCount => "row count"
  | .selection => "selection"
  | .comparison => "comparison operator"
  | .operand => "operand"
  | .ending => "end of statement"

/-- Why a statement is not answered. -/
inductive Fault where
  | unterminatedName
  | unterminatedText
  | invalidNumber (text : String)
  | unexpectedCharacter (c : Char)
  | expected (what : Expected) (position : Nat)
  | undefinedFunction (name : String)
  | parameterCount (placeholders parameters : Nat)
  | missingParameter
  | typeMismatch
  | unknownTable (name : String)
  deriving DecidableEq, Repr

/-- The wording of a fault. A column that the table lacks is taken for a parameter without a value,
so both have one wording. -/
def Fault.message : Fault → String
  | .unterminatedName => "Unterminated bracketed name"
  | .unterminatedText => "Unterminated string literal"
  | .invalidNumber text => "Invalid number '" ++ text ++ "'"
  | .unexpectedCharacter c => "Syntax error: unexpected character '" ++ c.toString ++ "'"
  | .expected what position =>
    "Syntax error: expected " ++ what.text ++ " at token " ++ toString position
  | .undefinedFunction name => "Undefined function '" ++ name ++ "'"
  | .parameterCount placeholders parameters =>
    "Statement has " ++ toString placeholders ++ " placeholders but " ++ toString parameters ++
      " parameters were bound"
  | .missingParameter => "No value given for one or more required parameters."
  | .typeMismatch => "Data type mismatch in criteria expression."
  | .unknownTable name =>
    "The engine could not find the object '" ++ name ++
      "'. Make sure the object exists and that you spell its name correctly."

end SheetQuery.Sql
