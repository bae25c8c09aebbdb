/-!
# What can be wrong with an expression

An expression is wrong in its form or in its evaluation.  `ParseFault` says what
is wrong with the form, and `EvalError` adds what only an evaluation shows.
-/

namespace PageLayout

/-- What is wrong with the form of an expression or of a line of a script. -/
inductive ParseFault where
  /-- Digits and points that are no number. -/
  | badNumber (text : String)
  /-- A string without its closing quote. -/
  | unterminatedString
  /-- A character that starts no token. -/
  | unexpectedCharacter (c : Char)
  /-- No value where one has to stand. -/
  | expectedValue
  /-- A parenthesis that is not closed. -/
  | expectedParenthesis
  /-- An argument that neither a comma nor a parenthesis follows. -/
  | expectedSeparator
  /-- More text after the end of the expression. -/
  | trailingInput
  /-- A line of a script that defines nothing. -/
  | expectedDefinition (path : String)
deriving DecidableEq, Repr

/-- The text of a fault. -/
def ParseFault.message : ParseFault → String
  | .badNumber text => "bad number " ++ text
  | .unterminatedString => "unterminated string"
  | .unexpectedCharacter c => "unexpected character '" ++ c.toString ++ "'"
  | .expectedValue => "expected a value"
  | .expectedParenthesis => "expected ')'"
  | .expectedSeparator => "expected ',' or ')'"
  | .trailingInput => "unexpected trailing input"
  | .expectedDefinition path => "expected `name = expression` in " ++ path

/-- Why an expression has no value. -/
inductive EvalError where
  /-- A name without a value. -/
  | unknownVariable (name : String)
  /-- A function that does not exist. -/
  | unknownFunction (name : String)
  /-- A text that is no expression. -/
  | malformed (expression : String) (fault : ParseFault)
  /-- A text that stands for no number. -/
  | notNumeric (text : String)
  /-- A function with too few or too many arguments. -/
  | oneArgument (function : String)
  /-- A division by zero, or the remainder of one. -/
  | divisionByZero
  /-- A question about an object, with no page to ask. -/
  | noPage (object : String)
  /-- A question about an object that is not declared. -/
  | noLocator (object : String)
  /-- A question about an object that is not on the page. -/
  | absent (object : String)
deriving DecidableEq, Repr

/-- The text of an error. -/
def EvalError.message : EvalError → String
  | .unknownVariable name => "Unknown variable: " ++ name
  | .unknownFunction name => "Unknown function: " ++ name
  | .malformed expression fault =>
      "Cannot parse expression \"" ++ expression ++ "\": " ++ fault.message
  | .notNumeric text => "Type error: \"" ++ text ++ "\" is not a number"
  | .oneArgument function => "Type error: " ++ function ++ "() takes exactly one argument"
  | .divisionByZero => "Division by zero"
  | .noPage object => "Cannot look up \"" ++ object ++ "\": no page available"
  | .noLocator object => "Cannot find locator for \"" ++ object ++ "\""
  | .absent object => "\"" ++ object ++ "\" is absent on page"

end PageLayout
