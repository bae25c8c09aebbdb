import PageLayout.Decimal.Notation
import PageLayout.Expression.Error
import PageLayout.Place

/-!
# What can be wrong with a page description

An error is a cause and a place.  The causes fall into four kinds: a line that
breaks the rules of the language, a line that is indented wrongly, a file that
cannot be read, and an expression or a script that has no value.  Only the error
about the first file of all has no place.

The message of an error is a function of its cause.  `LayoutError.message` adds
the place.
-/

namespace PageLayout

/-! ## Causes -/

/-- A rule of the language that a line breaks. -/
inductive Fault where
  /-- No range where one has to stand. -/
  | missingRange
  /-- A text that is no range. -/
  | unreadableRange (range : String)
  /-- A range whose first bound is above its second. -/
  | reversedRange (min max : Float)
  /-- No name of a related object. -/
  | missingObject
  /-- No location where one has to stand. -/
  | missingLocation
  /-- A location without a side. -/
  | missingSide
  /-- A word that is no side. -/
  | unknownSide (word : String)
  /-- No path of a component. -/
  | missingComponentPath
  /-- A line that is no requirement. -/
  | unknownRequirement (text : String)
  /-- A word that is no comparison of texts. -/
  | unknownTextCheck (word : String)
  /-- A word that is no operation on texts. -/
  | unknownTextOperation (word : String)
  /-- A text that is no pattern. -/
  | badPattern (pattern : String)
  /-- A text that is no index. -/
  | badIndex (text : String)
  /-- An item that makes a list of indexes too long. -/
  | tooManyIndexes (item : String)
  /-- An object without a selector. -/
  | missingLocator (object : String)
  /-- A word that is no kind of selector. -/
  | unknownSelectorKind (word : String)
  /-- A name that already has a locator. -/
  | duplicateObject (object : String)
  /-- Requirements without an object. -/
  | requirementWithoutObject
  /-- A list of indexes without an object. -/
  | unusedIndexes
  /-- A section inside a conditional block. -/
  | sectionInBlock
  /-- A conditional block inside another. -/
  | nestedBlock
  /-- A conditional block without an end. -/
  | unclosedBlock
  /-- A part of a conditional block where it cannot stand. -/
  | unexpectedPart (keyword : String)
  /-- More text after a part of a conditional block. -/
  | trailingText (keyword text : String)
  /-- No path of a file to import. -/
  | missingImportPath
  /-- No path of a script. -/
  | missingScriptPath
  /-- A word that is no directive. -/
  | unknownDirective (word : String)
  /-- No name of a variable. -/
  | missingVariable
deriving DecidableEq, Repr

/-- The greatest number of indexes in one list. -/
def indexLimit : Nat := 10000

/-- The text of a fault. -/
def Fault.message : Fault → String
  | .missingRange => "Missing range"
  | .unreadableRange range => "Cannot parse range: \"" ++ range ++ "\""
  | .reversedRange min max =>
      "Invalid range: " ++ Number.pixels min ++ " is greater than " ++ Number.pixels max
  | .missingObject => "Missing object name"
  | .missingLocation => "There is no location defined"
  | .missingSide => "Missing side"
  | .unknownSide word => "Unknown side: " ++ word
  | .missingComponentPath => "Missing component path"
  | .unknownRequirement text => "Unknown spec: " ++ text
  | .unknownTextCheck word => "Unknown text check: " ++ word
  | .unknownTextOperation word => "Unknown text operation: " ++ word
  | .badPattern pattern => "Incorrect regular expression: " ++ pattern
  | .badIndex text => "Incorrect parameter index: " ++ text
  | .tooManyIndexes item =>
      "Incorrect parameter index: " ++ item ++ " (more than " ++ toString indexLimit ++ " indexes)"
  | .missingLocator object => "Missing locator for object \"" ++ object ++ "\""
  | .unknownSelectorKind word => "Unknown locator type: " ++ word
  | .duplicateObject object => "Object \"" ++ object ++ "\" is already defined"
  | .requirementWithoutObject => "There is no object defined in section"
  | .unusedIndexes => "Parameterization is not followed by an object"
  | .sectionInBlock => "Section cannot be declared inside a conditional block"
  | .nestedBlock => "Conditional blocks cannot be nested"
  | .unclosedBlock => "Conditional block is not closed"
  | .unexpectedPart keyword => "Unexpected \"" ++ keyword ++ "\" statement"
  | .trailingText keyword text => "Unexpected text after \"" ++ keyword ++ "\": " ++ text
  | .missingImportPath => "Missing import path"
  | .missingScriptPath => "Missing script path"
  | .unknownDirective word => "Unknown directive: " ++ word
  | .missingVariable => "Missing variable name"

/-- A rule of indentation that a line breaks. -/
inductive IndentFault where
  /-- A tab in front of the text. -/
  | tab
  /-- A blank that is no space in front of the text. -/
  | notSpaces
  /-- More than eight spaces. -/
  | tooWide
  /-- Another width than that of the line above. -/
  | uneven
deriving DecidableEq, Repr

/-- The text of a fault of indentation. -/
def IndentFault.message : IndentFault → String
  | .tab => "Should not use tabs. Use spaces"
  | .notSpaces => "Should use only spaces for indentation"
  | .tooWide => "Use from 1 to 8 spaces for indentation"
  | .uneven => "You should use same indentation within one spec"

/-- Why a line or a script has no value. -/
inductive EvaluationFault where
  /-- An expression without its closing brace. -/
  | unclosedExpression (rest : String)
  /-- An expression that has no value. -/
  | badExpression (expression : String) (cause : EvalError)
  /-- A script that cannot be run. -/
  | badScript (path : String) (cause : EvalError)
deriving DecidableEq, Repr

/-- The text of a fault of evaluation. -/
def EvaluationFault.message : EvaluationFault → String
  | .unclosedExpression rest => "Expression is not closed: " ++ rest
  | .badExpression expression cause =>
      "Error evaluating \"" ++ expression ++ "\": " ++ cause.message
  | .badScript path cause => "Error loading script " ++ path ++ ": " ++ cause.message

/-! ## Errors -/

/-- Why a page description cannot be compiled. -/
inductive LayoutError where
  /-- A line breaks a rule of the language. -/
  | fault (cause : Fault) (place : Place)
  /-- A line is indented wrongly. -/
  | indentation (cause : IndentFault) (place : Place)
  /-- A file cannot be read.  The place is the line that asks for it. -/
  | unreadable (path reason : String) (place : Option Place)
  /-- An expression or a script has no value. -/
  | evaluation (cause : EvaluationFault) (place : Place)
deriving DecidableEq, Repr

namespace LayoutError

/-- The text of the cause alone. -/
def bare : LayoutError → String
  | .fault cause _ => cause.message
  | .indentation cause _ => cause.message
  | .unreadable path reason _ => "Could not read file " ++ path ++ ": " ++ reason
  | .evaluation cause _ => cause.message

/-- The place of the cause. -/
def place? : LayoutError → Option Place
  | .fault _ place => some place
  | .indentation _ place => some place
  | .unreadable _ _ place => place
  | .evaluation _ place => some place

/-- The text of an error with its place. -/
def message (e : LayoutError) : String :=
  let heading :=
    match e with
    | .indentation _ _ => "Incorrect indentation. "
    | _ => ""
  let trailer :=
    match e.place? with
    | some place => place.trailer
    | none => ""
  heading ++ e.bare ++ trailer

end LayoutError

end PageLayout
