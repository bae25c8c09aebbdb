import PageLayout.Geometry.Range
import PageLayout.Text.Blank
import PageLayout.Text.Case

/-!
# Requirements

A requirement is what a page description demands of an object: a size, a
position relative to another object, its presence, its text, or that the
requirements of a whole other description hold inside it.

The related object of a position is given by its name.  It may be the object
`screen`, which stands for the screen unless the description declares it.
-/

namespace PageLayout

/-! ## Texts -/

/-- How the text of an object is compared with an expected one. -/
inductive TextCheck where
  /-- They are the same. -/
  | is
  /-- The expected text occurs in it. -/
  | contains
  /-- It starts with the expected text. -/
  | starts
  /-- It ends with the expected text. -/
  | ends
  /-- The whole of it matches the expected text as a pattern. -/
  | matches
deriving DecidableEq, Repr, Inhabited

namespace TextCheck

/-- All comparisons. -/
def all : List TextCheck := [.is, .contains, .starts, .ends, .matches]

/-- The word for a comparison. -/
def word : TextCheck → String
  | .is => "is"
  | .contains => "contains"
  | .starts => "starts"
  | .ends => "ends"
  | .matches => "matches"

/-- The comparison that a word stands for. -/
def ofWord? (w : String) : Option TextCheck := all.find? fun check => check.word == w

end TextCheck

/-- What is done with the text of an object before it is compared. -/
inductive TextOperation where
  /-- Letters become lower case. -/
  | lowercase
  /-- Letters become upper case. -/
  | uppercase
  /-- Blanks at both ends are cut off. -/
  | trim
  /-- Line ends become spaces. -/
  | singleline
deriving DecidableEq, Repr, Inhabited

namespace TextOperation

/-- All operations. -/
def all : List TextOperation := [.lowercase, .uppercase, .trim, .singleline]

/-- The word for an operation. -/
def word : TextOperation → String
  | .lowercase => "lowercase"
  | .uppercase => "uppercase"
  | .trim => "trim"
  | .singleline => "singleline"

/-- The operation that a word stands for. -/
def ofWord? (w : String) : Option TextOperation := all.find? fun op => op.word == w

/-- A text whose line ends are spaces.  A carriage return and the line feed after
it are one line end. -/
def joinLines : List Char → List Char
  | '\r' :: '\n' :: cs => ' ' :: joinLines cs
  | c :: cs => (if c == '\n' || c == '\r' then ' ' else c) :: joinLines cs
  | [] => []

/-- The result of an operation. -/
def apply (text : String) : TextOperation → String
  | .lowercase => String.ofList (Text.lower text.toList)
  | .uppercase => String.ofList (Text.upper text.toList)
  | .trim => Text.trimmed text
  | .singleline => String.ofList (joinLines text.toList)

end TextOperation

/-! ## Requirements -/

/-- What is demanded of an object. -/
inductive Requirement where
  /-- A width. -/
  | width (range : Range)
  /-- A height. -/
  | height (range : Range)
  /-- Distances to a neighbour. -/
  | near (object : String) (locations : List Location)
  /-- A position inside another object, with distances from its edges.  If it is
  inside partly, an overlap is enough. -/
  | inside (object : String) (locations : List Location) (partly : Bool)
  /-- A position above another object. -/
  | above (object : String) (range : Option Range)
  /-- A position below another object. -/
  | below (object : String) (range : Option Range)
  /-- A position to the left of another object. -/
  | leftOf (object : String) (range : Option Range)
  /-- A position to the right of another object. -/
  | rightOf (object : String) (range : Option Range)
  /-- The object is not there or not shown. -/
  | absent
  /-- The object is there and shown. -/
  | visible
  /-- A text. -/
  | text (check : TextCheck) (expected : String) (operations : List TextOperation)
  /-- The requirements of another description hold inside the object. -/
  | component (path : String)
deriving DecidableEq, Repr, Inhabited

namespace Requirement

/-- The words that a requirement is named by. -/
def name : Requirement → String
  | .width _ => "width"
  | .height _ => "height"
  | .near _ _ => "near"
  | .inside _ _ _ => "inside"
  | .above _ _ => "above"
  | .below _ _ => "below"
  | .leftOf _ _ => "left of"
  | .rightOf _ _ => "right of"
  | .absent => "absent"
  | .visible => "visible"
  | .text _ _ _ => "text"
  | .component _ => "component"

/-- The other object of a position. -/
def related? : Requirement → Option String
  | .near object _ => some object
  | .inside object _ _ => some object
  | .above object _ => some object
  | .below object _ => some object
  | .leftOf object _ => some object
  | .rightOf object _ => some object
  | _ => none

/-- The locations of a position. -/
def locations : Requirement → List Location
  | .near _ locations => locations
  | .inside _ locations _ => locations
  | _ => []

end Requirement

end PageLayout
