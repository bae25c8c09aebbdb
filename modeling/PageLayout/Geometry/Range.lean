import PageLayout.Decimal.Notation

/-!
# Ranges, sides and locations

A `Range` is a set of lengths that a measured length has to lie in.  It has two
texts: `text` is its form in a page description, and `describe` its form in
messages.  A `Location` is a range together with the sides of a box it is
measured at.
-/

namespace PageLayout

/-! ## Ranges -/

/-- The lengths that are accepted. -/
inductive Range where
  /-- Only this length. -/
  | exact (value : Float)
  /-- The lengths from `min` to `max`, both included. -/
  | between (min max : Float)
  /-- The lengths above this one. -/
  | greaterThan (value : Float)
  /-- The lengths below this one. -/
  | lessThan (value : Float)
  /-- The lengths that differ from `value` by no more than `tolerance`. -/
  | approximate (value tolerance : Float)
deriving DecidableEq, Repr, Inhabited

namespace Range

/-- The lengths between two bounds, given in any order. -/
def spanning (a b : Float) : Range := .between (Number.least a b) (Number.greatest a b)

/-- Whether a length is accepted. -/
def holds (actual : Float) : Range → Bool
  | .exact v => actual == v
  | .between min max => min ≤ actual && actual ≤ max
  | .greaterThan v => v < actual
  | .lessThan v => actual < v
  | .approximate v tolerance => (actual - v).abs ≤ tolerance

/-- A range as it is written in a page description.  The tolerance of an
approximate length is a setting and is not written. -/
def text : Range → String
  | .exact v => Number.pixels v ++ "px"
  | .between min max => Number.pixels min ++ " to " ++ Number.pixels max ++ "px"
  | .greaterThan v => "> " ++ Number.pixels v ++ "px"
  | .lessThan v => "< " ++ Number.pixels v ++ "px"
  | .approximate v _ => "~ " ++ Number.pixels v ++ "px"

/-- A range as it is described in messages. -/
def describe : Range → String
  | .exact v => Number.pixels v ++ "px"
  | .between min max => "between " ++ Number.pixels min ++ "px and " ++ Number.pixels max ++ "px"
  | .greaterThan v => "greater than " ++ Number.pixels v ++ "px"
  | .lessThan v => "less than " ++ Number.pixels v ++ "px"
  | .approximate v tolerance =>
      "~" ++ Number.pixels v ++ "px (±" ++ Number.pixels tolerance ++ "px)"

end Range

/-! ## Sides and locations -/

/-- A side of a box. -/
inductive Side where
  | left
  | right
  | top
  | bottom
deriving DecidableEq, Repr, Inhabited

namespace Side

/-- The four sides. -/
def all : List Side := [.left, .right, .top, .bottom]

/-- The word for a side. -/
def word : Side → String
  | .left => "left"
  | .right => "right"
  | .top => "top"
  | .bottom => "bottom"

/-- The side that a word stands for. -/
def ofWord? (w : String) : Option Side := all.find? fun side => side.word == w

end Side

/-- A range of lengths, measured at some sides. -/
structure Location where
  /-- The lengths that are accepted. -/
  range : Range
  /-- The sides they are measured at. -/
  sides : List Side
deriving DecidableEq, Repr, Inhabited

/-- A location as it is written in a page description. -/
def Location.text (l : Location) : String :=
  l.sides.foldl (fun s side => s ++ " " ++ side.word) l.range.text

end PageLayout
