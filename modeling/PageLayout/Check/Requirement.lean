import PageLayout.Check.Report
import PageLayout.Page.Basic
import PageLayout.Pattern.Match
import PageLayout.Requirement.Basic

/-!
# Checking a requirement

`Requirement.check` compares an element that is on the page and shown with what is
demanded of it.  The area of a related object is asked for.  A question that has
no answer is itself a violation.

Every violation that is found here has at least one message.  The distances that
a location measures are given by `Side.gap` and `Side.inset`.  The first is the
gap between two neighbours, the second the distance from the edge of a container.
-/

namespace PageLayout

/-! ## Distances -/

/-- The distance of a box from its neighbour.  A side is where the box lies as
seen from the neighbour. -/
def Side.gap (box neighbour : Rect) : Side → Float
  | .left => neighbour.left - box.right
  | .right => box.left - neighbour.right
  | .top => neighbour.top - box.bottom
  | .bottom => box.top - neighbour.bottom

/-- The distance of a box from an edge of its container. -/
def Side.inset (box container : Rect) : Side → Float
  | .left => box.left - container.left
  | .right => container.right - box.right
  | .top => box.top - container.top
  | .bottom => container.bottom - box.bottom

/-! ## Texts -/

/-- The words for what a text should do. -/
def TextCheck.demand : TextCheck → String
  | .is => "be"
  | .contains => "contain"
  | .starts => "start with"
  | .ends => "end with"
  | .matches => "match"

/-- Whether a text compares well with an expected one.  There is no answer if the
expected text has to be a pattern and is none. -/
def TextCheck.holds? (check : TextCheck) (actual expected : String) : Option Bool :=
  match check with
  | .is => some (actual == expected)
  | .contains => some (Text.occursIn expected.toList actual.toList)
  | .starts => some (Text.dropPrefix? expected.toList actual.toList).isSome
  | .ends => some (Text.dropSuffix? expected.toList actual.toList).isSome
  | .matches => (Pattern.Regex.whole? expected).map fun pattern => pattern.matchesIn actual.toList

namespace Check

/-! ## Messages -/

/-- A name in quotes. -/
def quoted (name : String) : String := "\"" ++ name ++ "\""

/-- The message about a size that is wrong. -/
def sizeMessage (object what : String) (actual : Float) (range : Range) : String :=
  quoted object ++ " " ++ what ++ " is " ++ Number.pixels actual ++ "px but it should be " ++
    range.describe

/-- The message about a distance that is wrong. -/
def offsetMessage (object : String) (actual : Float) (side : Side) (range : Range) : String :=
  quoted object ++ " is " ++ Number.pixels actual ++ "px " ++ side.word ++ " instead of " ++
    range.describe

/-- The message about an object that is not inside another. -/
def insideMessage (object container : String) (partly : Bool) : String :=
  quoted object ++ " is not " ++ (if partly then "" else "completely ") ++ "inside " ++
    quoted container

/-- The message about an object that does not lie in a direction. -/
def directionMessage (object word other : String) : String :=
  quoted object ++ " is not " ++ word ++ " " ++ quoted other

/-- The message about an object that lies in a direction, at a wrong distance. -/
def distanceMessage (object word other : String) (gap : Float) (range : Range) : String :=
  quoted object ++ " is " ++ Number.pixels gap ++ "px " ++ word ++ " " ++ quoted other ++
    " instead of " ++ range.describe

/-- The message about a text that is wrong. -/
def textMessage (object actual : String) (check : TextCheck) (expected : String) : String :=
  quoted object ++ " text is " ++ quoted actual ++ " but should " ++ check.demand ++ " " ++
    quoted expected

/-- The message about a text that is no pattern. -/
def patternMessage (expected : String) : String := "Incorrect regular expression: " ++ expected

/-! ## Checks -/

/-- A violation with some messages, or none if there are no messages. -/
def ofMessages (messages : List String) (areas : List Area) : Except Violation Unit :=
  if messages.isEmpty then .ok () else .error ⟨messages, areas⟩

/-- Checks a size. -/
def size (object : String) (area : Rect) (what : String) (actual : Float) (range : Range) :
    Except Violation Unit :=
  if range.holds actual then .ok ()
  else .error ⟨[sizeMessage object what actual range], [⟨area, object⟩]⟩

/-- The messages about the sides where a location does not hold. -/
def locationMessages (object : String) (distance : Side → Float) (l : Location) : List String :=
  (l.sides.filter fun side => !l.range.holds (distance side)).map fun side =>
    offsetMessage object (distance side) side l.range

/-- The messages about all locations that do not hold. -/
def offsetMessages (object : String) (distance : Side → Float) (locations : List Location) :
    List String :=
  locations.flatMap (locationMessages object distance)

/-- Checks a direction by the gap in it. -/
def direction (object word other : String) (gap : Float) (range : Option Range)
    (areas : List Area) : Except Violation Unit :=
  match range with
  | none => if gap < 0.0 then .error ⟨[directionMessage object word other], areas⟩ else .ok ()
  | some range =>
      if range.holds gap then .ok ()
      else .error ⟨[distanceMessage object word other gap range], areas⟩

/-- Checks a text. -/
def text (object : String) (e : Element) (check : TextCheck) (expected : String)
    (operations : List TextOperation) : Except Violation Unit :=
  let actual := operations.foldl TextOperation.apply (e.text.getD "")
  match check.holds? actual expected with
  | none => .error (.ofMessage (patternMessage expected))
  | some true => .ok ()
  | some false => .error ⟨[textMessage object actual check expected], [⟨e.rect, object⟩]⟩

end Check

/-- Checks what is demanded of an element that is on the page and shown.  `areaOf`
gives the area of a related object.  Presence and components are decided
elsewhere, and nothing is wrong with them here. -/
def Requirement.check (object : String) (e : Element) (areaOf : String → Except Violation Rect) :
    Requirement → Except Violation Unit
  | .width range => Check.size object e.rect "width" e.rect.width range
  | .height range => Check.size object e.rect "height" e.rect.height range
  | .near other locations => do
      let area ← areaOf other
      Check.ofMessages (Check.offsetMessages object (Side.gap e.rect area) locations)
        [⟨e.rect, object⟩, ⟨area, other⟩]
  | .inside other locations partly => do
      let area ← areaOf other
      let isInside := if partly then area.intersects e.rect else area.contains e.rect
      let outside := if isInside then [] else [Check.insideMessage object other partly]
      Check.ofMessages (outside ++ Check.offsetMessages object (Side.inset e.rect area) locations)
        [⟨e.rect, object⟩, ⟨area, other⟩]
  | .above other range => do
      let area ← areaOf other
      Check.direction object "above" other (Side.gap e.rect area .top) range
        [⟨e.rect, object⟩, ⟨area, other⟩]
  | .below other range => do
      let area ← areaOf other
      Check.direction object "below" other (Side.gap e.rect area .bottom) range
        [⟨e.rect, object⟩, ⟨area, other⟩]
  | .leftOf other range => do
      let area ← areaOf other
      Check.direction object "left of" other (Side.gap e.rect area .left) range
        [⟨e.rect, object⟩, ⟨area, other⟩]
  | .rightOf other range => do
      let area ← areaOf other
      Check.direction object "right of" other (Side.gap e.rect area .right) range
        [⟨e.rect, object⟩, ⟨area, other⟩]
  | .text check expected operations => Check.text object e check expected operations
  | .absent => .ok ()
  | .visible => .ok ()
  | .component _ => .ok ()

end PageLayout
