import PageLayout.Decimal.Reader
import PageLayout.Error
import PageLayout.Pattern.Match
import PageLayout.Requirement.Basic

/-!
# Reading requirements

A requirement is written on one line, as a head, a colon and a value:

* `width: 100 to 200px`, `height: ~ 40px`
* `near: button 10px left, 5 to 10px top`
* `inside partly: container 0px top left`
* `above: footer 20px`, `left of: sidebar`
* `text trim lowercase is: hello`, `absent`
* `component: components/menu.spec`

A range is a number, two numbers with `to` between them, or a number after one of
`>`, `<` and `~`.  The unit `px` after a number may be left out.  A location is a
range and then the sides it holds at.  The words of a location belong to the range
as long as they look like parts of one.
-/

namespace PageLayout

namespace Range

/-! ## Ranges -/

/-- A number without the unit after it. -/
def dropUnit (text : List Char) : List Char :=
  Text.trimEnd ((Text.dropSuffix? ['p', 'x'] text).getD text)

/-- A number of a range.  The fault names the whole range. -/
def readNumber (range text : List Char) : Except Fault Float :=
  match Decimal.read? (dropUnit (Text.trim text)) with
  | some x => if Number.isFinite x then .ok x else .error (.unreadableRange (String.ofList range))
  | none => .error (.unreadableRange (String.ofList range))

/-- A range.  An approximate length is given the tolerance. -/
def read (tolerance : Float) (text : List Char) : Except Fault Range :=
  let range := Text.trim text
  match range with
  | [] => .error .missingRange
  | '>' :: rest => (readNumber range rest).map .greaterThan
  | '<' :: rest => (readNumber range rest).map .lessThan
  | '~' :: rest => (readNumber range rest).map fun x => .approximate x tolerance
  | range =>
      match Text.splitOnce " to ".toList range with
      | some (from_, to_) => do
          let min ← readNumber range from_
          let max ← readNumber range to_
          if max < min then .error (.reversedRange min max) else .ok (spanning min max)
      | none => (readNumber range range).map .exact

/-- A range that is written in a string. -/
def ofText (tolerance : Float) (text : String) : Except Fault Range := read tolerance text.toList

end Range

namespace Location

/-! ## Locations -/

/-- Whether a word looks like a part of a range. -/
def isRangeWord (w : List Char) : Bool :=
  w == ['t', 'o'] || w == ['p', 'x'] ||
    match w with
    | [] => false
    | c :: _ => Decimal.isDigit c || "-.><~".toList.contains c

/-- A word that has to be a side. -/
def readSide (w : List Char) : Except Fault Side :=
  match Side.ofWord? (String.ofList w) with
  | some side => .ok side
  | none => .error (.unknownSide (String.ofList w))

/-- A location. -/
def read (tolerance : Float) (text : List Char) : Except Fault Location :=
  let words := Text.words text
  let rangeWords := words.takeWhile isRangeWord
  let sideWords := words.dropWhile isRangeWord
  if words.isEmpty then .error .missingLocation
  else if rangeWords.isEmpty then .error (.unreadableRange (String.ofList (Text.trim text)))
  else if sideWords.isEmpty then .error .missingSide
  else do
    let sides ← sideWords.mapM readSide
    let range ← Range.read tolerance ([' '].intercalate rangeWords)
    return ⟨range, sides⟩

/-- Locations with commas between them. -/
def readAll (tolerance : Float) (text : List Char) : Except Fault (List Location) :=
  (Text.splitAt (· == ',') text).mapM (read tolerance)

end Location

namespace Requirement

/-! ## Requirements -/

/-- The name of a related object, and the rest of the value. -/
def readObject (value : List Char) : Except Fault (String × List Char) :=
  let (object, rest) := Text.firstWord value
  if object.isEmpty then .error .missingObject else .ok (String.ofList object, rest)

/-- The neighbour of an object, with at least one location. -/
def readNear (tolerance : Float) (value : List Char) : Except Fault Requirement := do
  let (object, rest) ← readObject value
  if rest.isEmpty then .error .missingLocation
  else return .near object (← Location.readAll tolerance rest)

/-- The container of an object. -/
def readInside (tolerance : Float) (partly : Bool) (value : List Char) :
    Except Fault Requirement := do
  let (object, rest) ← readObject value
  if rest.isEmpty then return .inside object [] partly
  else return .inside object (← Location.readAll tolerance rest) partly

/-- A position in one direction, with or without a range. -/
def readDirection (tolerance : Float) (make : String → Option Range → Requirement)
    (value : List Char) : Except Fault Requirement := do
  let (object, rest) ← readObject value
  if rest.isEmpty then return make object none
  else return make object (some (← Range.read tolerance rest))

/-- A word that has to be an operation on texts. -/
def readOperation (w : List Char) : Except Fault TextOperation :=
  match TextOperation.ofWord? (String.ofList w) with
  | some op => .ok op
  | none => .error (.unknownTextOperation (String.ofList w))

/-- A demand on the text of an object.  `line` is the whole line, for the fault
of a head without a comparison. -/
def readText (head value line : List Char) : Except Fault Requirement :=
  match (Text.words head).drop 1 with
  | [] => .error (.unknownRequirement (String.ofList line))
  | w :: ws => do
      let checkWord := String.ofList ((w :: ws).getLastD w)
      let check ←
        match TextCheck.ofWord? checkWord with
        | some check => .ok check
        | none => .error (.unknownTextCheck checkWord)
      let operations ← (w :: ws).dropLast.mapM readOperation
      let expected := String.ofList value
      if check == .matches && (Pattern.Regex.whole? expected).isNone then
        .error (.badPattern expected)
      else return .text check expected operations

/-- The head and the value of a line. -/
def splitLine (line : List Char) : List Char × List Char :=
  match Text.splitOnce [':'] line with
  | some (head, value) => (Text.trim head, Text.trim value)
  | none => (Text.trim line, [])

/-- The requirement on a line. -/
def read (tolerance : Float) (line : List Char) : Except Fault Requirement :=
  let (head, value) := splitLine line
  match String.ofList head with
  | "width" => (Range.read tolerance value).map .width
  | "height" => (Range.read tolerance value).map .height
  | "near" => readNear tolerance value
  | "inside" => readInside tolerance false value
  | "inside partly" => readInside tolerance true value
  | "above" => readDirection tolerance .above value
  | "below" => readDirection tolerance .below value
  | "left of" => readDirection tolerance .leftOf value
  | "right of" => readDirection tolerance .rightOf value
  | "component" =>
      if value.isEmpty then .error .missingComponentPath
      else .ok (.component (String.ofList value))
  | other =>
      if other == "absent" && value.isEmpty then .ok .absent
      else if other == "visible" && value.isEmpty then .ok .visible
      else if (Text.dropPrefix? "text ".toList head).isSome then readText head value line
      else .error (.unknownRequirement (String.ofList line))

/-- The requirement that is written in a string. -/
def ofText (tolerance : Float) (line : String) : Except Fault Requirement :=
  read tolerance line.toList

end Requirement

end PageLayout
