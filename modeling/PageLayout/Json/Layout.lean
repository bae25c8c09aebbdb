import PageLayout.Json.Page
import PageLayout.Layout

/-!
# Layouts in JSON

Everything in a layout has a form in JSON, and `ofJson?` reads what `toJson`
writes.

A range is an object whose only field is named after the kind of the range.  A
requirement names its kind in the field `type`, next to its parts.  As an array
it starts with the name of its kind.
-/

namespace PageLayout

/-- A line of a file. -/
def Place.ofJson? (j : Json) : Option Place := do
  match ← j.parts? ["file_path", "line"] with
  | [file, line] => return ⟨← file.required Json.toText?, ← line.required Json.toNat?⟩
  | _ => none

/-- A line of a file. -/
def Place.toJson (p : Place) : Json := .record [("file_path", .text p.file), ("line", .int p.line)]

/-! ## Ranges and locations -/

/-- Two numbers that are the parts of a range. -/
def Range.pairOfJson? (first second : String) (make : Float → Float → Range) (j : Json) :
    Option Range := do
  match ← j.parts? [first, second] with
  | [a, b] => return make (← a.required Json.toFloat?) (← b.required Json.toFloat?)
  | _ => none

/-- A range. -/
def Range.ofJson? : Json → Option Range
  | .record [(kind, j)] =>
      if kind == "exact" then j.toFloat?.map .exact
      else if kind == "between" then pairOfJson? "min" "max" .between j
      else if kind == "greater_than" then j.toFloat?.map .greaterThan
      else if kind == "less_than" then j.toFloat?.map .lessThan
      else if kind == "approximate" then pairOfJson? "value" "tolerance" .approximate j
      else none
  | _ => none

/-- A range. -/
def Range.toJson : Range → Json
  | .exact v => .record [("exact", .real v)]
  | .between min max => .record [("between", .record [("min", .real min), ("max", .real max)])]
  | .greaterThan v => .record [("greater_than", .real v)]
  | .lessThan v => .record [("less_than", .real v)]
  | .approximate v tolerance =>
      .record [("approximate", .record [("value", .real v), ("tolerance", .real tolerance)])]

/-- A side. -/
def Side.ofJson? (j : Json) : Option Side := j.toWord?.bind ofWord?

/-- A side. -/
def Side.toJson (s : Side) : Json := .text s.word

/-- A location. -/
def Location.ofJson? (j : Json) : Option Location := do
  match ← j.parts? ["range", "sides"] with
  | [range, sides] =>
      return ⟨← range.required Range.ofJson?, ← sides.required (Json.toList? Side.ofJson?)⟩
  | _ => none

/-- A location. -/
def Location.toJson (l : Location) : Json :=
  .record [("range", l.range.toJson), ("sides", Json.ofList Side.toJson l.sides)]

/-! ## Requirements -/

/-- A comparison of texts. -/
def TextCheck.ofJson? (j : Json) : Option TextCheck := j.toWord?.bind ofWord?

/-- A comparison of texts. -/
def TextCheck.toJson (c : TextCheck) : Json := .text c.word

/-- An operation on texts. -/
def TextOperation.ofJson? (j : Json) : Option TextOperation := j.toWord?.bind ofWord?

/-- An operation on texts. -/
def TextOperation.toJson (o : TextOperation) : Json := .text o.word

namespace Requirement

/-- A requirement whose only part is a range. -/
def sizeOfJson? (make : Range → Requirement) (j : Json) : Option Requirement := do
  match ← j.parts? ["range"] with
  | [range] => return make (← range.required Range.ofJson?)
  | _ => none

/-- A requirement with another object and perhaps a range. -/
def directionOfJson? (make : String → Option Range → Requirement) (j : Json) :
    Option Requirement := do
  match ← j.parts? ["object", "range"] with
  | [object, range] =>
      return make (← object.required Json.toText?) (← range.optional (Json.orNull Range.ofJson?))
  | _ => none

/-- A requirement without parts. -/
def plainOfJson? (r : Requirement) : Json → Option Requirement
  | .record _ => some r
  | .list [] => some r
  | _ => none

/-- A requirement of a kind, from its parts. -/
def ofKind? (kind : String) (j : Json) : Option Requirement :=
  match kind with
  | "width" => sizeOfJson? .width j
  | "height" => sizeOfJson? .height j
  | "near" => do
      match ← j.parts? ["object", "locations"] with
      | [object, locations] =>
          return .near (← object.required Json.toText?)
            (← locations.required (Json.toList? Location.ofJson?))
      | _ => none
  | "inside" => do
      match ← j.parts? ["object", "locations", "partly"] with
      | [object, locations, partly] =>
          return .inside (← object.required Json.toText?)
            (← locations.required (Json.toList? Location.ofJson?))
            (← partly.required Json.toBool?)
      | _ => none
  | "above" => directionOfJson? .above j
  | "below" => directionOfJson? .below j
  | "left_of" => directionOfJson? .leftOf j
  | "right_of" => directionOfJson? .rightOf j
  | "absent" => plainOfJson? .absent j
  | "visible" => plainOfJson? .visible j
  | "text" => do
      match ← j.parts? ["check", "expected", "operations"] with
      | [check, expected, operations] =>
          return .text (← check.required TextCheck.ofJson?) (← expected.required Json.toText?)
            (← operations.required (Json.toList? TextOperation.ofJson?))
      | _ => none
  | "component" => do
      match ← j.parts? ["path"] with
      | [path] => return .component (← path.required Json.toText?)
      | _ => none
  | _ => none

/-- A requirement. -/
def ofJson? : Json → Option Requirement
  | .record fields =>
      match Json.fieldsNamed "type" fields with
      | [kind] => kind.toText?.bind fun kind => ofKind? kind (.record fields)
      | _ => none
  | .list (kind :: parts) => kind.toText?.bind fun kind => ofKind? kind (.list parts)
  | _ => none

/-- The fields of a position in one direction. -/
def directionFields (object : String) (range : Option Range) : List (String × Json) :=
  [("object", .text object), ("range", Json.ofOption Range.toJson range)]

/-- The name of the kind of a requirement, and its parts. -/
def fields : Requirement → String × List (String × Json)
  | .width range => ("width", [("range", range.toJson)])
  | .height range => ("height", [("range", range.toJson)])
  | .near object locations =>
      ("near", [("object", .text object), ("locations", Json.ofList Location.toJson locations)])
  | .inside object locations partly =>
      ("inside", [("object", .text object), ("locations", Json.ofList Location.toJson locations),
        ("partly", .bool partly)])
  | .above object range => ("above", directionFields object range)
  | .below object range => ("below", directionFields object range)
  | .leftOf object range => ("left_of", directionFields object range)
  | .rightOf object range => ("right_of", directionFields object range)
  | .absent => ("absent", [])
  | .visible => ("visible", [])
  | .text check expected operations =>
      ("text", [("check", check.toJson), ("expected", .text expected),
        ("operations", Json.ofList TextOperation.toJson operations)])
  | .component path => ("component", [("path", .text path)])

/-- A requirement. -/
def toJson (r : Requirement) : Json := .record (("type", .text r.fields.1) :: r.fields.2)

end Requirement

/-! ## Rules and sections -/

/-- A rule. -/
def Rule.ofJson? (j : Json) : Option Rule := do
  match ← j.parts? ["kind", "original_text", "place", "only_warn"] with
  | [requirement, text, place, warnOnly] =>
      return ⟨← requirement.required Requirement.ofJson?, ← text.required Json.toText?,
        ← place.required Place.ofJson?, ← warnOnly.required Json.toBool?⟩
  | _ => none

/-- A rule. -/
def Rule.toJson (r : Rule) : Json :=
  .record [("kind", r.requirement.toJson), ("original_text", .text r.text),
    ("place", r.place.toJson), ("only_warn", .bool r.warnOnly)]

/-- The rules of an object. -/
def ObjectRules.ofJson? (j : Json) : Option ObjectRules := do
  match ← j.parts? ["object_name", "specs"] with
  | [object, rules] =>
      return ⟨← object.required Json.toText?, ← rules.required (Json.toList? Rule.ofJson?)⟩
  | _ => none

/-- The rules of an object. -/
def ObjectRules.toJson (o : ObjectRules) : Json :=
  .record [("object_name", .text o.object), ("specs", Json.ofList Rule.toJson o.rules)]

/-- A condition. -/
def Condition.ofJson? (j : Json) : Option Condition := do
  match ← j.parts? ["objects", "inverted"] with
  | [probes, inverted] =>
      return ⟨← probes.required (Json.toList? ObjectRules.ofJson?),
        ← inverted.required Json.toBool?⟩
  | _ => none

/-- A condition. -/
def Condition.toJson (c : Condition) : Json :=
  .record [("objects", Json.ofList ObjectRules.toJson c.probes), ("inverted", .bool c.inverted)]

/-- A conditional. -/
def Conditional.ofJson? (j : Json) : Option Conditional := do
  match ← j.parts? ["statements", "body_objects", "otherwise_objects"] with
  | [conditions, body, otherwise] =>
      return ⟨← conditions.required (Json.toList? Condition.ofJson?),
        ← body.required (Json.toList? ObjectRules.ofJson?),
        ← otherwise.required (Json.toList? ObjectRules.ofJson?)⟩
  | _ => none

/-- A conditional. -/
def Conditional.toJson (c : Conditional) : Json :=
  .record [("statements", Json.ofList Condition.toJson c.conditions),
    ("body_objects", Json.ofList ObjectRules.toJson c.body),
    ("otherwise_objects", Json.ofList ObjectRules.toJson c.otherwise)]

/-- A section. -/
def Section.ofJson? (j : Json) : Option Section := do
  match ← j.parts? ["name", "tags", "objects", "conditional_blocks", "place"] with
  | [name, tags, objects, conditionals, place] =>
      return ⟨← name.required Json.toText?, ← tags.required (Json.toList? Json.toText?),
        ← objects.required (Json.toList? ObjectRules.ofJson?),
        ← conditionals.required (Json.toList? Conditional.ofJson?),
        ← place.required Place.ofJson?⟩
  | _ => none

/-- A section. -/
def Section.toJson (s : Section) : Json :=
  .record [("name", .text s.name), ("tags", Json.ofList .text s.tags),
    ("objects", Json.ofList ObjectRules.toJson s.objects),
    ("conditional_blocks", Json.ofList Conditional.toJson s.conditionals),
    ("place", s.place.toJson)]

/-- A layout. -/
def Layout.ofJson? (j : Json) : Option Layout := do
  match ← j.parts? ["objects", "sections"] with
  | [objects, sections] =>
      return ⟨← objects.required (Json.toTable? Locator.ofJson?),
        ← sections.required (Json.toList? Section.ofJson?)⟩
  | _ => none

/-- A layout. -/
def Layout.toJson (l : Layout) : Json :=
  .record [("objects", Json.ofTable Locator.toJson l.objects),
    ("sections", Json.ofList Section.toJson l.sections)]

end PageLayout
