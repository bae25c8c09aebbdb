import PageLayout.Check.Report
import PageLayout.Json.Layout

/-!
# Reports in JSON

An outcome names its kind in the field `status`, and what is wrong stands in the
field `error`.  `ofJson?` reads what `toJson` writes.
-/

namespace PageLayout

/-- An area with the name of an object. -/
def Area.ofJson? (j : Json) : Option Area := do
  match ← j.parts? ["rect", "name"] with
  | [rect, name] => return ⟨← rect.required Rect.ofJson?, ← name.required Json.toText?⟩
  | _ => none

/-- An area with the name of an object. -/
def Area.toJson (a : Area) : Json := .record [("rect", a.rect.toJson), ("name", .text a.name)]

/-- A violation. -/
def Violation.ofJson? (j : Json) : Option Violation := do
  match ← j.parts? ["messages", "areas"] with
  | [messages, areas] =>
      return ⟨← messages.required (Json.toList? Json.toText?),
        ← areas.required (Json.toList? Area.ofJson?)⟩
  | _ => none

/-- A violation. -/
def Violation.toJson (v : Violation) : Json :=
  .record [("messages", Json.ofList .text v.messages), ("areas", Json.ofList Area.toJson v.areas)]

namespace Outcome

/-- An outcome without a violation. -/
def plainOfPart? (o : Outcome) : Part Json → Option Outcome
  | .given .null => some o
  | .omitted => some o
  | _ => none

/-- An outcome of a kind. -/
def ofKind? (kind : String) (violation : Part Json) : Option Outcome :=
  match kind with
  | "pass" => plainOfPart? .pass violation
  | "warn" => (violation.required Violation.ofJson?).map .warn
  | "fail" => (violation.required Violation.ofJson?).map .fail
  | "element_not_found" => plainOfPart? .notFound violation
  | _ => none

/-- An outcome. -/
def ofJson? (j : Json) : Option Outcome := do
  match ← j.parts? ["status", "error"] with
  | [kind, violation] => ofKind? (← kind.required Json.toText?) violation
  | _ => none

/-- An outcome. -/
def toJson : Outcome → Json
  | .pass => .record [("status", .text "pass")]
  | .warn v => .record [("status", .text "warn"), ("error", v.toJson)]
  | .fail v => .record [("status", .text "fail"), ("error", v.toJson)]
  | .notFound => .record [("status", .text "element_not_found")]

end Outcome

/-- A finding. -/
def Finding.ofJson? (j : Json) : Option Finding := do
  match ← j.parts? ["object", "spec", "place", "outcome"] with
  | [object, text, place, outcome] =>
      return ⟨← object.required Json.toText?, ← text.required Json.toText?,
        ← place.required Place.ofJson?, ← outcome.required Outcome.ofJson?⟩
  | _ => none

/-- A finding. -/
def Finding.toJson (f : Finding) : Json :=
  .record [("object", .text f.object), ("spec", .text f.text), ("place", f.place.toJson),
    ("outcome", f.outcome.toJson)]

/-- A report. -/
def Report.ofJson? (j : Json) : Option Report := do
  match ← j.parts? ["results"] with
  | [findings] => return ⟨← findings.required (Json.toList? Finding.ofJson?)⟩
  | _ => none

/-- A report. -/
def Report.toJson (r : Report) : Json :=
  .record [("results", Json.ofList Finding.toJson r.findings)]

end PageLayout
