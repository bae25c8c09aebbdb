import PageLayout.Json.Fields
import PageLayout.Json.Reader
import PageLayout.Page.Snapshot

/-!
# Pages in JSON

A page is written as the area of its screen and its elements.  An element has the
kind and the selector it answers to, its area, and perhaps its text, whether it
is shown, and the elements inside it.
-/

namespace PageLayout

/-! ## Areas and locators -/

/-- An area. -/
def Rect.ofJson? (j : Json) : Option Rect := do
  match ← j.parts? ["x", "y", "width", "height"] with
  | [x, y, width, height] =>
      return ⟨← x.required Json.toFloat?, ← y.required Json.toFloat?,
        ← width.required Json.toFloat?, ← height.required Json.toFloat?⟩
  | _ => none

/-- An area. -/
def Rect.toJson (r : Rect) : Json :=
  .record [("x", .real r.x), ("y", .real r.y), ("width", .real r.width), ("height", .real r.height)]

/-- A kind of selectors. -/
def SelectorKind.ofJson? (j : Json) : Option SelectorKind := j.toWord?.bind ofWord?

/-- A kind of selectors. -/
def SelectorKind.toJson (k : SelectorKind) : Json := .text k.word

/-- A locator. -/
def Locator.ofJson? (j : Json) : Option Locator := do
  match ← j.parts? ["kind", "selector", "index"] with
  | [kind, selector, index] =>
      return ⟨← kind.required SelectorKind.ofJson?, ← selector.required Json.toText?,
        ← index.withDefault (Json.orNull Json.toNat?) none⟩
  | _ => none

/-- A locator.  Without an index there is no field for it. -/
def Locator.toJson (l : Locator) : Json :=
  .record ([("kind", l.kind.toJson), ("selector", .text l.selector)] ++
    match l.index with
    | some i => [("index", .int i)]
    | none => [])

/-! ## Elements -/

/-- How deep the elements of a page may be nested inside one another. -/
def Node.deepest : Nat := 62

/-- An element.  Elements inside one another are read up to a number of levels. -/
def Node.ofJson? : (levels : Nat) → Json → Option Node
  | 0, _ => none
  | levels + 1, j => do
      match ← j.parts? ["kind", "selector", "rect", "text", "visible", "children"] with
      | [kind, selector, rect, text, visible, children] =>
          let kind ← kind.required SelectorKind.ofJson?
          let selector ← selector.required Json.toText?
          let rect ← rect.required Rect.ofJson?
          let text ← text.withDefault (Json.orNull Json.toText?) none
          let visible ← visible.withDefault Json.toBool? true
          let children ← children.withDefault (Json.toList? (Node.ofJson? levels)) []
          return .mk kind selector ⟨rect, text, visible⟩ children
      | _ => none

mutual

/-- An element. -/
def Node.toJson : Node → Json
  | .mk kind selector element children =>
      .record [("kind", kind.toJson), ("selector", .text selector),
        ("rect", element.rect.toJson), ("text", Json.ofOption .text element.text),
        ("visible", .bool element.visible), ("children", .list (Node.listToJson children))]

/-- A list of elements. -/
def Node.listToJson : List Node → List Json
  | [] => []
  | n :: ns => n.toJson :: Node.listToJson ns

end

/-! ## Pages -/

/-- A page. -/
def Snapshot.ofJson? (j : Json) : Option Snapshot := do
  match ← j.parts? ["screen", "elements"] with
  | [screen, elements] =>
      return ⟨← screen.withDefault (Json.orNull Rect.ofJson?) none,
        ← elements.withDefault (Json.toList? (Node.ofJson? Node.deepest)) []⟩
  | _ => none

/-- A page. -/
def Snapshot.toJson (s : Snapshot) : Json :=
  .record [("screen", Json.ofOption Rect.toJson s.screen),
    ("elements", Json.ofList Node.toJson s.nodes)]

/-- The page that a text spells. -/
def Snapshot.ofText? (text : String) : Option Snapshot := (Json.read? text).bind ofJson?

end PageLayout
