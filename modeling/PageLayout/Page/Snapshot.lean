import PageLayout.Page.Basic

/-!
# Snapshots

A snapshot records the elements of a page in order.  Each one answers to one
selector, and several may answer to the same.  An element may have elements
inside it.  They are found only after entering it.

`Snapshot.matching` is the list of the elements that a locator matches, and the
other questions are read off it: finding takes the one at the index, and
counting takes the length.
-/

namespace PageLayout

/-- An element of a snapshot. -/
inductive Node where
  /-- An element with the selector it answers to and the elements inside it. -/
  | mk (kind : SelectorKind) (selector : String) (element : Element) (children : List Node)
deriving Repr, Inhabited

namespace Node

/-- The language of the selector. -/
def kind : Node → SelectorKind
  | .mk kind _ _ _ => kind

/-- The selector. -/
def selector : Node → String
  | .mk _ selector _ _ => selector

/-- The element itself. -/
def element : Node → Element
  | .mk _ _ element _ => element

/-- The elements inside. -/
def children : Node → List Node
  | .mk _ _ _ children => children

/-- A visible element without text. -/
def ofLocator (l : Locator) (rect : Rect) : Node := .mk l.kind l.selector ⟨rect, none, true⟩ []

/-- The same element with a text. -/
def withText (text : String) : Node → Node
  | .mk k s e cs => .mk k s { e with text := some text } cs

/-- The same element, shown or hidden. -/
def withVisible (visible : Bool) : Node → Node
  | .mk k s e cs => .mk k s { e with visible } cs

/-- The same element with one more element inside. -/
def withChild (n child : Node) : Node :=
  match n with
  | .mk k s e cs => .mk k s e (cs ++ [child])

/-- Whether an element answers to a locator, whatever its index. -/
def answersTo (l : Locator) (n : Node) : Bool := n.kind == l.kind && n.selector == l.selector

end Node

/-- The elements of a page, and the area of its screen. -/
structure Snapshot where
  /-- The area of the screen. -/
  screen : Option Rect
  /-- The elements that are inside no other. -/
  nodes : List Node
deriving Repr, Inhabited

namespace Snapshot

/-- The snapshot without elements. -/
def empty : Snapshot := ⟨none, []⟩

/-- The same snapshot with a screen. -/
def withScreen (s : Snapshot) (screen : Rect) : Snapshot := { s with screen := some screen }

/-- The same snapshot with one more element. -/
def withNode (s : Snapshot) (n : Node) : Snapshot := { s with nodes := s.nodes ++ [n] }

/-- The elements that answer to a locator, in order. -/
def matching (s : Snapshot) (l : Locator) : List Node := s.nodes.filter (Node.answersTo l)

/-- The element that a locator means.  There is none at the index zero. -/
def lookup (s : Snapshot) (l : Locator) : Option Node :=
  match l.index.getD 1 with
  | 0 => none
  | i + 1 => (s.matching l)[i]?

/-- The part of a snapshot inside an element.  The screen stays the same. -/
def enter (s : Snapshot) (l : Locator) : Option Snapshot :=
  (s.lookup l).map fun n => ⟨s.screen, n.children⟩

instance : Page Snapshot where
  find s l := (s.lookup l).map Node.element
  within := enter
  screen := Snapshot.screen
  count s l := (s.matching l).length

end Snapshot

/-! ## A page that only finds -/

/-- A snapshot behind a page that finds elements and enters them, but neither
knows its screen nor counts by itself.  What is entered is a snapshot again. -/
inductive View where
  /-- The snapshot as it is. -/
  | full (s : Snapshot)
  /-- The snapshot behind a page that only finds. -/
  | bare (s : Snapshot)
deriving Repr

namespace View

/-- The snapshot of a view. -/
def snapshot : View → Snapshot
  | .full s => s
  | .bare s => s

instance : Page View where
  find v l := Page.find v.snapshot l
  within v l := (v.snapshot.enter l).map .full
  screen
    | .full s => s.screen
    | .bare _ => none
  count
    | .full s, l => Page.count s l
    | .bare s, l => probeCount (Page.find s) l

end View

end PageLayout
