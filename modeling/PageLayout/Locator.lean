import PageLayout.Geometry.Rect

/-!
# Locators

A locator says how an object is found on a page: by a selector of some kind, and
by its position among the elements that the selector matches.  Positions are
counted from one.
-/

namespace PageLayout

/-- The language a selector is written in. -/
inductive SelectorKind where
  | css
  | xpath
  | id
  | tag
deriving DecidableEq, Repr, Inhabited

namespace SelectorKind

/-- All kinds. -/
def all : List SelectorKind := [.css, .xpath, .id, .tag]

/-- The word for a kind. -/
def word : SelectorKind → String
  | .css => "css"
  | .xpath => "xpath"
  | .id => "id"
  | .tag => "tag"

/-- The kind that a word stands for. -/
def ofWord? (w : String) : Option SelectorKind := all.find? fun kind => kind.word == w

end SelectorKind

/-- How to find an object on a page. -/
structure Locator where
  /-- The language of the selector. -/
  kind : SelectorKind
  /-- The selector. -/
  selector : String
  /-- The position among the matches.  Without one the first match counts. -/
  index : Option Nat := none
deriving DecidableEq, Repr, Inhabited

namespace Locator

/-- The locator of a match by its position. -/
def withIndex (l : Locator) (index : Nat) : Locator := { l with index := some index }

/-- The locator of all matches. -/
def unindexed (l : Locator) : Locator := { l with index := none }

/-- A locator as it is written in messages. -/
def text (l : Locator) : String :=
  l.kind.word ++ " " ++ l.selector ++
    match l.index with
    | some i => " #" ++ toString i
    | none => ""

end Locator

end PageLayout
