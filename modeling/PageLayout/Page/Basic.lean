import PageLayout.Locator

/-!
# Pages

A page is anything that can find elements.  It may also know the area of its
screen, give the part of itself inside an element, and count matches.  A page
that only finds elements counts by asking for the first match, the second, and
so on, up to a limit.
-/

namespace PageLayout

/-- What is known of an element on a page. -/
structure Element where
  /-- The area. -/
  rect : Rect
  /-- The text, if there is any. -/
  text : Option String
  /-- Whether the element is shown. -/
  visible : Bool
deriving DecidableEq, Repr, Inhabited

/-- The greatest number of matches that are counted by asking one by one. -/
def probeLimit : Nat := 10000

/-- How many questions in a row, starting with a given one, find something. -/
def countFrom (found : Nat → Bool) (index : Nat) : (left : Nat) → Nat
  | 0 => 0
  | left + 1 => if found index then countFrom found (index + 1) left + 1 else 0

/-- The number of matches of a locator, found by asking for one after another. -/
def probeCount (find : Locator → Option Element) (l : Locator) : Nat :=
  countFrom (fun index => (find (l.unindexed.withIndex index)).isSome) 1 probeLimit

/-- The questions that a page answers. -/
class Page (π : Type) where
  /-- The element of a locator. -/
  find : π → Locator → Option Element
  /-- The page inside the element of a locator. -/
  within : π → Locator → Option π
  /-- The area of the screen. -/
  screen : π → Option Rect := fun _ => none
  /-- The number of matches of a locator, whatever its index. -/
  count : π → Locator → Nat := fun p l => probeCount (find p) l

end PageLayout
