/-!
# Boxes on the page

The area of an element is an upright rectangle in page pixels.  The vertical
axis points down.  Right and bottom edges are computed and not stored, so a
comparison of edges is a comparison of rounded sums.
-/

namespace PageLayout

/-- A rectangle by its left upper corner and its extent. -/
structure Rect where
  /-- The left edge. -/
  x : Float
  /-- The top edge. -/
  y : Float
  /-- The horizontal extent. -/
  width : Float
  /-- The vertical extent. -/
  height : Float
deriving DecidableEq, Repr, Inhabited

namespace Rect

/-- The left edge. -/
def left (r : Rect) : Float := r.x

/-- The top edge. -/
def top (r : Rect) : Float := r.y

/-- The right edge. -/
def right (r : Rect) : Float := r.x + r.width

/-- The bottom edge. -/
def bottom (r : Rect) : Float := r.y + r.height

/-- Whether a rectangle lies inside another, edges included. -/
def contains (outer inner : Rect) : Bool :=
  outer.left ≤ inner.left && inner.right ≤ outer.right &&
    outer.top ≤ inner.top && inner.bottom ≤ outer.bottom

/-- Whether two rectangles share more than an edge. -/
def intersects (a b : Rect) : Bool :=
  a.left < b.right && b.left < a.right && a.top < b.bottom && b.top < a.bottom

/-- Whether two rectangles have the same numbers. -/
def same (a b : Rect) : Bool :=
  a.x == b.x && a.y == b.y && a.width == b.width && a.height == b.height

end Rect

end PageLayout
