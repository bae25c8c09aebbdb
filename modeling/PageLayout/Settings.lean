/-!
# Settings

What can be set for a compilation and for a check, and the values that hold if
nothing is set.
-/

namespace PageLayout

/-- What can be set for a compilation. -/
structure Settings where
  /-- The tolerance of approximate lengths. -/
  approximation : Float := 2.0
  /-- Whether sections that demand nothing are left out. -/
  dropEmptySections : Bool := true
deriving DecidableEq, Repr, Inhabited

/-- What can be set for a check. -/
structure CheckSettings where
  /-- How deep components may be nested. -/
  maxComponentDepth : Nat := 8
deriving DecidableEq, Repr, Inhabited

end PageLayout
