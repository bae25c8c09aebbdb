import PageLayout.Compilation.Directive
import PageLayout.Layout

/-!
# Conditionals that are being read

A conditional is read part by part: one condition or more, the body, and perhaps
the other branch.  While it is open, the rules of object blocks go to the part
that was started last.  A conditional has a condition from the start, so no rules
are ever lost.
-/

namespace PageLayout

/-- A part of a conditional. -/
inductive Branch where
  | conditions
  | body
  | otherwise
deriving DecidableEq, Repr, Inhabited

/-- A conditional that is not closed yet. -/
structure OpenConditional where
  /-- The conditions before the last one. -/
  earlier : List Condition
  /-- The last condition. -/
  latest : Condition
  /-- The rules of the body. -/
  body : List ObjectRules
  /-- The rules of the other branch. -/
  otherwise : List ObjectRules
  /-- The part that was started last. -/
  branch : Branch
  /-- The line that the conditional starts with. -/
  place : Place
deriving DecidableEq, Repr, Inhabited

namespace OpenConditional

/-- A conditional with its first condition. -/
def start (inverted : Bool) (place : Place) : OpenConditional :=
  ⟨[], ⟨[], inverted⟩, [], [], .conditions, place⟩

/-- The conditional with one more condition. -/
def withCondition (c : OpenConditional) (inverted : Bool) : OpenConditional :=
  { c with earlier := c.earlier ++ [c.latest], latest := ⟨[], inverted⟩ }

/-- The conditional with more rules in the part that was started last. -/
def receive (c : OpenConditional) (objects : List ObjectRules) : OpenConditional :=
  match c.branch with
  | .conditions => { c with latest := { c.latest with probes := c.latest.probes ++ objects } }
  | .body => { c with body := c.body ++ objects }
  | .otherwise => { c with otherwise := c.otherwise ++ objects }

/-- The conditional when it is closed. -/
def closed (c : OpenConditional) : Conditional := ⟨c.earlier ++ [c.latest], c.body, c.otherwise⟩

/-- The open conditional, if the part that was started last is one of some.  The
word is that of the part which has to follow them. -/
def expect (c : Option OpenConditional) (word : String) (allowed : List Branch) :
    Except Fault OpenConditional :=
  match c with
  | some c => if allowed.contains c.branch then .ok c else .error (.unexpectedPart word)
  | none => .error (.unexpectedPart word)

end OpenConditional

end PageLayout
