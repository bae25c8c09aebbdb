import PageLayout.Geometry.Rect
import PageLayout.Place

/-!
# Reports

A check of a layout gives a finding for every rule that was checked, in order.
The outcome of a finding says whether the rule was kept.  A failure comes with
messages, one for each thing that is wrong, and with the areas it is about.
-/

namespace PageLayout

/-- An area of the page with the name of an object. -/
structure Area where
  /-- The area. -/
  rect : Rect
  /-- The object that it belongs to. -/
  name : String
deriving DecidableEq, Repr, Inhabited

/-- What is wrong with an object. -/
structure Violation where
  /-- The messages. -/
  messages : List String
  /-- The areas it is about. -/
  areas : List Area
deriving DecidableEq, Repr, Inhabited

namespace Violation

/-- A violation with one message and no areas. -/
def ofMessage (message : String) : Violation := ⟨[message], []⟩

/-- The messages on one line. -/
def text (v : Violation) : String := String.intercalate "; " v.messages

end Violation

/-- What came of a rule. -/
inductive Outcome where
  /-- The rule is kept. -/
  | pass
  /-- The rule is broken, and that is only a warning. -/
  | warn (violation : Violation)
  /-- The rule is broken. -/
  | fail (violation : Violation)
  /-- The object cannot be found.  Its later rules were not checked. -/
  | notFound
deriving DecidableEq, Repr, Inhabited

namespace Outcome

/-- Whether a rule is kept. -/
def isPass : Outcome → Bool
  | .pass => true
  | _ => false

/-- Whether there is only a warning. -/
def isWarning : Outcome → Bool
  | .warn _ => true
  | _ => false

/-- Whether a rule is broken and that is more than a warning. -/
def isBroken : Outcome → Bool
  | .fail _ => true
  | _ => false

/-- Whether the object cannot be found. -/
def isMissing : Outcome → Bool
  | .notFound => true
  | _ => false

/-- Whether an outcome counts against the page. -/
def isFailure (o : Outcome) : Bool := o.isBroken || o.isMissing

/-- What is wrong. -/
def violation? : Outcome → Option Violation
  | .warn violation => some violation
  | .fail violation => some violation
  | _ => none

end Outcome

/-- What came of a rule, with the rule. -/
structure Finding where
  /-- The name of the object. -/
  object : String
  /-- The text of the rule. -/
  text : String
  /-- Where the rule stands. -/
  place : Place
  /-- What came of it. -/
  outcome : Outcome
deriving DecidableEq, Repr, Inhabited

/-- The findings of a check, in order. -/
structure Report where
  /-- The findings. -/
  findings : List Finding
deriving DecidableEq, Repr, Inhabited

namespace Report

/-- The findings that count against the page. -/
def failures (r : Report) : List Finding := r.findings.filter fun f => f.outcome.isFailure

/-- Whether nothing counts against the page. -/
def passed (r : Report) : Bool := !r.findings.any fun f => f.outcome.isFailure

/-- The number of findings with some kind of outcome. -/
def count (r : Report) (kind : Outcome → Bool) : Nat := r.findings.countP fun f => kind f.outcome

/-- The number of rules that are kept. -/
def passes (r : Report) : Nat := r.count Outcome.isPass

/-- The number of warnings. -/
def warnings (r : Report) : Nat := r.count Outcome.isWarning

/-- The number of rules that are broken. -/
def broken (r : Report) : Nat := r.count Outcome.isBroken

/-- The number of objects that cannot be found. -/
def missing (r : Report) : Nat := r.count Outcome.isMissing

end Report

end PageLayout
