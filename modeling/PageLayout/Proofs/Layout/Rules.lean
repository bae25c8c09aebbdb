import PageLayout.Layout

/-!
# All rules of a layout

The rules of a section stand in four kinds of places: with its own objects, in the
conditions of its conditionals, in their bodies and in their other branches.  `everyRule`
lists them all, whether a check ever comes to them or not.
-/

namespace PageLayout

/-- The objects with rules in a conditional: those that are tried, and those of both branches. -/
def Conditional.everyObject (c : Conditional) : List ObjectRules :=
  c.conditions.flatMap Condition.probes ++ c.body ++ c.otherwise

namespace Section

/-- The objects with rules in a section. -/
def everyObject (s : Section) : List ObjectRules :=
  s.objects ++ s.conditionals.flatMap Conditional.everyObject

/-- The rules in a section. -/
def everyRule (s : Section) : List Rule := s.everyObject.flatMap ObjectRules.rules

theorem mem_everyObject {s : Section} {o : ObjectRules} :
    o ∈ s.everyObject ↔ o ∈ s.objects ∨ ∃ c ∈ s.conditionals, o ∈ c.everyObject := by
  simp [everyObject]

theorem mem_everyRule {s : Section} {rule : Rule} :
    rule ∈ s.everyRule ↔ ∃ o ∈ s.everyObject, rule ∈ o.rules := by
  simp [everyRule]

end Section

namespace Layout

/-- The rules in a layout. -/
def everyRule (l : Layout) : List Rule := l.sections.flatMap Section.everyRule

theorem mem_everyRule {l : Layout} {rule : Rule} :
    rule ∈ l.everyRule ↔ ∃ s ∈ l.sections, rule ∈ s.everyRule := by
  simp [everyRule]

end Layout

end PageLayout
