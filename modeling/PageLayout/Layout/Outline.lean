import PageLayout.Layout

/-!
# Outlines

The outline of a layout lists its objects and its sections, with four spaces for
every level.  The parts of a conditional stand under the words that start them,
and the other branch is left out if it is empty.
-/

namespace PageLayout

/-- The spaces in front of a line. -/
def indentation (level : Nat) : String := String.ofList (List.replicate (4 * level) ' ')

/-- A line of an outline. -/
def outlineLine (level : Nat) (text : String) : String := indentation level ++ text ++ "\n"

/-- A rule, with the mark of a warning. -/
def Rule.outline (level : Nat) (r : Rule) : String :=
  outlineLine level ((if r.warnOnly then "%" else "") ++ r.text)

/-- An object and its rules. -/
def ObjectRules.outline (level : Nat) (o : ObjectRules) : String :=
  outlineLine level o.object ++ String.join (o.rules.map (Rule.outline (level + 1)))

/-- Objects and their rules. -/
def outlineObjects (level : Nat) (objects : List ObjectRules) : String :=
  String.join (objects.map (ObjectRules.outline level))

/-- A condition. -/
def Condition.outline (c : Condition) : String :=
  (if c.inverted then outlineLine 1 "not" else "") ++ outlineObjects 2 c.probes

/-- A conditional. -/
def Conditional.outline (c : Conditional) : String :=
  let otherwise :=
    if c.otherwise.isEmpty then ""
    else outlineLine 1 "otherwise" ++ outlineObjects 2 c.otherwise
  outlineLine 1 "if" ++
    String.intercalate (outlineLine 1 "or") (c.conditions.map Condition.outline) ++
    outlineLine 1 "do" ++ outlineObjects 2 c.body ++ otherwise ++ outlineLine 1 "end"

/-- A section. -/
def Section.outline (s : Section) : String :=
  let tags := if s.tags.isEmpty then "" else " | " ++ String.intercalate ", " s.tags
  outlineLine 0 ("@ " ++ s.name ++ tags) ++ outlineObjects 1 s.objects ++
    String.join (s.conditionals.map Conditional.outline)

/-- A layout. -/
def Layout.outline (l : Layout) : String :=
  let objects := l.objects.entries.map fun e => outlineLine 1 (e.1 ++ ": " ++ e.2.text)
  (if objects.isEmpty then "" else outlineLine 0 "Objects:" ++ String.join objects) ++
    String.join (l.sections.map Section.outline)

end PageLayout
