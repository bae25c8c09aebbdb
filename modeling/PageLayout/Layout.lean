import PageLayout.Locator
import PageLayout.Place
import PageLayout.Requirement.Basic
import PageLayout.Table

/-!
# Layouts

A layout is a page description that has been compiled: the locators of the
declared objects, and sections with the rules that the objects have to keep.

A section has tags, and a check is made for some wanted tags.  `Section.applies`
says which sections count in it.  A section also has conditionals.  A conditional
tries its conditions on the page and demands one of two lists of rules.
-/

namespace PageLayout

/-! ## Rules -/

/-- A requirement with the line it was read from. -/
structure Rule where
  /-- What is demanded. -/
  requirement : Requirement
  /-- The line, with the values of its expressions and without the mark of a
  warning. -/
  text : String
  /-- Where the line stands. -/
  place : Place
  /-- Whether a failure is only a warning. -/
  warnOnly : Bool
deriving DecidableEq, Repr, Inhabited

/-- The rules of one object. -/
structure ObjectRules where
  /-- The name of the object. -/
  object : String
  /-- Its rules, in order. -/
  rules : List Rule
deriving DecidableEq, Repr, Inhabited

/-! ## Conditionals -/

/-- A condition holds if all its rules are kept.  An inverted one holds if they
are not. -/
structure Condition where
  /-- The rules that are tried. -/
  probes : List ObjectRules
  /-- Whether the answer is turned around. -/
  inverted : Bool
deriving DecidableEq, Repr, Inhabited

/-- Rules that depend on conditions. -/
structure Conditional where
  /-- The conditions, of which one is enough. -/
  conditions : List Condition
  /-- The rules that are demanded if a condition holds. -/
  body : List ObjectRules
  /-- The rules that are demanded if none does. -/
  otherwise : List ObjectRules
deriving DecidableEq, Repr, Inhabited

/-! ## Sections -/

/-- The tag of a section that always applies. -/
def anyTag : String := "*"

/-- A part of a layout, for pages with some tags. -/
structure Section where
  /-- The name. -/
  name : String
  /-- The tags.  A section without tags always applies. -/
  tags : List String
  /-- The rules that do not depend on anything. -/
  objects : List ObjectRules
  /-- The rules that depend on conditions. -/
  conditionals : List Conditional
  /-- The line that the section starts with. -/
  place : Place
deriving DecidableEq, Repr, Inhabited

namespace Section

/-- A section without rules. -/
def opened (name : String) (tags : List String) (place : Place) : Section :=
  ⟨name, tags, [], [], place⟩

/-- Whether a section demands nothing. -/
def isEmpty (s : Section) : Bool := s.objects.isEmpty && s.conditionals.isEmpty

/-- Whether a section applies when some tags are wanted. -/
def applies (wanted : List String) (s : Section) : Bool :=
  s.tags.isEmpty || s.tags.any fun tag => tag == anyTag || wanted.contains tag

end Section

/-! ## Layouts -/

/-- A compiled page description. -/
structure Layout where
  /-- The locators of the declared objects. -/
  objects : Table Locator
  /-- The sections, in order. -/
  sections : List Section
deriving Inhabited

namespace Layout

/-- The locator of a declared object. -/
def locator? (l : Layout) (object : String) : Option Locator := l.objects.get? object

/-- The sections that apply when some tags are wanted. -/
def sectionsFor (l : Layout) (wanted : List String) : List Section :=
  l.sections.filter (Section.applies wanted)

/-- The same layout without the sections that demand nothing. -/
def dropEmpty (l : Layout) : Layout :=
  { l with sections := l.sections.filter fun s => !s.isEmpty }

end Layout

end PageLayout
