import PageLayout.Check.Requirement
import PageLayout.Compilation.Compiler

/-!
# Checking a layout

`Layout.check` checks the rules of a layout on a page.  The sections that apply
are visited in order.  In each of them the rules of the section come first, and
then those that its conditionals choose.

An object is looked up once for all its rules.  If it cannot be found, the rules
up to the first that demands more than its absence have an outcome, and the rest
are left out.  The rules that a condition tries leave no findings.

A component is compiled for the page inside its object, and its layout is checked
there.  Components are nested up to a limit, which is the measure of the
recursion.
-/

namespace PageLayout

/-- The object that stands for the screen, unless it is declared. -/
def screenObject : String := "screen"

/-- What is found for the name of an object. -/
inductive Lookup where
  /-- The object is not declared. -/
  | undeclared
  /-- The object is not on the page. -/
  | missing
  /-- The object is on the page. -/
  | found (element : Element)
deriving DecidableEq, Repr, Inhabited

/-- A check of a component: the object it is demanded of, and its path. -/
abbrev ComponentCheck := String → String → Except Violation Unit

namespace Check

/-! ## Messages -/

/-- The message about an object that is hidden. -/
def hiddenMessage (object : String) : String := quoted object ++ " is not visible on page"

/-- The message about an object that is not on the page. -/
def absentMessage (object : String) : String := quoted object ++ " is absent on page"

/-- The message about an object that should not be on the page. -/
def presentMessage (object : String) : String := quoted object ++ " is not absent on page"

/-- The message about an object that is not declared. -/
def undeclaredMessage (object : String) : String := "Cannot find locator for " ++ quoted object

/-- The message about a component that is nested too deep. -/
def tooDeepMessage (limit : Nat) (path : String) : String :=
  "Component nesting is deeper than " ++ toString limit ++ ": " ++ path

/-- The message about a component that there is no compiler for. -/
def noCompilerMessage (path : String) : String :=
  "Cannot validate component " ++ path ++ ": no spec reader"

/-! ## Components -/

/-- The messages about a rule of a component that is not kept. -/
def componentMessages (f : Finding) : List String :=
  match f.outcome with
  | .fail violation => violation.messages.map fun message => f.object ++ ": " ++ message
  | .notFound => [f.object ++ ": " ++ absentMessage f.object]
  | _ => []

/-- The areas of a rule of a component that is not kept. -/
def componentAreas (f : Finding) : List Area :=
  match f.outcome with
  | .fail violation => violation.areas
  | _ => []

/-- What is wrong with a component, from the report on it. -/
def ofReport (r : Report) : Except Violation Unit :=
  ofMessages (r.failures.flatMap componentMessages) (r.failures.flatMap componentAreas)

end Check

section

variable {π : Type} [Page π]

namespace Layout

/-! ## Objects -/

/-- What is found for the name of an object. -/
def lookup (l : Layout) (page : π) (object : String) : Lookup :=
  match l.locator? object with
  | some locator =>
      match Page.find page locator with
      | some element => .found element
      | none => .missing
  | none =>
      match Page.screen page with
      | some rect => if object == screenObject then .found ⟨rect, none, true⟩ else .undeclared
      | none => .undeclared

/-- The area of a related object, which has to be shown. -/
def areaOf (l : Layout) (page : π) (object : String) : Except Violation Rect :=
  match l.lookup page object with
  | .found element =>
      if element.visible then .ok element.rect
      else .error (.ofMessage (Check.hiddenMessage object))
  | .missing => .error (.ofMessage (Check.absentMessage object))
  | .undeclared => .error (.ofMessage (Check.undeclaredMessage object))

/-! ## Rules -/

/-- Checks a rule of an object that is on the page. -/
def checkFound (l : Layout) (page : π) (component : ComponentCheck) (object : String)
    (element : Element) (r : Requirement) : Except Violation Unit :=
  match r with
  | .absent =>
      if element.visible then
        .error ⟨[Check.presentMessage object], [⟨element.rect, object⟩]⟩
      else .ok ()
  | r =>
      if !element.visible then .error (.ofMessage (Check.hiddenMessage object))
      else
        match r with
        | .component path => component object path
        | r => r.check object element (l.areaOf page)

/-- The outcome of a rule.  Rules that are only tried give no warnings. -/
def outcomeOf (probing : Bool) (rule : Rule) : Except Violation Unit → Outcome
  | .ok _ => .pass
  | .error violation => if rule.warnOnly && !probing then .warn violation else .fail violation

/-- The finding about a rule. -/
def findingOf (object : String) (rule : Rule) (outcome : Outcome) : Finding :=
  ⟨object, rule.text, rule.place, outcome⟩

/-- The findings about the rules of an object that cannot be found.  Its absence
is as it should be.  The first rule that demands more ends the list. -/
def findingsMissing (object : String) : List Rule → List Finding
  | [] => []
  | rule :: rules =>
      if rule.requirement = .absent then
        findingOf object rule .pass :: findingsMissing object rules
      else [findingOf object rule .notFound]

/-- The findings about the rules of an object. -/
def findingsOf (l : Layout) (page : π) (component : ComponentCheck) (probing : Bool)
    (o : ObjectRules) : List Finding :=
  match l.lookup page o.object with
  | .found element =>
      o.rules.map fun rule =>
        findingOf o.object rule
          (outcomeOf probing rule (l.checkFound page component o.object element rule.requirement))
  | _ => findingsMissing o.object o.rules

/-! ## Conditions -/

/-- Whether a condition holds. -/
def holds (l : Layout) (page : π) (component : ComponentCheck) (c : Condition) : Bool :=
  let kept := c.probes.all fun o =>
    (l.findingsOf page component true o).all fun f => f.outcome.isPass
  kept != c.inverted

/-- The rules that a conditional demands. -/
def choose (l : Layout) (page : π) (component : ComponentCheck) (c : Conditional) :
    List ObjectRules :=
  if c.conditions.any (l.holds page component) then c.body else c.otherwise

/-! ## Layouts -/

/-- The rules that a section demands, in order. -/
def demanded (l : Layout) (page : π) (component : ComponentCheck) (s : Section) :
    List ObjectRules :=
  s.objects ++ s.conditionals.flatMap (l.choose page component)

/-- The report on a layout, given how components are checked. -/
def checkWith (l : Layout) (page : π) (component : ComponentCheck) (wanted : List String) :
    Report :=
  ⟨(l.sectionsFor wanted).flatMap fun s =>
    (l.demanded page component s).flatMap (l.findingsOf page component false)⟩

/-- The page inside an object.  An object that is not declared has the same
page. -/
def pageInside (l : Layout) (page : π) (object : String) : Except Violation π :=
  match l.locator? object with
  | none => .ok page
  | some locator =>
      match Page.within page locator with
      | some inner => .ok inner
      | none => .error (.ofMessage (Check.absentMessage object))

/-- The report on a layout, with as many levels of components as are left below
the limit. -/
def checkBelow (limit : Nat) (compiler : Option (Compiler π)) (wanted : List String) :
    (left : Nat) → Layout → π → Report
  | 0, l, page =>
      l.checkWith page (fun _ path => .error (.ofMessage (Check.tooDeepMessage limit path))) wanted
  | left + 1, l, page =>
      let component : ComponentCheck := fun object path =>
        match compiler with
        | none => .error (.ofMessage (Check.noCompilerMessage path))
        | some c => do
            let inner ← l.pageInside page object
            match c.compile (some inner) path with
            | .error error => .error (.ofMessage error.message)
            | .ok layout => Check.ofReport (checkBelow limit compiler wanted left layout inner)
      l.checkWith page component wanted

/-- The report on a layout for some wanted tags.  Without a compiler no component
can be checked. -/
def check (l : Layout) (page : π) (settings : CheckSettings) (compiler : Option (Compiler π))
    (wanted : List String) : Report :=
  checkBelow settings.maxComponentDepth compiler wanted settings.maxComponentDepth l page

end Layout

end

end PageLayout
