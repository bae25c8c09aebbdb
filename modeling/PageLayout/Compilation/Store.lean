import PageLayout.Error
import PageLayout.Expression.Evaluator
import PageLayout.Import.Source
import PageLayout.Import.Trail
import PageLayout.Layout
import PageLayout.Reading.IndexList
import PageLayout.Reading.Template
import PageLayout.Settings

/-!
# The state of a compilation

A `Compiler` is what all compilations have in common, and a `Job` adds the page
that one of them is made for.  The `Store` is what a compilation has found out so
far.  All files of a compilation share it.

A compilation that fails is given up with its first error.  `Abort` keeps the
trail as it is then, so that one can say that every directory that was entered
was left.
-/

namespace PageLayout

/-! ## What a compilation works with -/

/-- What all compilations have in common. -/
structure Compiler (π : Type) where
  /-- The settings. -/
  settings : Settings
  /-- The properties that lines can refer to. -/
  properties : Table String
  /-- What gives values to expressions and scripts. -/
  evaluator : Evaluator π
  /-- Where files are read from. -/
  source : Source

/-- A compilation for a page, or for none. -/
structure Job (π : Type) extends Compiler π where
  /-- The page. -/
  page : Option π

/-! ## What it finds out -/

/-- What a compilation has found out. -/
structure Store where
  /-- The files that are being read and those that were. -/
  trail : Trail
  /-- The values of the variables. -/
  values : Table Value
  /-- The locators of the declared objects. -/
  objects : Table Locator
  /-- The sections, in order. -/
  sections : List Section
deriving Inhabited

/-- Why a compilation was given up, and its trail at that time. -/
structure Abort where
  /-- The error. -/
  error : LayoutError
  /-- The trail. -/
  trail : Trail
deriving DecidableEq, Repr

namespace Store

/-- The store before any line. -/
def start : Store := ⟨.start, .empty, .empty, []⟩

/-- The result of a step that leaves the trail alone. -/
def attempt {α : Type} (s : Store) (step : Except LayoutError α) : Except Abort α :=
  step.mapError fun error => ⟨error, s.trail⟩

/-- The store with the locator of one more object.  An object is declared only
once. -/
def declare (s : Store) (name : String) (locator : Locator) : Except Fault Store :=
  if s.objects.contains name then .error (.duplicateObject name)
  else .ok { s with objects := s.objects.insert name locator }

/-- The store with the locators of the elements of a group, numbered from
`index` on. -/
def declareGroup (stem : String) (locator : Locator) :
    (index count : Nat) → Store → Except Fault Store
  | _, 0, s => .ok s
  | index, count + 1, s => do
      let s ← s.declare (stem ++ toString index) (locator.withIndex index)
      declareGroup stem locator (index + 1) count s

/-- The store with the value of a variable. -/
def assign (s : Store) (name : String) (value : Value) : Store :=
  { s with values := s.values.insert name value }

/-- The store with one more section, and its index. -/
def openSection (s : Store) (new : Section) : Store × Nat :=
  ({ s with sections := s.sections ++ [new] }, s.sections.length)

/-- The store with another section at an index. -/
def modifySection (s : Store) (index : Nat) (change : Section → Section) : Store :=
  { s with sections := s.sections.modify index change }

/-- The layout that a store describes. -/
def layout (s : Store) : Layout := ⟨s.objects, s.sections⟩

end Store

/-! ## The text of a line -/

namespace Job

variable {π : Type}

/-- The variable that holds the index of a repeated block. -/
def indexVariable : String := "index"

/-- What the names in an expression of a line mean. -/
def scope (j : Job π) (s : Store) (index : Option Int) : Scope π :=
  let values :=
    match index with
    | some i => s.values.insert indexVariable (.number (Float.ofInt i))
    | none => s.values
  ⟨values, s.objects, j.page⟩

/-- The text of a line with its index, its properties and the values of its
expressions. -/
def substitute (j : Job π) (s : Store) (index : Option Int) (place : Place) (text : String) :
    Except LayoutError String := do
  let text ←
    match index with
    | some i => (Placeholder.fill i text).mapError (.fault · place)
    | none => .ok text
  let evaluate := j.evaluator.evaluate (j.scope s index)
  (Template.fill evaluate (Template.expand j.properties text)).mapError (.evaluation · place)

end Job

end PageLayout
