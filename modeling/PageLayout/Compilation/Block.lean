import PageLayout.Compilation.Store
import PageLayout.Reading.Line
import PageLayout.Requirement.Reader

/-!
# Object blocks

An object block is the name of an object with the indented lines below it.  Each
of the lines is a rule of the object.  A percent sign in front of a rule makes
its failure a warning.

A block that follows a list of indexes is repeated for each of them.  The store
does not change from one repetition to the next.
-/

namespace PageLayout

/-- The lines of an object block. -/
structure ObjectBlock where
  /-- The line with the name. -/
  name : Line
  /-- The indexes that the block is repeated for. -/
  indexes : Option (List Int)
  /-- The indented lines. -/
  lines : List Line
deriving DecidableEq, Repr, Inhabited

namespace ObjectBlock

/-- The block with one more line. -/
def withLine (b : ObjectBlock) (line : Line) : ObjectBlock := { b with lines := b.lines ++ [line] }

end ObjectBlock

/-- The text of a rule without the mark of a warning, and whether there was
one. -/
def splitWarning (text : String) : Bool × String :=
  match text.toList with
  | '%' :: rest => (true, String.ofList (Text.trimStart rest))
  | _ => (false, text)

/-- A requirement whose component is found from the working directory. -/
def Requirement.resolve (t : Trail) : Requirement → Requirement
  | .component path => .component (t.resolve path)
  | r => r

namespace Job

variable {π : Type}

/-- The rule on a line. -/
def ruleOf (j : Job π) (s : Store) (index : Option Int) (line : Line) :
    Except LayoutError Rule := do
  let text ← j.substitute s index line.place line.text
  let (warnOnly, text) := splitWarning text
  let requirement ←
    (Requirement.ofText j.settings.approximation text).mapError (.fault · line.place)
  return ⟨requirement.resolve s.trail, text, line.place, warnOnly⟩

/-- The rules of a block for one index. -/
def repetitionOf (j : Job π) (s : Store) (b : ObjectBlock) (index : Option Int) :
    Except LayoutError ObjectRules := do
  let name ← j.substitute s index b.name.place b.name.text
  let rules ← b.lines.mapM (j.ruleOf s index)
  return ⟨Text.trimmed name, rules⟩

/-- The rules of a block. -/
def objectsOf (j : Job π) (s : Store) (b : ObjectBlock) : Except LayoutError (List ObjectRules) :=
  match b.indexes with
  | none => do return [← j.repetitionOf s b none]
  | some indexes => indexes.mapM fun index => j.repetitionOf s b (some index)

end Job

end PageLayout
