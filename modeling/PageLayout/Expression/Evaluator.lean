import PageLayout.Expression.Script

/-!
# Evaluators

An evaluator gives values to expressions and definitions to scripts.  The
standard one works as the modules on expressions and scripts say.  Another one
answers from a table and treats the text of a script as its only definition.
-/

namespace PageLayout

/-- What gives values to expressions and definitions to scripts. -/
structure Evaluator (π : Type) where
  /-- The value of an expression. -/
  evaluate : Scope π → String → Except EvalError Value
  /-- The definitions of a script, given its path and its text, in order. -/
  definitions : String → String → Scope π → Except EvalError (List (String × Value))

namespace Evaluator

variable {π : Type}

/-- The evaluator of expressions and scripts as they are written. -/
def standard [Page π] : Evaluator π := ⟨PageLayout.evaluate, Script.definitions⟩

/-- The variable that holds the text of the last script. -/
def scriptVariable : String := "script"

/-- The evaluator that finds the value of an expression in a table. -/
def ofTable (values : Table Value) : Evaluator π where
  evaluate _ source :=
    match values.get? source with
    | some value => .ok value
    | none => .error (.unknownVariable source)
  definitions _ source _ := .ok [(scriptVariable, .text source)]

end Evaluator

end PageLayout
