import PageLayout.Decimal.Notation
import PageLayout.Decimal.Reader
import PageLayout.Expression.Error
import PageLayout.Text.Blank

/-!
# Values

A variable of a page description holds a truth value, a number or a text.  What
is written after `@@ set` is a number if it reads as one, and a text otherwise.
-/

namespace PageLayout

/-- The value of a variable or an expression. -/
inductive Value where
  /-- A truth value. -/
  | bool (value : Bool)
  /-- A number. -/
  | number (value : Float)
  /-- A text. -/
  | text (value : String)
deriving DecidableEq, Repr, Inhabited

namespace Value

/-- The value that a text stands for.  Blanks around a number do not count, and
a text keeps its blanks. -/
def ofLiteral (s : String) : Value :=
  match Decimal.read? (Text.trim s.toList) with
  | some x => .number x
  | none => .text s

/-- The text of a value where an expression is replaced by it. -/
def display : Value → String
  | .bool true => "true"
  | .bool false => "false"
  | .number x => Number.pixels x
  | .text s => s

/-- Whether a value is a text. -/
def isText : Value → Bool
  | .text _ => true
  | _ => false

/-- The number that a value stands for. -/
def toNumber : Value → Except EvalError Float
  | .number x => .ok x
  | .bool b => .ok (if b then 1.0 else 0.0)
  | .text s =>
      match Decimal.read? (Text.trim s.toList) with
      | some x => .ok x
      | none => .error (.notNumeric s)

end Value

end PageLayout
