import PageLayout.Expression.Tree
import PageLayout.Expression.Value
import PageLayout.Page.Basic
import PageLayout.Table
import PageLayout.Text.Glob

/-!
# The value of an expression

An expression is evaluated in a scope: the variables, the objects declared so
far, and the page if there is one.  Operands are evaluated from left to right,
and the first error ends the evaluation.

* `+` joins texts, if one of its operands is a text.  All other operators work
  on numbers, and a text is taken as the number it spells.
* `count` counts the declared objects whose names match a pattern.  It does not
  look at the page.
* The functions named after edges and extents measure an object on the page.
-/

namespace PageLayout

/-- What the names in an expression mean. -/
structure Scope (π : Type) where
  /-- The values of the variables. -/
  values : Table Value
  /-- The locators of the declared objects. -/
  objects : Table Locator
  /-- The page. -/
  page : Option π

namespace Scope

variable {π : Type} [Page π]

/-- The area of an object on the page. -/
def areaOf (s : Scope π) (name : String) : Except EvalError Rect :=
  match s.page with
  | none => .error (.noPage name)
  | some page =>
      match s.objects.get? name with
      | none => .error (.noLocator name)
      | some locator =>
          match Page.find page locator with
          | none => .error (.absent name)
          | some element => .ok element.rect

/-- The number of declared objects whose names match a pattern.  The pattern is matched as it
stands, and not by the regular expression for it.  So the limit on the size of an automaton,
which `Pattern.Regex.ofText?` has, is left out, and a count never fails for a long pattern. -/
def countMatching (s : Scope π) (pattern : String) : Nat :=
  (s.objects.names.filter fun name => Glob.holds pattern.toList name.toList).length

end Scope

/-! ## Operators and functions -/

/-- The result of an operator on two numbers. -/
def Operator.onNumbers (a b : Float) : Operator → Except EvalError Float
  | .plus => .ok (a + b)
  | .minus => .ok (a - b)
  | .times => .ok (a * b)
  | .divide => if b == 0.0 then .error .divisionByZero else .ok (a / b)
  | .modulo => if b == 0.0 then .error .divisionByZero else .ok (Number.remainder a b)

/-- The result of an operator. -/
def Operator.apply (op : Operator) (left right : Value) : Except EvalError Value :=
  if op == .plus && (left.isText || right.isText) then
    .ok (.text (left.display ++ right.display))
  else do
    let a ← left.toNumber
    let b ← right.toNumber
    return .number (← op.onNumbers a b)

/-- A measure of an area, by its name. -/
def measureOf? : String → Option (Rect → Float)
  | "left" => some Rect.left
  | "top" => some Rect.top
  | "right" => some Rect.right
  | "bottom" => some Rect.bottom
  | "width" => some Rect.width
  | "height" => some Rect.height
  | _ => none

/-- The text of the only argument of a function. -/
def onlyArgument (function : String) : List Value → Except EvalError String
  | [value] => .ok value.display
  | _ => .error (.oneArgument function)

section Evaluation

variable {π : Type} [Page π]

/-- The result of a function. -/
def callFunction (s : Scope π) (function : String) (arguments : List Value) :
    Except EvalError Value :=
  if function == "count" then do
    let pattern ← onlyArgument function arguments
    return .number (Float.ofNat (s.countMatching pattern))
  else
    match measureOf? function with
    | none => .error (.unknownFunction function)
    | some measure => do
        let name ← onlyArgument function arguments
        let area ← s.areaOf name
        return .number (measure area)

/-! ## Trees -/

mutual

/-- The value of an expression.  The text it was read from is named in errors. -/
def Expr.eval (s : Scope π) (source : String) : Expr → Except EvalError Value
  | .number x => .ok (.number x)
  | .string t => .ok (.text t)
  | .bool b => .ok (.bool b)
  | .variable name =>
      match s.values.get? name with
      | some value => .ok value
      | none => .error (.unknownVariable name)
  | .call function arguments => do
      let values ← evalAll s source arguments
      callFunction s function values
  | .negate operand => do
      let value ← operand.eval s source
      let x ← value.toNumber
      return .number (-x)
  | .binary op left right => do
      let a ← left.eval s source
      let b ← right.eval s source
      op.apply a b
  | .fault f => .error (.malformed source f)
  | .followedBy before f => do
      let _ ← before.eval s source
      .error (.malformed source f)

/-- The values of a list of expressions, from left to right. -/
def evalAll (s : Scope π) (source : String) : List Expr → Except EvalError (List Value)
  | [] => .ok []
  | e :: es => do
      let value ← e.eval s source
      let values ← evalAll s source es
      return value :: values

end

/-- The value of the expression that a text spells. -/
def evaluate (s : Scope π) (source : String) : Except EvalError Value :=
  match Token.scan source.toList with
  | .error fault => .error (.malformed source fault)
  | .ok tokens => (Expr.ofTokens tokens).eval s source

end Evaluation

end PageLayout
