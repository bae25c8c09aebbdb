import PageLayout.Expression.Token

/-!
# Expression trees

`Expr.ofTokens` reads a tree off a list of tokens.  Products bind tighter than
sums, a sign binds tighter than a product, and operators of one level group to
the left.

Reading never fails.  Where the tokens stop making sense the tree has a `fault`,
or an expression that is `followedBy` one.  An evaluation from left to right
meets such a fault exactly where it would have met it while reading, after the
value of everything before it.  So an error in a value that stands before a
fault in the form is the one that is reported.

Every reader returns the tokens that are left, with a proof that there are no
more of them than before.
-/

namespace PageLayout

/-- An expression. -/
inductive Expr where
  /-- A number. -/
  | number (value : Float)
  /-- A text. -/
  | string (value : String)
  /-- A truth value. -/
  | bool (value : Bool)
  /-- The value of a name. -/
  | variable (name : String)
  /-- A function and its arguments. -/
  | call (function : String) (arguments : List Expr)
  /-- A number with the other sign. -/
  | negate (operand : Expr)
  /-- Two operands and the operator between them. -/
  | binary (op : Operator) (left right : Expr)
  /-- A place where the form is wrong. -/
  | fault (fault : ParseFault)
  /-- An expression after which the form is wrong. -/
  | followedBy (before : Expr) (fault : ParseFault)
deriving Repr

namespace Expr

/-- The operators of a sum. -/
def isAdditive : Operator → Bool
  | .plus | .minus => true
  | _ => false

/-- The operators of a product. -/
def isMultiplicative (op : Operator) : Bool := !isAdditive op

/-- What a reader returns: something and the tokens that are left. -/
abbrev Parsed (α : Type) (ts : List Token) := { r : α × List Token // r.2.length ≤ ts.length }

/-- The expression that a single name is. -/
def ofName (name : String) : Expr :=
  if name == "true" then .bool true
  else if name == "false" then .bool false
  else .variable name

mutual

/-- Reads a sum. -/
def readSum (ts : List Token) : Parsed Expr ts :=
  match readProduct ts with
  | ⟨(left, rest), h⟩ =>
      have h : rest.length ≤ ts.length := h
      match readSumTail left rest with
      | ⟨(e, rest'), h'⟩ => ⟨(e, rest'), Nat.le_trans h' h⟩
termination_by 8 * ts.length + 5

/-- Reads the terms of a sum after the first. -/
def readSumTail (left : Expr) : (ts : List Token) → Parsed Expr ts
  | .operator op :: rest =>
      if isAdditive op then
        match readProduct rest with
        | ⟨(right, rest'), h⟩ =>
            have h : rest'.length ≤ rest.length := h
            match readSumTail (.binary op left right) rest' with
            | ⟨(e, rest''), h'⟩ => ⟨(e, rest''), Nat.le_succ_of_le (Nat.le_trans h' h)⟩
      else ⟨(left, .operator op :: rest), Nat.le_refl _⟩
  | ts => ⟨(left, ts), Nat.le_refl _⟩
termination_by ts => 8 * ts.length + 4

/-- Reads a product. -/
def readProduct (ts : List Token) : Parsed Expr ts :=
  match readOperand ts with
  | ⟨(left, rest), h⟩ =>
      have h : rest.length ≤ ts.length := h
      match readProductTail left rest with
      | ⟨(e, rest'), h'⟩ => ⟨(e, rest'), Nat.le_trans h' h⟩
termination_by 8 * ts.length + 3

/-- Reads the factors of a product after the first. -/
def readProductTail (left : Expr) : (ts : List Token) → Parsed Expr ts
  | .operator op :: rest =>
      if isMultiplicative op then
        match readOperand rest with
        | ⟨(right, rest'), h⟩ =>
            have h : rest'.length ≤ rest.length := h
            match readProductTail (.binary op left right) rest' with
            | ⟨(e, rest''), h'⟩ => ⟨(e, rest''), Nat.le_succ_of_le (Nat.le_trans h' h)⟩
      else ⟨(left, .operator op :: rest), Nat.le_refl _⟩
  | ts => ⟨(left, ts), Nat.le_refl _⟩
termination_by ts => 8 * ts.length + 2

/-- Reads an operand with its signs. -/
def readOperand : (ts : List Token) → Parsed Expr ts
  | .operator .minus :: rest =>
      match readOperand rest with
      | ⟨(e, rest'), h⟩ => ⟨(.negate e, rest'), Nat.le_succ_of_le h⟩
  | .number x :: rest => ⟨(.number x, rest), Nat.le_succ _⟩
  | .string s :: rest => ⟨(.string s, rest), Nat.le_succ _⟩
  | .opening :: rest =>
      match readSum rest with
      | ⟨(e, after), h⟩ =>
          match after, h with
          | .closing :: rest', h => ⟨(e, rest'), Nat.le_succ_of_le (Nat.le_of_succ_le h)⟩
          | _, _ => ⟨(.followedBy e .expectedParenthesis, []), Nat.zero_le _⟩
  | .name f :: .opening :: rest =>
      match readArguments rest with
      | ⟨(es, rest'), h⟩ => ⟨(.call f es, rest'), Nat.le_succ_of_le (Nat.le_succ_of_le h)⟩
  | .name x :: rest => ⟨(ofName x, rest), Nat.le_succ _⟩
  | _ => ⟨(.fault .expectedValue, []), Nat.zero_le _⟩
termination_by ts => 8 * ts.length

/-- Reads the arguments of a call and its closing parenthesis. -/
def readArguments : (ts : List Token) → Parsed (List Expr) ts
  | .closing :: rest => ⟨([], rest), Nat.le_succ _⟩
  | ts => readArgumentTail ts
termination_by ts => 8 * ts.length + 7

/-- Reads at least one argument, and the closing parenthesis. -/
def readArgumentTail (ts : List Token) : Parsed (List Expr) ts :=
  match readSum ts with
  | ⟨(e, after), h⟩ =>
      match after, h with
      | .comma :: rest, h =>
          have h : rest.length < ts.length := h
          match readArgumentTail rest with
          | ⟨(es, rest'), h'⟩ => ⟨(e :: es, rest'), Nat.le_trans h' (Nat.le_of_lt h)⟩
      | .closing :: rest, h => ⟨([e], rest), Nat.le_of_succ_le h⟩
      | _, _ => ⟨([.followedBy e .expectedSeparator], []), Nat.zero_le _⟩
termination_by 8 * ts.length + 6

end

/-- The expression of a list of tokens. -/
def ofTokens (ts : List Token) : Expr :=
  match readSum ts with
  | ⟨(e, []), _⟩ => e
  | ⟨(e, _ :: _), _⟩ => .followedBy e .trailingInput

end Expr

end PageLayout
