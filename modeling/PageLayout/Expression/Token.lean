import PageLayout.Decimal.Reader
import PageLayout.Expression.Error
import PageLayout.Text.Blank
import PageLayout.Text.Letter

/-!
# Tokens of an expression

An expression is cut into numbers, quoted strings, names, operators and
punctuation.  Blanks separate tokens and are dropped.  A name may contain
hyphens, but it does not end in one, so that `a- b` is a subtraction.

`Token.lexeme` reads the token that starts with a given character.  The rest it
returns is no longer than what follows that character, so `Token.scan` ends.
-/

namespace PageLayout

/-- An operator between two operands. -/
inductive Operator where
  | plus
  | minus
  | times
  | divide
  | modulo
deriving DecidableEq, Repr

/-- A token of an expression. -/
inductive Token where
  /-- A number. -/
  | number (value : Float)
  /-- A quoted string, without its quotes. -/
  | string (value : String)
  /-- A name. -/
  | name (value : String)
  /-- An operator. -/
  | operator (op : Operator)
  /-- An opening parenthesis. -/
  | opening
  /-- A closing parenthesis. -/
  | closing
  /-- A comma. -/
  | comma
deriving DecidableEq, Repr

namespace Operator

/-- The character of an operator. -/
def char : Operator → Char
  | .plus => '+'
  | .minus => '-'
  | .times => '*'
  | .divide => '/'
  | .modulo => '%'

/-- The operators. -/
def all : List Operator := [.plus, .minus, .times, .divide, .modulo]

/-- The operator that a character stands for. -/
def ofChar? (c : Char) : Option Operator := all.find? fun op => op.char == c

end Operator

namespace Token

/-- A character of a number. -/
def isNumberPart (c : Char) : Bool := Decimal.isDigit c || c == '.'

/-- A character that starts a name. -/
def startsName (c : Char) : Bool := isLetter c || c == '_'

/-- A character inside a name. -/
def isNamePart (c : Char) : Bool := isLetterOrNumeral c || c == '_' || c == '-'

/-- The part of a text after its first characters that a name takes. -/
def nameTail (cs : List Char) : List Char :=
  Text.dropEndWhile (· == '-') (cs.takeWhile isNamePart)

/-- A token, and a rest no longer than a given text. -/
abbrev Lexeme (cs : List Char) := { r : Token × List Char // r.2.length ≤ cs.length }

theorem length_dropWhile_le {α : Type} (p : α → Bool) (l : List α) :
    (l.dropWhile p).length ≤ l.length := (List.dropWhile_sublist p).length_le

/-- The token that starts with `c` and goes on in `cs`, and the rest. -/
def lexeme (c : Char) (cs : List Char) : Except ParseFault (Lexeme cs) :=
  if isNumberPart c then
    let digits := c :: cs.takeWhile isNumberPart
    match Decimal.read? digits with
    | some x => .ok ⟨(.number x, cs.dropWhile isNumberPart), length_dropWhile_le _ _⟩
    | none => .error (.badNumber (String.ofList digits))
  else if c == '"' || c == '\'' then
    match h : cs.dropWhile (· != c) with
    | [] => .error .unterminatedString
    | _ :: rest =>
        .ok ⟨(.string (String.ofList (cs.takeWhile (· != c))), rest), by
          have := length_dropWhile_le (· != c) cs
          rw [h] at this
          exact Nat.le_of_succ_le this⟩
  else if startsName c then
    let tail := nameTail cs
    .ok ⟨(.name (String.ofList (c :: tail)), cs.drop tail.length), by simp⟩
  else
    match Operator.ofChar? c with
    | some op => .ok ⟨(.operator op, cs), Nat.le_refl _⟩
    | none =>
        if c == '(' then .ok ⟨(.opening, cs), Nat.le_refl _⟩
        else if c == ')' then .ok ⟨(.closing, cs), Nat.le_refl _⟩
        else if c == ',' then .ok ⟨(.comma, cs), Nat.le_refl _⟩
        else .error (.unexpectedCharacter c)

/-- The tokens of a text, or the first thing that is no token. -/
def scan : List Char → Except ParseFault (List Token)
  | [] => .ok []
  | c :: cs =>
      if isBlank c then scan cs
      else
        match lexeme c cs with
        | .error fault => .error fault
        | .ok ⟨(token, rest), _⟩ => (scan rest).map (token :: ·)
termination_by cs => cs.length
decreasing_by
  · exact Nat.lt_succ_self cs.length
  · exact Nat.lt_succ_of_le ‹rest.length ≤ cs.length›

end Token

end PageLayout
