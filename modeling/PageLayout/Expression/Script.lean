import PageLayout.Expression.Evaluation

/-!
# Scripts

A script defines variables, one on each line that has more than blanks and a
comment.  A definition is a name, an equals sign and an expression, with an
optional `var` or `let` before it and optional semicolons after it.  It may use
the definitions above it.

A comment starts at the first pair of slashes of its line, wherever it stands.
-/

namespace PageLayout.Script

/-- The part of a line before its comment. -/
def beforeComment (line : List Char) : List Char :=
  match Text.splitOnce ['/', '/'] line with
  | some (before, _) => before
  | none => line

/-- What a line says, without comment, semicolons and blanks around it. -/
def content (line : List Char) : List Char :=
  Text.trim (Text.dropEndWhile (· == ';') (Text.trim (beforeComment line)))

/-- A definition without the word that may introduce it. -/
def dropKeyword (line : List Char) : List Char :=
  match Text.dropPrefix? "var ".toList line with
  | some rest => rest
  | none => (Text.dropPrefix? "let ".toList line).getD line

/-- The name and the expression of a definition. -/
def splitDefinition (path : String) (line : List Char) : Except EvalError (String × String) :=
  match Text.splitOnce ['='] line with
  | some (name, expression) =>
      .ok (String.ofList (Text.trim name), String.ofList (Text.trim expression))
  | none => .error (.malformed (String.ofList line) (.expectedDefinition path))

section

variable {π : Type} [Page π]

/-- The definitions of the lines of a script, in order. -/
def defineAll (path : String) (s : Scope π) :
    List (List Char) → Except EvalError (List (String × Value))
  | [] => .ok []
  | line :: lines =>
      if (content line).isEmpty then defineAll path s lines
      else do
        let (name, expression) ← splitDefinition path (dropKeyword (content line))
        let value ← evaluate s expression
        let s := { s with values := s.values.insert name value }
        let others ← defineAll path s lines
        return (name, value) :: others

/-- The definitions of a script, in order. -/
def definitions (path source : String) (s : Scope π) :
    Except EvalError (List (String × Value)) :=
  defineAll path s (Text.lines source.toList)

end

end PageLayout.Script
