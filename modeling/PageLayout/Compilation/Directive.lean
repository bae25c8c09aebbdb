import PageLayout.Error
import PageLayout.Text.Blank

/-!
# Directives

A directive is a line that starts with `@@`.

* `@@ import path` compiles another file at this point, and `@@ script path` adds
  the definitions of a script.
* `@@ set name value` sets a variable.  Without a name and a value it starts a
  block of indented lines that do.
* `@@ if`, `@@ or`, `@@ do`, `@@ otherwise` and `@@ end` are the parts of a
  conditional.  The word `not` after the first two inverts the condition.
-/

namespace PageLayout

/-- What a directive says.  The text after the first two parts of a conditional
is read later, since a part that must not stand there is the first thing that is
wrong with it. -/
inductive Directive where
  /-- Compile another file. -/
  | importFile (path : String)
  /-- Add the definitions of a script. -/
  | loadScript (path : String)
  /-- Start a block of variables. -/
  | setBlock
  /-- Set a variable. -/
  | set (definition : String)
  /-- Start a conditional with its first condition. -/
  | ifHolds (argument : String)
  /-- Start another condition. -/
  | orHolds (argument : String)
  /-- Start the body. -/
  | doRules
  /-- Start the other branch. -/
  | otherwise
  /-- Close the conditional. -/
  | close
deriving DecidableEq, Repr, Inhabited

namespace Directive

/-- The word that starts a conditional. -/
def ifWord : String := "if"

/-- The word that starts another condition. -/
def orWord : String := "or"

/-- The word that starts the body. -/
def doWord : String := "do"

/-- The word that starts the other branch. -/
def otherwiseWord : String := "otherwise"

/-- The word that closes a conditional. -/
def endWord : String := "end"

/-- The directive that a text spells, without the mark in front. -/
def ofText (text : String) : Except Fault Directive :=
  let (word, rest) := Text.firstWord text.toList
  let argument := String.ofList rest
  let word := String.ofList word
  if word == "import" then
    if rest.isEmpty then .error .missingImportPath else .ok (.importFile argument)
  else if word == "script" then
    if rest.isEmpty then .error .missingScriptPath else .ok (.loadScript argument)
  else if word == "set" then .ok (if rest.isEmpty then .setBlock else .set argument)
  else if word == ifWord then .ok (.ifHolds argument)
  else if word == orWord then .ok (.orHolds argument)
  else if word == doWord then .ok .doRules
  else if word == otherwiseWord then .ok .otherwise
  else if word == endWord then .ok .close
  else .error (.unknownDirective word)

/-- Whether a condition is inverted, from the text after its word. -/
def readInversion (word argument : String) : Except Fault Bool :=
  if argument == "" then .ok false
  else if argument == "not" then .ok true
  else .error (.trailingText word argument)

end Directive

end PageLayout
