import PageLayout.Error

/-!
# What can be wrong with a command

A command is given wrongly, or it cannot be carried out, or the page does not
keep the rules.  The first of these is a `UsageFault`, the others are
`CommandError`s.
-/

namespace PageLayout

/-- Why arguments are not carried out.  Asking for help or for the version is one
of the reasons. -/
inductive UsageFault where
  /-- Help is asked for. -/
  | help
  /-- The version is asked for. -/
  | version
  /-- There are no arguments at all. -/
  | noArguments
  /-- There is no command. -/
  | noCommand
  /-- A word that is no command. -/
  | unknownCommand
  /-- An option or a word that is not expected. -/
  | unknownArgument
  /-- A required argument is missing. -/
  | missingArgument
  /-- A value is missing, or it is not one of the words that are accepted. -/
  | invalidValue
  /-- A value that has not the form it should have. -/
  | malformedValue
  /-- A value for an option that takes none. -/
  | unwantedValue
  /-- An option that is given twice. -/
  | repeated
deriving DecidableEq, Repr, Inhabited

/-- Why a command cannot be carried out. -/
inductive CommandError where
  /-- The settings cannot be read. -/
  | unreadableSettings (path reason : String)
  /-- The settings are not written as they should be. -/
  | malformedSettings
  /-- The tolerance of approximate lengths is below zero or not finite. -/
  | badApproximation (value : Float)
  /-- The page cannot be read. -/
  | unreadablePage (path reason : String)
  /-- The file of the page holds no page. -/
  | malformedPage (path : String)
  /-- The page description cannot be compiled. -/
  | layout (error : LayoutError)
  /-- The page does not keep the rules. -/
  | failed (failures total : Nat)
deriving DecidableEq, Repr

namespace CommandError

/-- The text of an error.  What is wrong with the form of a file is not said. -/
def message : CommandError → String
  | .unreadableSettings path reason =>
      "Configuration error: cannot read " ++ path ++ ": " ++ reason
  | .malformedSettings => "YAML error: the settings are malformed"
  | .badApproximation value =>
      "Configuration error: approximation must be a non-negative number, got " ++ Number.text value
  | .unreadablePage path reason => (LayoutError.unreadable path reason none).message
  | .malformedPage path => (LayoutError.unreadable path "the page is malformed" none).message
  | .layout error => error.message
  | .failed failures total =>
      "Layout check failed: " ++ toString failures ++ " of " ++ toString total ++
        " specs did not pass"

end CommandError

end PageLayout
