/-!
# Places

Everything that is read from a page description keeps the file and the line it
was read from, and every error that has a cause in the text names one.
-/

namespace PageLayout

/-- A line of a file. -/
structure Place where
  /-- The path of the file, or the label of a text that is no file. -/
  file : String
  /-- The number of the line, counted from one. -/
  line : Nat
deriving DecidableEq, Repr, Inhabited

namespace Place

/-- A place as it is written in messages. -/
def text (p : Place) : String := p.file ++ ":" ++ toString p.line

/-- The last line of a message about a place. -/
def trailer (p : Place) : String := "\n    in " ++ p.text

end Place

end PageLayout
