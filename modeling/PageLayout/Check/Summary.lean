import PageLayout.Check.Report

/-!
# Reports as text

A report is printed with a line for every finding, the messages below it, and a
line with the numbers of outcomes at the end.  A quiet report leaves out the
rules that are kept.  In colour, an outcome is a symbol and not a word.
-/

namespace PageLayout

/-- How a report is printed. -/
structure ReportStyle where
  /-- Whether outcomes are symbols in colour. -/
  colored : Bool
  /-- Whether the rules that are kept are left out. -/
  quiet : Bool
deriving DecidableEq, Repr, Inhabited

/-- How an outcome is shown. -/
structure Mark where
  /-- The word. -/
  word : String
  /-- The symbol. -/
  symbol : String
  /-- The number of the colour of the symbol. -/
  color : Nat
deriving DecidableEq, Repr

namespace Mark

/-- A mark as it is printed. -/
def text (colored : Bool) (m : Mark) : String :=
  if colored then "\x1b[3" ++ toString m.color ++ "m\x1b[1m" ++ m.symbol ++ "\x1b[0m" else m.word

end Mark

/-- The mark of an outcome. -/
def Outcome.mark : Outcome → Mark
  | .pass => ⟨"PASS", "✓", 2⟩
  | .warn _ => ⟨"WARN", "!", 3⟩
  | .fail _ => ⟨"FAIL", "✗", 1⟩
  | .notFound => ⟨"MISS", "?", 1⟩

/-- The messages below a finding. -/
def Finding.notes (f : Finding) : List String :=
  match f.outcome with
  | .pass => []
  | .warn violation => violation.messages
  | .fail violation => violation.messages
  | .notFound => ["\"" ++ f.object ++ "\" is not found on page"]

/-- A finding with its messages. -/
def Finding.print (colored : Bool) (f : Finding) : String :=
  f.outcome.mark.text colored ++ " " ++ f.object ++ ": " ++ f.text ++ "  (" ++ f.place.text ++
    ")\n" ++ String.join (f.notes.map fun note => "    " ++ note ++ "\n")

/-- The numbers of outcomes. -/
def Report.summary (r : Report) : String :=
  "\nSummary: " ++ toString r.passes ++ " passed, " ++ toString r.warnings ++ " warnings, " ++
    toString r.broken ++ " failed, " ++ toString r.missing ++ " missing\n"

/-- A report as it is printed. -/
def Report.print (style : ReportStyle) (r : Report) : String :=
  let shown := r.findings.filter fun f => !(style.quiet && f.outcome.isPass)
  String.join (shown.map (Finding.print style.colored)) ++ r.summary

end PageLayout
