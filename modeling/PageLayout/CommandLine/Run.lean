import PageLayout.Check.Layout
import PageLayout.Check.Summary
import PageLayout.CommandLine.Arguments
import PageLayout.CommandLine.Project
import PageLayout.Json.Report
import PageLayout.Json.Writer
import PageLayout.Layout.Outline

/-!
# Carrying out a command

`CommandLine.run` does what the program is asked for, given the files.  It gives
what is printed, and an error if something went wrong or the page does not keep
the rules.

The settings are read first, then the page, then the description.  Properties
from the command line come before those of the settings, and the tags of the
settings count if there are none on the command line.
-/

namespace PageLayout.CommandLine

/-- What came of a command. -/
structure Result where
  /-- What is printed. -/
  output : String
  /-- What went wrong. -/
  error : Option CommandError
deriving Repr

/-- The settings of a project. -/
def projectOf (files : Source) (input : Input) : Except CommandError Project :=
  match input.settings with
  | none => .ok .standard
  | some path =>
      match files.read path with
      | .error reason => .error (.unreadableSettings path reason)
      | .ok text => Project.ofText text

/-- The page in a file. -/
def pageOf (files : Source) (path : String) : Except CommandError Snapshot :=
  match files.read path with
  | .error reason => .error (.unreadablePage path reason)
  | .ok text =>
      match Snapshot.ofText? text with
      | some page => .ok page
      | none => .error (.malformedPage path)

/-- What compiles the description. -/
def compilerOf (files : Source) (input : Input) (p : Project) : Compiler Snapshot :=
  ⟨p.settings, p.properties.insertAll input.properties, .standard, files⟩

/-- The report on a page. -/
def reportOf (files : Source) (input : Input) (page : String) (tags : List String) :
    Except CommandError Report := do
  let project ← projectOf files input
  let page ← pageOf files page
  let compiler := compilerOf files input project
  let layout ← (compiler.compile (some page) input.path).mapError .layout
  let wanted := if tags.isEmpty then project.tags else tags
  return layout.check page project.checkSettings (some compiler) wanted

/-- The layout of a description. -/
def layoutOf (files : Source) (input : Input) (page : Option String) :
    Except CommandError Layout := do
  let project ← projectOf files input
  let page ← page.mapM (pageOf files)
  ((compilerOf files input project).compile page input.path).mapError .layout

/-- The error of a report. -/
def errorOf (r : Report) : Option CommandError :=
  if r.passed then none else some (.failed (r.broken + r.missing) r.findings.length)

/-- A report in some form. -/
def printReport (style : ReportStyle) (r : Report) : Format → String
  | .text => r.print style
  | .json => r.toJson.pretty ++ "\n"

/-- A layout in some form. -/
def printLayout (l : Layout) : Format → String
  | .text => l.outline
  | .json => l.toJson.pretty ++ "\n"

/-- What comes of what the program is asked for.  `terminal` says whether colours
are used if nothing is said about them. -/
def run (terminal : Bool) (files : Source) (a : Arguments) : Result :=
  match a.task with
  | .check input page tags format =>
      match reportOf files input page tags with
      | .error error => ⟨"", some error⟩
      | .ok report =>
          let colored := a.color == .always || (a.color == .auto && terminal)
          ⟨printReport ⟨colored, a.verbosity.isQuiet⟩ report format, errorOf report⟩
  | .outline input page format =>
      match layoutOf files input page with
      | .error error => ⟨"", some error⟩
      | .ok layout => ⟨printLayout layout format, none⟩

end PageLayout.CommandLine
