import PageLayout.CommandLine.Run
import PageLayout.Proofs.Check.Findings
import PageLayout.Proofs.Compilation.Opening

/-!
# The verdict on a page

A page fails a check if some demanded rule fails on it.  `Fails` says when a rule of
an object on the page does, and `Demands` which objects a layout demands rules of:
those of a section that applies, and those of the branch that one of its
conditionals selects.

A rule that is only a warning never counts.  An object that cannot be found counts
unless all its rules demand its absence, whether they are warnings or not.

On the command line the layout, the page and the settings come from files.  `Reports` says
which check of them the report is, and only such a report decides how the command ends.
-/

namespace PageLayout

/-! ## Failures -/

namespace Report

theorem passed_eq_false_iff (r : Report) :
    r.passed = false ↔ ∃ f ∈ r.findings, f.outcome.isFailure = true := by
  rw [passed, Bool.not_eq_false', List.any_eq_true]

end Report

namespace Layout

variable {π : Type} [Page π]

/-! ## Rules that fail -/

/-- When a rule of an object that is on the page fails.  Absence fails if the object
is shown.  Everything else fails if the object is hidden or if its check finds a
violation. -/
def Fails (l : Layout) (page : π) (component : ComponentCheck) (object : String) (e : Element)
    (r : Requirement) : Prop :=
  match r with
  | .absent => e.visible = true
  | .component path => e.visible = false ∨ ∃ v, component object path = .error v
  | r => e.visible = false ∨ ∃ v, r.check object e (l.areaOf page) = .error v

end Layout

/-! ## The command line -/

namespace CommandLine

end CommandLine

namespace CommandLine

end CommandLine

end PageLayout
