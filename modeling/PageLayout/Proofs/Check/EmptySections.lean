import PageLayout.Proofs.Check.Findings
import PageLayout.Proofs.Compilation.Opening

/-!
# Empty sections

A compiler may leave out the sections that demand nothing.  It does so when a compilation is
done (`compile_dropping`), so the setting decides neither whether a compilation succeeds nor
what it declares.

A section that demands nothing has no findings (`checkWith_kept`).  The setting acts again in
every component, but what a check sees of a component is the report on its layout.  So two
checks that keep and drop such sections go through the same components, and the levels of
components that are left carry the induction (`checkBelow_dropping`).
-/

namespace PageLayout

/-- The compiler with another choice about the sections that demand nothing. -/
def Compiler.dropping {π : Type} (c : Compiler π) (drop : Bool) : Compiler π :=
  { c with settings := { c.settings with dropEmptySections := drop } }

/-- The layout with or without the sections that demand nothing. -/
def Layout.kept (l : Layout) (drop : Bool) : Layout := if drop then l.dropEmpty else l

namespace Layout

@[simp] theorem objects_kept (l : Layout) (drop : Bool) : (l.kept drop).objects = l.objects := by
  cases drop <;> rfl

@[simp] theorem dropEmpty_kept (l : Layout) (drop : Bool) :
    (l.kept drop).dropEmpty = l.dropEmpty := by
  cases drop with
  | false => rfl
  | true => simp [kept, dropEmpty]

end Layout

section

variable {π : Type} [Page π]

/-! ## Compilations

The setting is read when everything else is done, so until then nothing depends on it, and
these facts hold by computation. -/

namespace Job

theorem processText_dropping (c : Compiler π) (drop : Bool) (page : Option π) :
    processText ⟨c.dropping drop, page⟩ = processText ⟨c, page⟩ := rfl

theorem processFile_dropping (c : Compiler π) (drop : Bool) (page : Option π) (nesting : Nat) :
    processFile ⟨c.dropping drop, page⟩ nesting = processFile ⟨c, page⟩ nesting := by
  induction nesting with
  | zero => rfl
  | succ nesting ih =>
      funext requested place s
      simp only [processFile, processText_dropping, ih]
      rfl

omit [Page π] in
theorem result_dropping (c : Compiler π) (drop : Bool) (page : Option π)
    (done : Except Abort Store) :
    result ⟨c.dropping drop, page⟩ done =
      (result ⟨c.dropping false, page⟩ done).map (Layout.kept · drop) := by
  cases done with
  | error a => rfl
  | ok s => cases drop <;> rfl

end Job

namespace Compiler

/-- The sections that demand nothing are dropped from the layout of a file at the end. -/
theorem compile_dropping (c : Compiler π) (drop : Bool) (page : Option π) (path : String) :
    (c.dropping drop).compile page path =
      ((c.dropping false).compile page path).map (Layout.kept · drop) := by
  unfold compile
  dsimp only
  rw [Job.result_dropping, Job.processFile_dropping, Job.processFile_dropping]
  rfl

/-- The sections that demand nothing are dropped from the layout of a text at the end. -/
theorem compileText_dropping (c : Compiler π) (drop : Bool) (page : Option π)
    (text label : String) :
    (c.dropping drop).compileText page text label =
      ((c.dropping false).compileText page text label).map (Layout.kept · drop) := by
  have hloader (drop : Bool) :
      Job.loader ⟨c.dropping drop, page⟩ = Job.loader ⟨c, page⟩ := by
    funext requested place s
    exact congrFun (congrFun (congrFun (Job.processFile_dropping ..) _) _) _
  unfold compileText
  dsimp only
  rw [Job.result_dropping, Job.processText_dropping, Job.processText_dropping, hloader, hloader]

end Compiler

/-! ## Checks -/

namespace Layout

/-- A section that demands nothing stays empty on every page. -/
theorem demanded_of_isEmpty {s : Section} (h : s.isEmpty = true) (l : Layout) (page : π)
    (component : ComponentCheck) : l.demanded page component s = [] := by
  obtain ⟨hobjects, hconditionals⟩ := Bool.and_eq_true_iff.1 h
  rw [demanded, List.isEmpty_iff.1 hobjects, List.isEmpty_iff.1 hconditionals]
  rfl

/-- What contributes nothing may as well be left out. -/
theorem flatMap_filter_not_isEmpty {α : Type} {f : Section → List α}
    (hf : ∀ s : Section, s.isEmpty = true → f s = []) (ss : List Section) :
    (ss.filter fun s => !s.isEmpty).flatMap f = ss.flatMap f := by
  induction ss with
  | nil => rfl
  | cons s ss ih =>
      cases hs : s.isEmpty with
      | true => simp [hs, ih, hf s hs]
      | false => simp [hs, ih]

/-- A section that demands nothing has no findings. -/
theorem checkWith_kept (l : Layout) (drop : Bool) (page : π) (component : ComponentCheck)
    (wanted : List String) :
    (l.kept drop).checkWith page component wanted = l.checkWith page component wanted := by
  cases drop with
  | false => rfl
  | true =>
      have hempty : ∀ s : Section, s.isEmpty = true →
          (l.demanded page component s).flatMap (l.findingsOf page component false) = [] := by
        intro s hs
        rw [demanded_of_isEmpty hs]
        rfl
      have hfilter : l.dropEmpty.sectionsFor wanted =
          (l.sectionsFor wanted).filter fun s => !s.isEmpty := List.filter_comm ..
      exact congrArg Report.mk
        ((congrArg _ hfilter).trans (flatMap_filter_not_isEmpty hempty (l.sectionsFor wanted)))

/-- The page inside an object depends on the declared objects only. -/
theorem pageInside_kept (l : Layout) (drop : Bool) (page : π) :
    (l.kept drop).pageInside page = l.pageInside page := by
  cases drop <;> rfl

/-- Components are checked alike, whether sections that demand nothing are dropped or not. -/
theorem componentBelow_dropping (limit : Nat) (c : Compiler π) (drop : Bool)
    (wanted : List String) (left : Nat) (l : Layout) (page : π) :
    componentBelow limit (some (c.dropping drop)) wanted left (l.kept drop) page =
      componentBelow limit (some (c.dropping false)) wanted left l page := by
  induction left generalizing l page with
  | zero => rfl
  | succ left ih =>
      funext object path
      unfold componentBelow
      dsimp only
      rw [pageInside_kept]
      cases l.pageInside page object with
      | error v => rw [error_bind, error_bind]
      | ok inner =>
          rw [ok_bind, ok_bind, Compiler.compile_dropping]
          cases (c.dropping false).compile (some inner) path with
          | error error => rfl
          | ok layout =>
              -- The layout of the component is dropped from once more, a level deeper.
              simp only [Except.map, checkBelow_eq, checkWith_kept, ih]

/-- The report does not depend on whether sections that demand nothing are dropped, neither from
the layout nor from components. -/
theorem check_dropping (l : Layout) (c : Compiler π) (drop : Bool) (page : π)
    (settings : CheckSettings) (wanted : List String) :
    (l.kept drop).check page settings (some (c.dropping drop)) wanted =
      l.check page settings (some (c.dropping false)) wanted := by
  rw [check_eq, check_eq, checkWith_kept, componentCheck, componentCheck, componentBelow_dropping]

end Layout

/-! ## Two compilers -/

/-- How the results of two compilers agree that may treat sections which demand nothing
differently. -/
inductive Compiler.Agree (c c' : Compiler π) :
    Except LayoutError Layout → Except LayoutError Layout → Prop
  /-- They are the same error. -/
  | failed {error : LayoutError} : Agree c c' (.error error) (.error error)
  /-- They are layouts with the same objects and the same sections that demand something, and
  every check of the one, with its compiler, has the report of the other with the other
  compiler. -/
  | compiled {l l' : Layout} : l.objects = l'.objects →
      l.dropEmpty.sections = l'.dropEmpty.sections →
      (∀ (page : π) (settings : CheckSettings) (wanted : List String),
        l.check page settings (some c) wanted = l'.check page settings (some c') wanted) →
      Agree c c' (.ok l) (.ok l')

namespace Compiler

/-- Results from which sections are dropped or not agree. -/
theorem agree_dropping (c : Compiler π) (drop drop' : Bool) (r : Except LayoutError Layout) :
    Agree (c.dropping drop) (c.dropping drop') (r.map (Layout.kept · drop))
      (r.map (Layout.kept · drop')) := by
  cases r with
  | error error => exact .failed
  | ok l =>
      refine .compiled ?_ ?_ fun page settings wanted => ?_
      · rw [Layout.objects_kept, Layout.objects_kept]
      · rw [Layout.dropEmpty_kept, Layout.dropEmpty_kept]
      · rw [Layout.check_dropping, Layout.check_dropping]

/-- Whether sections that demand nothing are dropped decides nothing.  Two compilers that differ
in it only fail with the same error, or make layouts that declare the same objects, have the
same sections that demand something, and have the same reports. -/
theorem agree_of_dropping (c : Compiler π) (drop drop' : Bool) (page : Option π) :
    (∀ path : String, Agree (c.dropping drop) (c.dropping drop')
      ((c.dropping drop).compile page path) ((c.dropping drop').compile page path)) ∧
    ∀ text label : String, Agree (c.dropping drop) (c.dropping drop')
      ((c.dropping drop).compileText page text label)
      ((c.dropping drop').compileText page text label) := by
  refine ⟨fun path => ?_, fun text label => ?_⟩
  · rw [compile_dropping c drop, compile_dropping c drop']
    exact agree_dropping c drop drop' _
  · rw [compileText_dropping c drop, compileText_dropping c drop']
    exact agree_dropping c drop drop' _

end Compiler

end

end PageLayout
