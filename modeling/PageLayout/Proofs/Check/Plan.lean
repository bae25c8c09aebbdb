import PageLayout.Check.Layout

/-!
# Plans of checks

All that a check of a layout cannot answer from the layout and the page alone is whether
components are kept.  `Layout.plan` says which components it asks for, one after another,
and what it does with the answers.  Not every component that is demanded is asked for: an
object may be hidden or missing, a conditional chooses one of its branches, and it tries
no further condition once one holds.

A plan is `answered` by a function that checks components, and then it gives the report of
`Layout.checkWith` (`answered_plan`).  If components are checked with a log of what happens
meanwhile, the plan is `traced`: its log has the logs of the components that are asked for,
in order, and of no others.
-/

namespace PageLayout

/-- What is done with the answers of some checks of components. -/
inductive Plan (α : Type) where
  /-- Nothing more is asked. -/
  | done (result : α)
  /-- A component is demanded of an object, and what follows depends on whether it is
  kept. -/
  | ask (object path : String) (next : Except Violation Unit → Plan α)

namespace Plan

variable {α β ε : Type}

/-- One plan after another. -/
def bind : Plan α → (α → Plan β) → Plan β
  | .done a, f => f a
  | .ask object path next, f => .ask object path fun answer => (next answer).bind f

instance : Monad Plan where
  pure := .done
  bind := bind

theorem bind_done (x : Plan α) : x.bind .done = x := by
  induction x with
  | done a => rfl
  | ask object path next ih =>
      rw [bind]
      exact congrArg _ (funext ih)

theorem bind_bind {γ : Type} (x : Plan α) (f : α → Plan β) (g : β → Plan γ) :
    (x.bind f).bind g = x.bind fun a => (f a).bind g := by
  induction x with
  | done a => rfl
  | ask object path next ih =>
      rw [bind, bind, bind]
      exact congrArg _ (funext ih)

instance : LawfulMonad Plan := LawfulMonad.mk' Plan bind_done (fun _ _ => rfl) bind_bind

/-! ## Answers -/

/-- What comes of a plan if components are checked by a function. -/
def answered (component : ComponentCheck) : Plan α → α
  | .done a => a
  | .ask object path next => (next (component object path)).answered component

section Answered

variable (component : ComponentCheck)

@[simp] theorem answered_pure (a : α) : (pure a : Plan α).answered component = a := rfl

@[simp] theorem answered_bind (x : Plan α) (f : α → Plan β) :
    (x >>= f).answered component = (f (x.answered component)).answered component := by
  induction x with
  | done a => rfl
  | ask object path next ih => exact ih (component object path)

@[simp] theorem answered_map (f : α → β) (x : Plan α) :
    (f <$> x).answered component = f (x.answered component) := by
  rw [map_eq_pure_bind, answered_bind, answered_pure]

@[simp] theorem answered_mapM (f : α → Plan β) (as : List α) :
    (as.mapM f).answered component = as.map fun a => (f a).answered component := by
  induction as with
  | nil => rfl
  | cons a as ih => simp [List.mapM_cons, ih]

@[simp] theorem answered_anyM (f : α → Plan Bool) (as : List α) :
    (as.anyM f).answered component = as.any fun a => (f a).answered component := by
  induction as with
  | nil => rfl
  | cons a as ih =>
      rw [List.anyM, answered_bind, List.any_cons]
      cases (f a).answered component with
      | true => rfl
      | false => exact ih

end Answered

/-! ## Logs -/

/-- What comes of a plan if components are checked with a log, and the log of all of it. -/
def traced (component : String → String → List ε × Except Violation Unit) :
    Plan α → List ε × α
  | .done a => ([], a)
  | .ask object path next =>
      let answer := component object path
      let rest := (next answer.2).traced component
      (answer.1 ++ rest.1, rest.2)

/-- The log changes nothing about what comes of a plan. -/
theorem traced_snd (component : String → String → List ε × Except Violation Unit)
    (x : Plan α) :
    (x.traced component).2 = x.answered fun object path => (component object path).2 := by
  induction x with
  | done a => rfl
  | ask object path next ih => exact ih (component object path).2

/-- What is in the log of a plan is in that of a component. -/
theorem mem_traced {component : String → String → List ε × Except Violation Unit}
    {x : Plan α} {e : ε} (h : e ∈ (x.traced component).1) :
    ∃ object path, e ∈ (component object path).1 := by
  induction x with
  | done a => cases h
  | ask object path next ih =>
      rcases List.mem_append.1 h with h | h
      · exact ⟨object, path, h⟩
      · exact ih _ h

/-- Two ways to check components come to the same for a plan if nothing in its log is bad, and
they come to the same for all components with nothing bad in their logs. -/
theorem traced_congr (good : ε → Prop)
    {component component' : String → String → List ε × Except Violation Unit}
    (hcomponent : ∀ object path, (∀ e ∈ (component object path).1, good e) →
      component' object path = component object path)
    {x : Plan α} (h : ∀ e ∈ (x.traced component).1, good e) :
    x.traced component' = x.traced component := by
  induction x with
  | done a => rfl
  | ask object path next ih =>
      obtain ⟨hanswer, hrest⟩ := List.forall_mem_append.1 h
      rw [traced, traced, hcomponent object path hanswer, ih _ hrest]

end Plan

/-! ## Plans of layouts -/

namespace Layout

variable {π : Type} [Page π] (l : Layout) (page : π)

/-- The plan for a rule of an element.  Only a component of an element that is shown is asked
for, and no other rule depends on how components are checked. -/
def planFound (object : String) (e : Element) (r : Requirement) :
    Plan (Except Violation Unit) :=
  match r with
  | .component path =>
      if e.visible then .ask object path .done
      else .done (.error (.ofMessage (Check.hiddenMessage object)))
  | r => .done (l.checkFound page (fun _ _ => .ok ()) object e r)

/-- The plan for the rules of an object. -/
def planOf (probing : Bool) (o : ObjectRules) : Plan (List Finding) :=
  match l.lookup page o.object with
  | .found e =>
      o.rules.mapM fun rule => do
        let result ← l.planFound page o.object e rule.requirement
        return findingOf o.object rule (outcomeOf probing rule result)
  | _ => return findingsMissing o.object o.rules

/-- The plan for a condition.  All its rules are tried. -/
def planCondition (c : Condition) : Plan Bool := do
  let findings ← c.probes.mapM (l.planOf page true)
  return (findings.all fun fs => fs.all fun f => f.outcome.isPass) != c.inverted

/-- The plan for a conditional.  Its conditions are tried until one holds. -/
def planConditional (c : Conditional) : Plan (List Finding) := do
  let holds ← c.conditions.anyM (l.planCondition page)
  let findings ← (if holds then c.body else c.otherwise).mapM (l.planOf page false)
  return findings.flatten

/-- The plan for a section. -/
def planSection (s : Section) : Plan (List Finding) := do
  let own ← s.objects.mapM (l.planOf page false)
  let chosen ← s.conditionals.mapM (l.planConditional page)
  return own.flatten ++ chosen.flatten

/-- The plan for the sections that apply. -/
def plan (wanted : List String) : Plan Report := do
  let findings ← (l.sectionsFor wanted).mapM (l.planSection page)
  return ⟨findings.flatten⟩

section Answered

variable (component : ComponentCheck)

theorem answered_planFound (object : String) (e : Element) (r : Requirement) :
    (l.planFound page object e r).answered component =
      l.checkFound page component object e r := by
  cases r with
  | component path =>
      unfold planFound checkFound
      cases e.visible <;> rfl
  | _ => rfl

theorem answered_planOf (probing : Bool) (o : ObjectRules) :
    (l.planOf page probing o).answered component = l.findingsOf page component probing o := by
  unfold planOf findingsOf
  cases l.lookup page o.object with
  | found e => simp [answered_planFound]
  | undeclared | missing => rfl

theorem answered_planCondition (c : Condition) :
    (l.planCondition page c).answered component = l.holds page component c := by
  simp [planCondition, holds, answered_planOf, List.all_map, Function.comp_def]

theorem answered_planConditional (c : Conditional) :
    (l.planConditional page c).answered component =
      (l.choose page component c).flatMap (l.findingsOf page component false) := by
  simp [planConditional, choose, answered_planCondition, answered_planOf, List.flatMap_def]

theorem answered_planSection (s : Section) :
    (l.planSection page s).answered component =
      (l.demanded page component s).flatMap (l.findingsOf page component false) := by
  rw [demanded, List.flatMap_append, List.flatMap_assoc]
  simp [planSection, answered_planOf, answered_planConditional, List.flatMap_def]

/-- A plan that is answered gives the report. -/
theorem answered_plan (wanted : List String) :
    (l.plan page wanted).answered component = l.checkWith page component wanted := by
  simp [plan, checkWith, answered_planSection, List.flatMap_def]

end Answered

end Layout

end PageLayout
