import PageLayout.Page.Snapshot
import PageLayout.Proofs.Check.Findings
import PageLayout.Proofs.Compilation.Opening

/-!
# Components and their reports

A component is checked by a report on its layout.  What is wrong with it is put together
from the messages in that report, and it is kept if there are none.  So it is kept exactly
if its report passes, provided that nothing fails without a message.

`Explains` says this of a check, and every check of a requirement explains itself
(`explains_check`).  A component explains itself if the report on its layout does, so
`explained_checkInside` is an induction on the levels that are left below the limit.
-/

namespace PageLayout

/-! ## Checks explain themselves -/

/-- A check explains itself if the violation that it finds has a message. -/
structure Explains {α : Type} (result : Except Violation α) : Prop where
  message : ∀ v, result = .error v → v.messages ≠ []

namespace Explains

variable {α β : Type}

theorem ok (a : α) : Explains (.ok a) := ⟨nofun⟩

theorem error {v : Violation} (h : v.messages ≠ []) : Explains (.error v : Except Violation α) := by
  refine ⟨fun v' hv => ?_⟩
  cases hv
  exact h

theorem ofMessage (message : String) :
    Explains (.error (.ofMessage message) : Except Violation α) :=
  .error (List.cons_ne_nil _ _)

theorem bind {x : Except Violation α} {f : α → Except Violation β} (hx : Explains x)
    (hf : ∀ a, Explains (f a)) : Explains (x >>= f) := by
  cases x with
  | error v => exact .error (hx.message v rfl)
  | ok a => exact hf a

theorem ite {p : Prop} [Decidable p] {x y : Except Violation α} (hx : Explains x)
    (hy : Explains y) : Explains (if p then x else y) := by
  split
  · exact hx
  · exact hy

end Explains

namespace Check

theorem explains_ofMessages (messages : List String) (areas : List Area) :
    Explains (ofMessages messages areas) := by
  unfold ofMessages
  split
  next => exact .ok ()
  next h => exact .error fun hnil => h (List.isEmpty_iff.2 hnil)

theorem explains_size (object : String) (area : Rect) (what : String) (actual : Float)
    (range : Range) : Explains (size object area what actual range) :=
  .ite (.ok ()) (.error (List.cons_ne_nil _ _))

theorem explains_direction (object word other : String) (gap : Float) (range : Option Range)
    (areas : List Area) : Explains (direction object word other gap range areas) := by
  cases range with
  | none => exact .ite (.error (List.cons_ne_nil _ _)) (.ok ())
  | some range => exact .ite (.ok ()) (.error (List.cons_ne_nil _ _))

theorem explains_text (object : String) (e : Element) (check : TextCheck) (expected : String)
    (operations : List TextOperation) : Explains (text object e check expected operations) := by
  unfold text
  dsimp only
  split
  next => exact .ofMessage _
  next => exact .ok ()
  next => exact .error (List.cons_ne_nil _ _)

end Check

/-- The check of a requirement explains itself if the questions for areas do. -/
theorem Requirement.explains_check {object : String} {e : Element}
    {areaOf : String → Except Violation Rect} (hareas : ∀ other, Explains (areaOf other))
    (r : Requirement) : Explains (r.check object e areaOf) := by
  cases r with
  | width | height => exact Check.explains_size ..
  | near | inside => exact (hareas _).bind fun _ => Check.explains_ofMessages ..
  | above | below | leftOf | rightOf => exact (hareas _).bind fun _ => Check.explains_direction ..
  | text => exact Check.explains_text ..
  | absent | visible | component => exact .ok ()

/-- A finding with a violation has a message. -/
def Finding.Explained (f : Finding) : Prop :=
  ∀ v, f.outcome = .fail v ∨ f.outcome = .warn v → v.messages ≠ []

theorem Finding.Explained.of_pass {f : Finding} (h : f.outcome = .pass) : f.Explained := by
  intro v hv
  simp [h] at hv

theorem Finding.Explained.of_notFound {f : Finding} (h : f.outcome = .notFound) :
    f.Explained := by
  intro v hv
  simp [h] at hv

namespace Layout

variable {π : Type} [Page π]

theorem explains_areaOf (l : Layout) (page : π) (object : String) :
    Explains (l.areaOf page object) := by
  unfold areaOf
  split
  next => exact .ite (.ok _) (.ofMessage _)
  next => exact .ofMessage _
  next => exact .ofMessage _

/-- The check of a rule explains itself if the checks of components do. -/
theorem explains_checkFound {component : ComponentCheck}
    (hcomponent : ∀ object path, Explains (component object path)) (l : Layout) (page : π)
    (object : String) (e : Element) (r : Requirement) :
    Explains (l.checkFound page component object e r) := by
  have hcheck : ∀ r : Requirement, Explains (r.check object e (l.areaOf page)) :=
    Requirement.explains_check (l.explains_areaOf page)
  unfold checkFound
  split
  next => exact .ite (.error (List.cons_ne_nil _ _)) (.ok ())
  next =>
    refine .ite (.ofMessage _) ?_
    split
    next => exact hcomponent _ _
    next => exact hcheck _

/-! ## Findings explain themselves -/

theorem explained_findingOf {result : Except Violation Unit} (h : Explains result)
    (probing : Bool) (object : String) (rule : Rule) :
    (findingOf object rule (outcomeOf probing rule result)).Explained := by
  intro v hv
  refine h.message v ?_
  cases result with
  | ok u => simp [findingOf, outcomeOf] at hv
  | error v' =>
      simp only [findingOf, outcomeOf] at hv
      split at hv <;> simpa using hv

theorem explained_findingsMissing (object : String) (rules : List Rule) :
    ∀ f ∈ findingsMissing object rules, f.Explained := by
  induction rules with
  | nil => exact List.forall_mem_nil _
  | cons rule rules ih =>
      unfold findingsMissing
      split
      next =>
        rw [List.forall_mem_cons]
        exact ⟨.of_pass rfl, ih⟩
      next =>
        rw [List.forall_mem_singleton]
        exact .of_notFound rfl

theorem explained_findingsOf {component : ComponentCheck}
    (hcomponent : ∀ object path, Explains (component object path)) (l : Layout) (page : π)
    (probing : Bool) (o : ObjectRules) :
    ∀ f ∈ l.findingsOf page component probing o, f.Explained := by
  unfold findingsOf
  split
  next e _ =>
    intro f hf
    obtain ⟨rule, _, rfl⟩ := List.mem_map.1 hf
    exact explained_findingOf (explains_checkFound hcomponent l page _ e _) probing _ rule
  next => exact explained_findingsMissing o.object o.rules

theorem explained_checkWith {component : ComponentCheck}
    (hcomponent : ∀ object path, Explains (component object path)) (l : Layout) (page : π)
    (wanted : List String) : ∀ f ∈ (l.checkWith page component wanted).findings, f.Explained := by
  intro f hf
  obtain ⟨s, _, hf⟩ := List.mem_flatMap.1 hf
  obtain ⟨o, _, hf⟩ := List.mem_flatMap.1 hf
  exact explained_findingsOf hcomponent l page false o f hf

end Layout

/-! ## From a report to a component -/

/-- The messages about a component that a finding in its report gives. -/
inductive ComponentMessages (f : Finding) : List String → Prop
  | kept : f.outcome = .pass → ComponentMessages f []
  | warned {v : Violation} : f.outcome = .warn v → ComponentMessages f []
  | broken {v : Violation} : f.outcome = .fail v →
      ComponentMessages f (v.messages.map fun message => f.object ++ ": " ++ message)
  | missed : f.outcome = .notFound →
      ComponentMessages f [f.object ++ ": \"" ++ f.object ++ "\" is absent on page"]

namespace Check

theorem absent_text (object : String) :
    object ++ ": " ++ absentMessage object = object ++ ": \"" ++ object ++ "\" is absent on page" := by
  unfold absentMessage quoted
  simp only [String.append_assoc]
  rw [← @String.append_assoc ": " "\""]
  rfl

theorem componentMessages_iff (f : Finding) (messages : List String) :
    ComponentMessages f messages ↔ componentMessages f = messages := by
  unfold componentMessages
  constructor
  · intro h
    cases h with
    | kept ho | warned ho | broken ho => rw [ho]
    | missed ho =>
        rw [ho]
        exact congrArg (fun text => [text]) (absent_text f.object)
  · rintro rfl
    cases ho : f.outcome with
    | pass => exact .kept ho
    | warn v => exact .warned ho
    | fail v => exact .broken ho
    | notFound =>
        have h := ComponentMessages.missed ho
        rwa [← absent_text] at h

/-- Only what counts against the page gives messages. -/
theorem flatMap_failures (r : Report) :
    r.failures.flatMap componentMessages = r.findings.flatMap componentMessages := by
  unfold Report.failures
  induction r.findings with
  | nil => rfl
  | cons f fs ih =>
      by_cases hf : f.outcome.isFailure = true
      · rw [List.filter_cons, if_pos hf, List.flatMap_cons, List.flatMap_cons, ih]
      · have hnil : componentMessages f = [] := by
          unfold componentMessages
          cases ho : f.outcome with
          | pass | warn => rfl
          | fail | notFound => exact absurd (congrArg Outcome.isFailure ho) hf
        rw [List.filter_cons, if_neg hf, List.flatMap_cons, hnil, ih, List.nil_append]

/-- A finding that has its messages gives none of a component only if it does not count
against the page. -/
theorem componentMessages_eq_nil_iff {f : Finding} (h : f.Explained) :
    componentMessages f = [] ↔ f.outcome.isFailure = false := by
  unfold componentMessages
  cases ho : f.outcome with
  | fail v =>
      have hv := h v (.inl ho)
      simpa [Outcome.isFailure, Outcome.isBroken, Outcome.isMissing] using hv
  | pass | warn | notFound => simp [Outcome.isFailure, Outcome.isBroken, Outcome.isMissing]

/-- A component is kept if and only if its report passes. -/
theorem ofReport_eq_ok_iff {r : Report} (h : ∀ f ∈ r.findings, f.Explained) :
    ofReport r = .ok () ↔ r.passed = true := by
  have hempty : (r.failures.flatMap componentMessages).isEmpty = true ↔ r.passed = true := by
    rw [List.isEmpty_iff, flatMap_failures, List.flatMap_eq_nil_iff]
    simp only [Report.passed, Bool.not_eq_true', List.any_eq_false, Bool.not_eq_true]
    constructor
    · exact fun hnil f hf => (componentMessages_eq_nil_iff (h f hf)).1 (hnil f hf)
    · exact fun hpass f hf => (componentMessages_eq_nil_iff (h f hf)).2 (hpass f hf)
  rw [← hempty, ofReport, ofMessages]
  split
  next hnil => exact ⟨fun _ => hnil, fun _ => rfl⟩
  next hnil => exact ⟨nofun, fun h => absurd h hnil⟩

/-- The messages about a component come from the findings in its report, in order. -/
theorem assembled_of_ofReport {r : Report} {v : Violation} (h : ofReport r = .error v) :
    Assembled ComponentMessages r.findings v.messages := by
  rw [assembled_iff componentMessages_iff, ← flatMap_failures]
  unfold ofReport ofMessages at h
  split at h
  next => cases h
  next =>
    cases h
    rfl

end Check

/-! ## Components in components -/

namespace Layout

variable {π : Type} [Page π] (settings : CheckSettings) (compiler : Option (Compiler π))
  (wanted : List String)

/-- The report on a layout that some number of components lie around. -/
def checkInside (depth : Nat) (l : Layout) (page : π) : Report :=
  checkBelow settings.maxComponentDepth compiler wanted (settings.maxComponentDepth - depth) l page

/-- How the components of a layout are checked that some number of components lie
around. -/
def componentInside (depth : Nat) (l : Layout) (page : π) : ComponentCheck :=
  componentBelow settings.maxComponentDepth compiler wanted (settings.maxComponentDepth - depth) l
    page

theorem checkInside_eq (depth : Nat) (l : Layout) (page : π) :
    checkInside settings compiler wanted depth l page =
      l.checkWith page (componentInside settings compiler wanted depth l page) wanted :=
  checkBelow_eq ..

/-- No component lies around the layout that a check starts with. -/
theorem check_eq_checkInside (l : Layout) (page : π) :
    l.check page settings compiler wanted = checkInside settings compiler wanted 0 l page := rfl

/-- Below the limit a component is checked by the report on its layout. -/
theorem componentInside_eq {c : Compiler π} {depth : Nat} {l layout : Layout} {page inner : π}
    {object path : String} (hdepth : depth < settings.maxComponentDepth)
    (hinner : l.pageInside page object = .ok inner)
    (hlayout : c.compile (some inner) path = .ok layout) :
    componentInside settings (some c) wanted depth l page object path =
      Check.ofReport (checkInside settings (some c) wanted (depth + 1) layout inner) := by
  have hleft : settings.maxComponentDepth - depth = settings.maxComponentDepth - (depth + 1) + 1 := by
    omega
  unfold componentInside
  rw [hleft, componentBelow]
  dsimp only
  rw [hinner, ok_bind, hlayout]
  rfl

/-- Components explain themselves, however many levels are left below the limit. -/
theorem explains_componentBelow (limit left : Nat) (l : Layout) (page : π)
    (object path : String) :
    Explains (componentBelow limit compiler wanted left l page object path) := by
  cases left with
  | zero => exact .ofMessage _
  | succ left =>
      cases compiler with
      | none => exact .ofMessage _
      | some c =>
          have hinside : Explains (l.pageInside page object) := by
            unfold pageInside
            split
            next => exact .ok _
            next =>
              split
              next => exact .ok _
              next => exact .ofMessage _
          refine hinside.bind fun inner => ?_
          cases c.compile (some inner) path with
          | error error => exact .ofMessage error.message
          | ok layout => exact Check.explains_ofMessages _ _

theorem explained_checkInside (depth : Nat) (l : Layout) (page : π) :
    ∀ f ∈ (checkInside settings compiler wanted depth l page).findings, f.Explained := by
  rw [checkInside_eq]
  exact explained_checkWith (explains_componentBelow compiler wanted _ _ l page) l page wanted

/-- Below the limit a component of an element that is shown is kept if and only if the report
on its layout passes.  Otherwise its messages come from the findings in that report, in order.
Every violation in a report has a message, however many components lie around the layout, and
so does every violation in a report that a check starts with.  These reports check their
components in just this way, at every level. -/
theorem component_kept_iff_passed :
    (∀ (c : Compiler π) (depth : Nat) (l layout : Layout) (page inner : π)
        (object path : String) (e : Element),
      depth < settings.maxComponentDepth → e.visible = true →
        l.pageInside page object = .ok inner → c.compile (some inner) path = .ok layout →
          let component := componentInside settings (some c) wanted depth l page
          let report := checkInside settings (some c) wanted (depth + 1) layout inner
          l.checkFound page component object e (.component path) = component object path ∧
            (component object path = .ok () ↔ report.passed = true) ∧
            ∀ v, component object path = .error v →
              Assembled ComponentMessages report.findings v.messages) ∧
    (∀ (compiler : Option (Compiler π)) (depth : Nat) (l : Layout) (page : π),
      ∀ f ∈ (checkInside settings compiler wanted depth l page).findings,
        ∀ v, f.outcome = .fail v ∨ f.outcome = .warn v → v.messages ≠ []) ∧
    (∀ (compiler : Option (Compiler π)) (l : Layout) (page : π),
      l.check page settings compiler wanted = checkInside settings compiler wanted 0 l page) ∧
    ∀ (compiler : Option (Compiler π)) (depth : Nat) (l : Layout) (page : π),
      checkInside settings compiler wanted depth l page =
        l.checkWith page (componentInside settings compiler wanted depth l page) wanted := by
  refine ⟨fun c depth l layout page inner object path e hdepth hvisible hinner hlayout => ?_,
    fun compiler => explained_checkInside settings compiler wanted,
    fun compiler => check_eq_checkInside settings compiler wanted,
    fun compiler => checkInside_eq settings compiler wanted⟩
  dsimp only
  rw [componentInside_eq settings wanted hdepth hinner hlayout]
  refine ⟨?_, Check.ofReport_eq_ok_iff ?_, fun v => Check.assembled_of_ofReport⟩
  · simp only [checkFound, hvisible, Bool.not_true, Bool.false_eq_true, if_false]
    exact componentInside_eq settings wanted hdepth hinner hlayout
  · exact explained_checkInside settings (some c) wanted (depth + 1) layout inner

/-- A compiler of one file, the description of a profile. -/
def profileCompiler : Compiler Snapshot :=
  ⟨⟨2.0, true⟩, .empty, .standard, .memory
    [("profile", "===\nname css .name\nage css .age\n===\nname\n text is: Jane\nage\n visible\n")]⟩

/-- A page with a profile that has a name and no age. -/
def profilePage : Snapshot :=
  ⟨none, [.mk .id "profile" ⟨⟨0, 0, 400, 200⟩, none, true⟩
    [.mk .css ".name" ⟨⟨0, 0, 200, 20⟩, some "John", true⟩ []]]⟩

/-- A layout that declares the profile. -/
def profileLayout : Layout := ⟨.ofList [("profile", ⟨.id, "profile", none⟩)], []⟩

/-- The profile is not kept, since its report does not pass, and it has a message for the name
that is wrong and one for the age that is missing. -/
theorem component_kept_iff_passed_profile :
    ∃ layout inner, profileLayout.pageInside profilePage "profile" = .ok inner ∧
      profileCompiler.compile (some inner) "profile" = .ok layout ∧
        (checkInside ⟨8⟩ (some profileCompiler) [] 1 layout inner).passed = false ∧
          ∃ v, componentInside ⟨8⟩ (some profileCompiler) [] 0 profileLayout profilePage "profile"
              "profile" = .error v ∧
            v.messages = ["name: \"name\" text is \"John\" but should be \"Jane\"",
              "age: \"age\" is absent on page"] ∧
            Assembled ComponentMessages
              (checkInside ⟨8⟩ (some profileCompiler) [] 1 layout inner).findings v.messages := by
  let inner : Snapshot := ⟨none, [.mk .css ".name" ⟨⟨0, 0, 200, 20⟩, some "John", true⟩ []]⟩
  obtain ⟨layout, hlayout, _⟩ : ∃ layout,
      profileCompiler.compile (some inner) "profile" = .ok layout ∧ layout.sections.length = 1 :=
    exists_ok_of_toOption (by decide +kernel)
  have hmessages : (match componentInside ⟨8⟩ (some profileCompiler) [] 0 profileLayout profilePage
        "profile" "profile" with
      | .error v => some v.messages
      | .ok _ => none) =
      some ["name: \"name\" text is \"John\" but should be \"Jane\"",
        "age: \"age\" is absent on page"] := by
    decide +kernel
  obtain ⟨_, hkept, hassembled⟩ := (component_kept_iff_passed ⟨8⟩ []).1 profileCompiler 0
    profileLayout layout profilePage inner "profile" "profile"
    ⟨⟨0, 0, 400, 200⟩, none, true⟩ (by decide) rfl rfl hlayout
  cases hcomponent : componentInside ⟨8⟩ (some profileCompiler) [] 0 profileLayout profilePage
      "profile" "profile" with
  | ok u =>
      rw [hcomponent] at hmessages
      cases hmessages
  | error v =>
      rw [hcomponent] at hmessages hkept
      refine ⟨layout, inner, rfl, hlayout, ?_, v, rfl, Option.some.inj hmessages,
        hassembled v hcomponent⟩
      rw [← Bool.not_eq_true, ← hkept]
      nofun

end Layout

end PageLayout
