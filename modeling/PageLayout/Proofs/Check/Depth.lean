import PageLayout.Page.Snapshot
import PageLayout.Proofs.Check.Component
import PageLayout.Proofs.Check.Plan
import PageLayout.Proofs.Compilation.Termination

/-!
# The limit on nested components

A component is compiled anew wherever it is demanded, and the page inside an object that is
not declared is the page around it.  So nothing but the limit ends the check of a component
that demands itself.  `Answers` and `Performs` tell how components are checked and how plans
are carried out at some depth, without a bound on how deep components are nested, and which
components are refused or compiled meanwhile.

Every check ends in one way (`answers_iff`), since the depth only grows and a component at
the limit is refused.  And the limit does nothing else: as long as no component is refused,
a higher limit changes nothing (`componentTrace_congr`).
-/

namespace PageLayout

/-- The compilation of a file in memory ends, and reads no file twice. -/
theorem Compiler.runsOnce_file {π : Type} [Page π] (c : Compiler π)
    (files : List (String × String)) (page : Option π) (path : String) :
    Job.RunsOnce ⟨c.withFiles files, page⟩ (.file path none .start)
      ((c.withFiles files).compile page path) := by
  have hbound : unread (identities files) .start < files.length + 1 := by
    have hle := unread_le (identities files) .start
    rw [identities, List.length_map] at hle
    exact Nat.lt_succ_of_le hle
  have hruns : ∃ log, Job.Runs ⟨c.withFiles files, page⟩ (.file path none .start) log
      (Job.processFile ⟨c.withFiles files, page⟩ (files.length + 1) path none .start) :=
    Job.runs_of_processFile (fun _ _ => identity_mem_of_read) hbound
  obtain ⟨log, h⟩ := hruns
  exact Job.runsOnce_of_runs h rfl

/-- What happens to a component that is demanded at some depth. -/
inductive Descent (π : Type) where
  /-- It is refused, since it is nested too deep. -/
  | refused (depth : Nat) (path : String)
  /-- It is compiled for the page inside its object. -/
  | compiled (depth : Nat) (path : String) (inner : π)

/-- Whether a component is refused. -/
def Descent.isRefused {π : Type} : Descent π → Bool
  | .refused _ _ => true
  | .compiled _ _ _ => false

namespace Layout

variable {π : Type} [Page π] (settings : CheckSettings) (compiler : Option (Compiler π))
  (wanted : List String)

/-! ## Checks at a depth -/

mutual

/-- What comes of a component that is demanded of an object, and what happens to it and to
the components in it.  The layout with the object lies inside `depth` components. -/
inductive Answers : (depth : Nat) → Layout → π → (object path : String) → List (Descent π) →
    Except Violation Unit → Prop
  | refused {depth : Nat} {l : Layout} {page : π} {object path : String} :
      settings.maxComponentDepth ≤ depth →
        Answers depth l page object path [.refused depth path]
          (.error (.ofMessage (Check.tooDeepMessage settings.maxComponentDepth path)))
  | noCompiler {depth : Nat} {l : Layout} {page : π} {object path : String} :
      depth < settings.maxComponentDepth → compiler = none →
        Answers depth l page object path []
          (.error (.ofMessage (Check.noCompilerMessage path)))
  | noPage {depth : Nat} {l : Layout} {page : π} {object path : String} {c : Compiler π}
      {v : Violation} :
      depth < settings.maxComponentDepth → compiler = some c →
        l.pageInside page object = .error v → Answers depth l page object path [] (.error v)
  | noLayout {depth : Nat} {l : Layout} {page inner : π} {object path : String} {c : Compiler π}
      {error : LayoutError} :
      depth < settings.maxComponentDepth → compiler = some c →
        l.pageInside page object = .ok inner → c.compile (some inner) path = .error error →
          Answers depth l page object path [.compiled depth path inner]
            (.error (.ofMessage error.message))
  | checked {depth : Nat} {l layout : Layout} {page inner : π} {object path : String}
      {c : Compiler π} {log : List (Descent π)} {r : Report} :
      depth < settings.maxComponentDepth → compiler = some c →
        l.pageInside page object = .ok inner → c.compile (some inner) path = .ok layout →
          Performs (depth + 1) layout inner (layout.plan inner wanted) log r →
            Answers depth l page object path (.compiled depth path inner :: log)
              (Check.ofReport r)

/-- What comes of a plan, and what happens to components meanwhile.  The layout that the plan
is for lies inside `depth` components. -/
inductive Performs : (depth : Nat) → Layout → π → Plan Report → List (Descent π) → Report →
    Prop
  | done {depth : Nat} {l : Layout} {page : π} {r : Report} :
      Performs depth l page (.done r) [] r
  | ask {depth : Nat} {l : Layout} {page : π} {object path : String}
      {next : Except Violation Unit → Plan Report} {answer : Except Violation Unit}
      {log log' : List (Descent π)} {r : Report} :
      Answers depth l page object path log answer → Performs depth l page (next answer) log' r →
        Performs depth l page (.ask object path next) (log ++ log') r

end

/-- A check of a layout inside some components, with its report and with what happens to
components meanwhile. -/
def Checks (depth : Nat) (l : Layout) (page : π) (log : List (Descent π)) (r : Report) : Prop :=
  Performs settings compiler wanted depth l page (l.plan page wanted) log r

/-! ## Checks end -/

/-- How components are checked at a depth, with some levels left below the limit, and what
happens to components meanwhile. -/
def componentTrace : (left depth : Nat) → Layout → π → (object path : String) →
    List (Descent π) × Except Violation Unit
  | 0, depth, _, _, _, path =>
      ([.refused depth path],
        .error (.ofMessage (Check.tooDeepMessage settings.maxComponentDepth path)))
  | left + 1, depth, l, page, object, path =>
      match compiler with
      | none => ([], .error (.ofMessage (Check.noCompilerMessage path)))
      | some c =>
          match l.pageInside page object with
          | .error v => ([], .error v)
          | .ok inner =>
              match c.compile (some inner) path with
              | .error error =>
                  ([.compiled depth path inner], .error (.ofMessage error.message))
              | .ok layout =>
                  let done := (layout.plan inner wanted).traced
                    (componentTrace left (depth + 1) layout inner)
                  (.compiled depth path inner :: done.1, Check.ofReport done.2)

/-- The report on a layout at a depth, and what happens to components meanwhile. -/
def checkTrace (depth : Nat) (l : Layout) (page : π) : List (Descent π) × Report :=
  (l.plan page wanted).traced (componentTrace settings compiler wanted
    (settings.maxComponentDepth - depth) depth l page)

/-- The log changes nothing about how components are checked. -/
theorem componentTrace_snd (left depth : Nat) (l : Layout) (page : π) (object path : String) :
    (componentTrace settings compiler wanted left depth l page object path).2 =
      componentBelow settings.maxComponentDepth compiler wanted left l page object path := by
  induction left generalizing depth l page object path with
  | zero => rfl
  | succ left ih =>
      unfold componentTrace componentBelow
      cases compiler with
      | none => rfl
      | some c =>
          dsimp only
          cases l.pageInside page object with
          | error v => rfl
          | ok inner =>
              dsimp only
              rw [ok_bind]
              cases c.compile (some inner) path with
              | error error => rfl
              | ok layout =>
                  dsimp only
                  rw [Plan.traced_snd, checkBelow_eq, ← answered_plan]
                  simp only [ih]

/-- The log changes nothing about the report. -/
theorem checkTrace_snd (depth : Nat) (l : Layout) (page : π) :
    (checkTrace settings compiler wanted depth l page).2 =
      checkInside settings compiler wanted depth l page := by
  rw [checkTrace, Plan.traced_snd, checkInside_eq, ← answered_plan]
  simp only [componentTrace_snd]
  rfl

variable {settings compiler wanted}

/-- A plan is carried out if the components that it asks for are checked. -/
theorem performs_traced {depth : Nat} {l : Layout} {page : π}
    {component : String → String → List (Descent π) × Except Violation Unit}
    (h : ∀ object path, Answers settings compiler wanted depth l page object path
      (component object path).1 (component object path).2) (x : Plan Report) :
    Performs settings compiler wanted depth l page x (x.traced component).1
      (x.traced component).2 := by
  induction x with
  | done r => exact .done
  | ask object path next ih => exact .ask (h object path) (ih _)

/-- Every check of a component ends. -/
theorem answers_trace (left : Nat) {depth : Nat}
    (hleft : settings.maxComponentDepth - depth = left) (l : Layout) (page : π)
    (object path : String) :
    Answers settings compiler wanted depth l page object path
      (componentTrace settings compiler wanted left depth l page object path).1
      (componentTrace settings compiler wanted left depth l page object path).2 := by
  induction left generalizing depth l page object path with
  | zero => exact .refused (by omega)
  | succ left ih =>
      have hdepth : depth < settings.maxComponentDepth := by omega
      unfold componentTrace
      split
      next => exact .noCompiler hdepth rfl
      next c =>
        split
        next v hinner => exact .noPage hdepth rfl hinner
        next inner hinner =>
          split
          next error herror => exact .noLayout hdepth rfl hinner herror
          next layout hlayout =>
            -- One level less is left for all components that the plan asks for.
            exact .checked hdepth rfl hinner hlayout (performs_traced (ih (by omega) layout inner) _)

/-- Below the limit one level is left for the components of a component. -/
theorem levels_below {depth : Nat} (h : depth < settings.maxComponentDepth) :
    settings.maxComponentDepth - depth = settings.maxComponentDepth - (depth + 1) + 1 := by
  omega

mutual

theorem trace_of_answers {depth : Nat} {l : Layout} {page : π} {object path : String}
    {log : List (Descent π)} {answer : Except Violation Unit} :
    Answers settings compiler wanted depth l page object path log answer →
      componentTrace settings compiler wanted (settings.maxComponentDepth - depth) depth l page
        object path = (log, answer)
  | .refused hdepth => by
      rw [Nat.sub_eq_zero_of_le hdepth]
      rfl
  | .noCompiler hdepth hc => by
      rw [levels_below hdepth, hc, componentTrace]
  | .noPage hdepth hc hinner => by
      rw [levels_below hdepth, hc, componentTrace]
      dsimp only
      rw [hinner]
  | .noLayout hdepth hc hinner herror => by
      rw [levels_below hdepth, hc, componentTrace]
      dsimp only
      rw [hinner]
      dsimp only
      rw [herror]
  | .checked hdepth hc hinner hlayout hperforms => by
      have hplan := trace_of_performs hperforms
      rw [hc] at hplan
      rw [levels_below hdepth, hc, componentTrace]
      dsimp only
      rw [hinner]
      dsimp only
      rw [hlayout]
      dsimp only
      rw [hplan]

theorem trace_of_performs {depth : Nat} {l : Layout} {page : π} {x : Plan Report}
    {log : List (Descent π)} {r : Report} :
    Performs settings compiler wanted depth l page x log r →
      x.traced (componentTrace settings compiler wanted (settings.maxComponentDepth - depth) depth
        l page) = (log, r)
  | .done => rfl
  | .ask hanswers hperforms => by
      rw [Plan.traced, trace_of_answers hanswers]
      dsimp only
      rw [trace_of_performs hperforms]

end

/-- A check of a component ends in one way. -/
theorem answers_iff {depth : Nat} {l : Layout} {page : π} {object path : String}
    {log : List (Descent π)} {answer : Except Violation Unit} :
    Answers settings compiler wanted depth l page object path log answer ↔
      componentTrace settings compiler wanted (settings.maxComponentDepth - depth) depth l page
        object path = (log, answer) := by
  refine ⟨trace_of_answers, fun h => ?_⟩
  obtain rfl : _ = log := congrArg Prod.fst h
  obtain rfl : _ = answer := congrArg Prod.snd h
  exact answers_trace _ rfl l page object path

/-- Every check of a layout ends. -/
theorem checks_trace (depth : Nat) (l : Layout) (page : π) :
    Checks settings compiler wanted depth l page
      (checkTrace settings compiler wanted depth l page).1
      (checkTrace settings compiler wanted depth l page).2 :=
  performs_traced (answers_trace _ rfl l page) _

/-- A check of a layout ends in one way. -/
theorem checks_iff {depth : Nat} {l : Layout} {page : π} {log : List (Descent π)} {r : Report} :
    Checks settings compiler wanted depth l page log r ↔
      checkTrace settings compiler wanted depth l page = (log, r) := by
  refine ⟨trace_of_performs, fun h => ?_⟩
  obtain rfl : _ = log := congrArg Prod.fst h
  obtain rfl : _ = r := congrArg Prod.snd h
  exact checks_trace depth l page

/-- A check that ends has the report of the layout. -/
theorem report_of_checks {depth : Nat} {l : Layout} {page : π} {log : List (Descent π)}
    {r : Report} (h : Checks settings compiler wanted depth l page log r) :
    r = checkInside settings compiler wanted depth l page := by
  rw [← checkTrace_snd, checks_iff.1 h]

/-! ## What happens to components -/

/-- The components that are compiled lie below the limit. -/
theorem lt_of_compiled {left depth : Nat} {l : Layout} {page : π} {object path : String}
    {level : Nat} {file : String} {inner : π}
    (h : .compiled level file inner ∈
      (componentTrace settings compiler wanted left depth l page object path).1) :
    depth ≤ level ∧ level < depth + left := by
  induction left generalizing depth l page object path with
  | zero => simp [componentTrace] at h
  | succ left ih =>
      unfold componentTrace at h
      split at h
      next => cases h
      next c =>
        split at h
        next => cases h
        next inner' _ =>
          split at h
          next error _ =>
            obtain ⟨rfl, -, -⟩ := Descent.compiled.inj (List.mem_singleton.1 h)
            exact ⟨Nat.le_refl _, by omega⟩
          next layout _ =>
            rcases List.mem_cons.1 h with h | h
            · obtain ⟨rfl, -, -⟩ := Descent.compiled.inj h
              exact ⟨Nat.le_refl _, by omega⟩
            · obtain ⟨object', path', h⟩ := Plan.mem_traced h
              obtain ⟨hle, hlt⟩ := ih h
              exact ⟨by omega, by omega⟩

/-- A check compiles components below the limit only. -/
theorem lt_of_checks {depth : Nat} {l : Layout} {page : π} {log : List (Descent π)} {r : Report}
    (h : Checks settings compiler wanted depth l page log r) {level : Nat} {file : String}
    {inner : π} (hcompiled : .compiled level file inner ∈ log) :
    depth ≤ level ∧ level < settings.maxComponentDepth := by
  obtain rfl : _ = log := congrArg Prod.fst (checks_iff.1 h)
  obtain ⟨object, path, hcompiled⟩ := Plan.mem_traced hcompiled
  obtain ⟨hle, hlt⟩ := lt_of_compiled hcompiled
  exact ⟨hle, by omega⟩

/-- At the limit a component is refused, whatever it is. -/
theorem answers_iff_of_le {depth : Nat} (hdepth : settings.maxComponentDepth ≤ depth) {l : Layout}
    {page : π} {object path : String} {log : List (Descent π)} {answer : Except Violation Unit} :
    Answers settings compiler wanted depth l page object path log answer ↔
      log = [.refused depth path] ∧
        answer = .error ⟨[Check.tooDeepMessage settings.maxComponentDepth path], []⟩ := by
  rw [answers_iff, Nat.sub_eq_zero_of_le hdepth, componentTrace, Prod.mk.injEq]
  constructor
  · rintro ⟨rfl, rfl⟩
    exact ⟨rfl, rfl⟩
  · rintro ⟨rfl, rfl⟩
    exact ⟨rfl, rfl⟩

/-- At the limit a component of an element that is shown fails. -/
theorem outcomeOf_of_le {depth : Nat} (hdepth : settings.maxComponentDepth ≤ depth) (l : Layout)
    (page : π) (object : String) {e : Element} (hvisible : e.visible = true) (rule : Rule)
    (probing : Bool) {path : String} (hrule : rule.requirement = .component path) :
    outcomeOf probing rule (l.checkFound page
        (componentInside settings compiler wanted depth l page) object e rule.requirement) =
      if rule.warnOnly && !probing then
        .warn ⟨[Check.tooDeepMessage settings.maxComponentDepth path], []⟩
      else .fail ⟨[Check.tooDeepMessage settings.maxComponentDepth path], []⟩ := by
  rw [hrule, componentInside, Nat.sub_eq_zero_of_le hdepth]
  simp only [checkFound, hvisible, Bool.not_true, Bool.false_eq_true, if_false]
  rfl

/-- As long as no component is refused, more levels change nothing. -/
theorem componentTrace_congr (settings' : CheckSettings) {left left' : Nat} (hle : left ≤ left')
    {depth : Nat} {l : Layout} {page : π} {object path : String}
    (h : ∀ e ∈ (componentTrace settings compiler wanted left depth l page object path).1,
      e.isRefused = false) :
    componentTrace settings' compiler wanted left' depth l page object path =
      componentTrace settings compiler wanted left depth l page object path := by
  induction left generalizing left' depth l page object path with
  | zero =>
      -- Without a level left the component would be refused.
      cases h _ (List.mem_singleton.2 rfl)
  | succ left ih =>
      cases left' with
      | zero => exact absurd hle (Nat.not_succ_le_zero left)
      | succ left' =>
          unfold componentTrace at h ⊢
          cases compiler with
          | none => rfl
          | some c =>
              dsimp only at h ⊢
              cases hinner : l.pageInside page object with
              | error v => rfl
              | ok inner =>
                  rw [hinner] at h
                  dsimp only at h ⊢
                  cases hlayout : c.compile (some inner) path with
                  | error error => rfl
                  | ok layout =>
                      rw [hlayout] at h
                      dsimp only at h ⊢
                      have hplan := (List.forall_mem_cons.1 h).2
                      rw [Plan.traced_congr (fun e => e.isRefused = false)
                        (fun _ _ => ih (Nat.le_of_succ_le_succ hle)) hplan]

/-- As long as no component is refused, a higher limit changes nothing. -/
theorem checkTrace_congr (settings' : CheckSettings)
    (hle : settings.maxComponentDepth ≤ settings'.maxComponentDepth) {depth : Nat} {l : Layout}
    {page : π}
    (h : ∀ e ∈ (checkTrace settings compiler wanted depth l page).1, e.isRefused = false) :
    checkTrace settings' compiler wanted depth l page =
      checkTrace settings compiler wanted depth l page := by
  unfold checkTrace at h ⊢
  exact Plan.traced_congr _
    (fun _ _ => componentTrace_congr settings' (Nat.sub_le_sub_right hle depth)) h

variable (settings wanted)

/-- With files in memory, every check ends with the report of the layout, however its components
demand one another, and so does every compilation of a component.  A component is compiled below
the limit only.  At the limit and above, a component of an element that is shown fails. -/
theorem check_ends (c : Compiler π) (files : List (String × String)) :
    let compiler := c.withFiles files
    (∀ (depth : Nat) (l : Layout) (page : π),
      (∃ log r, Checks settings (some compiler) wanted depth l page log r) ∧
        ∀ log r, Checks settings (some compiler) wanted depth l page log r →
          r = checkInside settings (some compiler) wanted depth l page ∧
            ∀ level path inner, .compiled level path inner ∈ log →
              depth ≤ level ∧ level < settings.maxComponentDepth ∧
                Job.RunsOnce ⟨compiler, some inner⟩ (.file path none .start)
                  (compiler.compile (some inner) path)) ∧
    (∀ (l : Layout) (page : π),
      l.check page settings (some compiler) wanted =
        checkInside settings (some compiler) wanted 0 l page) ∧
    ∀ (depth : Nat) (l : Layout) (page : π) (object path : String),
      settings.maxComponentDepth ≤ depth →
        let message := Check.tooDeepMessage settings.maxComponentDepth path
        (∀ log answer, Answers settings (some compiler) wanted depth l page object path log answer ↔
          log = [.refused depth path] ∧ answer = .error ⟨[message], []⟩) ∧
        ∀ (e : Element) (rule : Rule) (probing : Bool), e.visible = true →
          rule.requirement = .component path →
            let component := componentInside settings (some compiler) wanted depth l page
            outcomeOf probing rule (l.checkFound page component object e rule.requirement) =
              if rule.warnOnly && !probing then .warn ⟨[message], []⟩
              else .fail ⟨[message], []⟩ := by
  intro compiler
  refine ⟨fun depth l page => ⟨⟨_, _, checks_trace depth l page⟩, fun log r h =>
    ⟨report_of_checks h, ?_⟩⟩, fun l page => rfl, fun depth l page object path hdepth =>
      ⟨fun log answer => ?_, ?_⟩⟩
  · intro level path inner hcompiled
    obtain ⟨hle, hlt⟩ := lt_of_checks h hcompiled
    exact ⟨hle, hlt, c.runsOnce_file files (some inner) path⟩
  · exact answers_iff_of_le hdepth
  · exact fun e rule probing hvisible hrule =>
      outcomeOf_of_le hdepth l page object hvisible rule probing hrule

/-- A compiler of one file, a card with a card in it that is tried and then demanded. -/
def cardCompiler : Compiler Snapshot :=
  (⟨⟨2.0, true⟩, .empty, .standard, .memory []⟩ : Compiler Snapshot).withFiles
    [("card", "@@ if\nscreen\n component: card\n@@ do\n@@ end\nscreen\n component: card\n")]

/-- A layout that demands a card of the screen. -/
def cardLayout : Layout :=
  ⟨.empty, [⟨"", [], [⟨"screen", [⟨.component "card", "component: card", ⟨"page", 2⟩, false⟩]⟩],
    [], ⟨"page", 1⟩⟩]⟩

/-- A page with nothing but its screen. -/
def cardPage : Snapshot := ⟨some ⟨0, 0, 400, 200⟩, []⟩

/-- Inside two cards there is no further one.  The page does not change on the way, and seven
components are asked for, three of them compiled and four refused. -/
theorem check_ends_card :
    ∃ log r, Checks ⟨2⟩ (some cardCompiler) [] 0 cardLayout cardPage log r ∧
      log.map Descent.isRefused = [false, false, true, true, false, true, true] ∧
      (∀ level path inner, .compiled level path inner ∈ log → level < 2) ∧
      r = cardLayout.check cardPage ⟨2⟩ (some cardCompiler) [] ∧
      r.findings.map Finding.outcome =
        [.fail ⟨["screen: screen: " ++ Check.tooDeepMessage 2 "card"], []⟩] := by
  let trace := checkTrace ⟨2⟩ (some cardCompiler) [] 0 cardLayout cardPage
  have hvalue : (trace.1.map Descent.isRefused, trace.2.findings.map Finding.outcome) =
      ([false, false, true, true, false, true, true],
        [.fail ⟨["screen: screen: " ++ Check.tooDeepMessage 2 "card"], []⟩]) := by
    decide +kernel
  obtain ⟨hrefusals, houtcomes⟩ := Prod.mk.inj hvalue
  have h : Checks ⟨2⟩ (some cardCompiler) [] 0 cardLayout cardPage trace.1 trace.2 :=
    checks_trace 0 cardLayout cardPage
  obtain ⟨hreport, hcompiled⟩ := ((check_ends ⟨2⟩ []
    ⟨⟨2.0, true⟩, .empty, .standard, .memory []⟩ _).1 0 cardLayout cardPage).2 _ _ h
  exact ⟨_, _, h, hrefusals, fun level path inner hm => (hcompiled level path inner hm).2.1,
    hreport, houtcomes⟩

/-! ## A higher limit -/

/-- As long as a check refuses no component for its depth, a higher limit changes nothing. -/
theorem check_eq_of_not_refused (settings settings' : CheckSettings)
    (hle : settings.maxComponentDepth ≤ settings'.maxComponentDepth)
    {compiler : Option (Compiler π)} {wanted : List String} {l : Layout} {page : π}
    {log : List (Descent π)} {r : Report}
    (h : Checks settings compiler wanted 0 l page log r)
    (hrefused : ∀ level path, .refused level path ∉ log) :
    Checks settings' compiler wanted 0 l page log r ∧
      l.check page settings' compiler wanted = l.check page settings compiler wanted := by
  have hallowed : ∀ e ∈ log, e.isRefused = false := by
    intro e he
    cases e with
    | refused level path => exact absurd he (hrefused level path)
    | compiled level path inner => rfl
  have htrace := checks_iff.1 h
  obtain rfl : _ = log := congrArg Prod.fst htrace
  have h' : Checks settings' compiler wanted 0 l page _ r :=
    checks_iff.2 ((checkTrace_congr settings' hle hallowed).trans htrace)
  refine ⟨h', ?_⟩
  rw [check_eq_checkInside, check_eq_checkInside, ← report_of_checks h, ← report_of_checks h']

/-- A layout that demands the component of a profile. -/
def profileRules : Layout :=
  ⟨profileLayout.objects,
    [⟨"", [], [⟨"profile", [⟨.component "profile", "component: profile", ⟨"page", 2⟩, false⟩]⟩],
      [], ⟨"page", 1⟩⟩]⟩

/-- The component of a profile demands no further one.  So one level is enough for it, and it
is found not to be kept with any other limit too. -/
theorem check_eq_of_not_refused_profile :
    ∃ log r, Checks ⟨1⟩ (some profileCompiler) [] 0 profileRules profilePage log r ∧
      log.length = 1 ∧ (∀ level path, .refused level path ∉ log) ∧ r.passed = false ∧
      Checks ⟨8⟩ (some profileCompiler) [] 0 profileRules profilePage log r ∧
      profileRules.check profilePage ⟨8⟩ (some profileCompiler) [] =
        profileRules.check profilePage ⟨1⟩ (some profileCompiler) [] := by
  let trace := checkTrace ⟨1⟩ (some profileCompiler) [] 0 profileRules profilePage
  have h : Checks ⟨1⟩ (some profileCompiler) [] 0 profileRules profilePage trace.1 trace.2 :=
    checks_trace 0 profileRules profilePage
  have hvalue : (trace.1.map Descent.isRefused, trace.2.passed) = ([false], false) := by
    decide +kernel
  obtain ⟨hrefusals, hpassed⟩ := Prod.mk.inj hvalue
  have hlength : trace.1.length = 1 := by
    rw [← List.length_map Descent.isRefused, hrefusals, List.length_singleton]
  have hrefused : ∀ level path, .refused level path ∉ trace.1 := by
    intro level path hm
    have hm : true ∈ trace.1.map Descent.isRefused := List.mem_map_of_mem hm
    rw [hrefusals] at hm
    cases List.mem_singleton.1 hm
  obtain ⟨h', heq⟩ := check_eq_of_not_refused ⟨1⟩ ⟨8⟩ (by decide) h hrefused
  exact ⟨_, _, h, hlength, hrefused, hpassed, h', heq⟩

end Layout

end PageLayout
