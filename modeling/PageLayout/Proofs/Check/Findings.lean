import Mathlib.Data.List.Forall2
import PageLayout.Check.Layout

/-!
# The findings of a check

What a report consists of is said here by rules, without a word about how a layout
is checked.  `Resolves` says which element the name of an object leads to.
`ObjectFindings` gives the findings about one object, `Holds` the conditions that
are satisfied, and `SectionFindings` the findings about a section.
`ReportFindings` puts the sections together.

Every relation here is a function of what it is about.  So each of them comes with
an equivalence to the function that computes it, and `check_findings_iff` is the
last of these.  The conditions of a conditional occur only in `Selects`, where
they decide between two branches: no finding is ever about a rule that was tried.
-/

namespace PageLayout

/-! ## Lists in parts -/

/-- A list that consists of a part for each of some things, in their order. -/
def Assembled {α β : Type} (part : α → List β → Prop) (xs : List α) (ys : List β) : Prop :=
  ∃ parts, List.Forall₂ part xs parts ∧ ys = parts.flatten

/-- Things that are related to the values of a function are its values. -/
theorem forall₂_iff_map {α β : Type} {related : α → β → Prop} {f : α → β}
    (h : ∀ x y, related x y ↔ f x = y) (xs : List α) (ys : List β) :
    List.Forall₂ related xs ys ↔ xs.map f = ys := by
  have hrelated : related = fun x y => f x = y := funext₂ fun x y => propext (h x y)
  rw [hrelated, ← List.forall₂_map_left_iff, List.forall₂_eq_eq_eq]

/-- Parts that are the values of a function make up its `flatMap`. -/
theorem assembled_iff {α β : Type} {part : α → List β → Prop} {f : α → List β}
    (h : ∀ x ys, part x ys ↔ f x = ys) (xs : List α) (ys : List β) :
    Assembled part xs ys ↔ xs.flatMap f = ys := by
  simp only [Assembled, forall₂_iff_map h, List.flatMap_def]
  constructor
  · rintro ⟨_, rfl, rfl⟩
    rfl
  · rintro rfl
    exact ⟨_, rfl, rfl⟩

/-! ## Sections that apply -/

/-- A section applies if it has no tags, or the tag of sections that always apply,
or a tag that is wanted. -/
def Section.Applies (wanted : List String) (s : Section) : Prop :=
  s.tags = [] ∨ anyTag ∈ s.tags ∨ ∃ tag ∈ s.tags, tag ∈ wanted

theorem Section.applies_iff (wanted : List String) (s : Section) :
    s.applies wanted = true ↔ s.Applies wanted := by
  simp only [applies, Applies, Bool.or_eq_true, List.isEmpty_iff, List.any_eq_true, beq_iff_eq,
    List.contains_iff_mem]
  constructor
  · rintro (h | ⟨tag, htag, rfl | h⟩)
    · exact .inl h
    · exact .inr (.inl htag)
    · exact .inr (.inr ⟨tag, htag, h⟩)
  · rintro (h | h | ⟨tag, htag, h⟩)
    · exact .inl h
    · exact .inr ⟨anyTag, h, .inl rfl⟩
    · exact .inr ⟨tag, htag, .inr h⟩

namespace Layout

variable {π : Type} [Page π]

/-! ## Objects -/

/-- The element that the name of an object leads to: what its locator finds on the
page, or the screen if no object of that name is declared. -/
inductive Resolves (l : Layout) (page : π) : String → Element → Prop
  | declared {object : String} {locator : Locator} {e : Element} :
      l.locator? object = some locator → Page.find page locator = some e →
        Resolves l page object e
  | screen {rect : Rect} :
      l.locator? screenObject = none → Page.screen page = some rect →
        Resolves l page screenObject ⟨rect, none, true⟩

theorem lookup_eq_found_iff (l : Layout) (page : π) (object : String) (e : Element) :
    l.lookup page object = .found e ↔ l.Resolves page object e := by
  constructor
  · intro h
    unfold lookup at h
    split at h
    next locator hl =>
      split at h
      next found hf =>
        cases h
        exact .declared hl hf
      next => cases h
    next hl =>
      split at h
      next rect hr =>
        split at h
        next hs =>
          cases h
          rw [beq_iff_eq] at hs
          subst hs
          exact .screen hl hr
        next => cases h
      next => cases h
  · intro h
    cases h with
    | declared hl hf => simp [lookup, hl, hf]
    | screen hl hr => simp [lookup, hl, hr]

/-- An object whose name leads to no element is undeclared or missing. -/
theorem forall_not_resolves_iff (l : Layout) (page : π) (object : String) :
    (∀ e, ¬l.Resolves page object e) ↔ ∀ e, l.lookup page object ≠ .found e := by
  simp only [← lookup_eq_found_iff, ne_eq]

/-! ## Rules -/

/-- The finding about a rule of an object that is on the page.  It has the name of
the object and the text and the place of the rule. -/
inductive RuleFinding (l : Layout) (page : π) (component : ComponentCheck) (probing : Bool)
    (object : String) (e : Element) (rule : Rule) : Finding → Prop
  | kept :
      l.checkFound page component object e rule.requirement = .ok () →
        RuleFinding l page component probing object e rule ⟨object, rule.text, rule.place, .pass⟩
  | warned {v : Violation} :
      l.checkFound page component object e rule.requirement = .error v →
        rule.warnOnly = true → probing = false →
          RuleFinding l page component probing object e rule
            ⟨object, rule.text, rule.place, .warn v⟩
  | broken {v : Violation} :
      l.checkFound page component object e rule.requirement = .error v →
        rule.warnOnly = false ∨ probing = true →
          RuleFinding l page component probing object e rule
            ⟨object, rule.text, rule.place, .fail v⟩

theorem ruleFinding_iff (l : Layout) (page : π) (component : ComponentCheck) (probing : Bool)
    (object : String) (e : Element) (rule : Rule) (f : Finding) :
    l.RuleFinding page component probing object e rule f ↔
      findingOf object rule
        (outcomeOf probing rule (l.checkFound page component object e rule.requirement)) = f := by
  constructor
  · intro h
    cases h with
    | kept hc => rw [hc]; rfl
    | warned hc hw hp => simp [hc, hw, hp, findingOf, outcomeOf]
    | broken hc hw => rcases hw with hw | hw <;> simp [hc, hw, findingOf, outcomeOf]
  · rintro rfl
    cases hc : l.checkFound page component object e rule.requirement with
    | ok u => exact .kept hc
    | error v =>
        cases hw : rule.warnOnly with
        | false => simpa [findingOf, outcomeOf, hw] using RuleFinding.broken hc (.inl hw)
        | true =>
            cases probing with
            | false => simpa [findingOf, outcomeOf, hw] using RuleFinding.warned hc hw rfl
            | true => simpa [findingOf, outcomeOf] using RuleFinding.broken hc (.inr rfl)

/-- The findings about the rules of an object.

If the name leads to an element, there is a finding for every rule.  Otherwise the
rules that demand absence are kept, up to the first that demands something else.
The object is missed there, and the rules after it are left out. -/
inductive ObjectFindings (l : Layout) (page : π) (component : ComponentCheck) (probing : Bool)
    (o : ObjectRules) : List Finding → Prop
  | found {e : Element} {fs : List Finding} :
      l.Resolves page o.object e →
        List.Forall₂ (l.RuleFinding page component probing o.object e) o.rules fs →
          ObjectFindings l page component probing o fs
  | absent :
      (∀ e, ¬l.Resolves page o.object e) →
        (∀ rule ∈ o.rules, rule.requirement = .absent) →
          ObjectFindings l page component probing o
            (o.rules.map fun rule => ⟨o.object, rule.text, rule.place, .pass⟩)
  | missed {leading rest : List Rule} {rule : Rule} :
      (∀ e, ¬l.Resolves page o.object e) →
        o.rules = leading ++ rule :: rest →
          (∀ before ∈ leading, before.requirement = .absent) → rule.requirement ≠ .absent →
            ObjectFindings l page component probing o
              (leading.map (fun before => ⟨o.object, before.text, before.place, .pass⟩) ++
                [⟨o.object, rule.text, rule.place, .notFound⟩])

/-- An object that cannot be found keeps the rules that demand its absence. -/
theorem findingsMissing_of_absent (object : String) {rules : List Rule}
    (h : ∀ rule ∈ rules, rule.requirement = .absent) :
    findingsMissing object rules =
      rules.map fun rule => ⟨object, rule.text, rule.place, .pass⟩ := by
  induction rules with
  | nil => rfl
  | cons rule rules ih =>
      have hrule : rule.requirement = .absent := h rule List.mem_cons_self
      have hrules := ih fun r hr => h r (List.mem_cons_of_mem _ hr)
      simp [findingsMissing, hrule, hrules, findingOf]

/-- An object that cannot be found is missed at the first rule that does not demand
its absence. -/
theorem findingsMissing_append_cons (object : String) {leading rest : List Rule} {rule : Rule}
    (habsent : ∀ before ∈ leading, before.requirement = .absent)
    (hrule : rule.requirement ≠ .absent) :
    findingsMissing object (leading ++ rule :: rest) =
      leading.map (fun before => ⟨object, before.text, before.place, .pass⟩) ++
        [⟨object, rule.text, rule.place, .notFound⟩] := by
  induction leading with
  | nil => simp [findingsMissing, hrule, findingOf]
  | cons before leading ih =>
      have hbefore : before.requirement = .absent := habsent before List.mem_cons_self
      have hleading := ih fun r hr => habsent r (List.mem_cons_of_mem _ hr)
      simp [findingsMissing, hbefore, hleading, findingOf]

/-- The rules of an object either all demand its absence, or there is a first one
that does not. -/
theorem absent_or_first (rules : List Rule) :
    (∀ rule ∈ rules, rule.requirement = .absent) ∨
      ∃ leading rule rest, rules = leading ++ rule :: rest ∧
        (∀ before ∈ leading, before.requirement = .absent) ∧ rule.requirement ≠ .absent := by
  induction rules with
  | nil => exact .inl (List.forall_mem_nil _)
  | cons rule rules ih =>
      by_cases hrule : rule.requirement = .absent
      · rcases ih with hall | ⟨leading, first, rest, hsplit, habsent, hfirst⟩
        · exact .inl (List.forall_mem_cons.2 ⟨hrule, hall⟩)
        · exact .inr ⟨rule :: leading, first, rest, by rw [hsplit, List.cons_append],
            List.forall_mem_cons.2 ⟨hrule, habsent⟩, hfirst⟩
      · exact .inr ⟨[], rule, rules, rfl, List.forall_mem_nil _, hrule⟩

theorem findingsOf_found {l : Layout} {page : π} {o : ObjectRules} {e : Element}
    (component : ComponentCheck) (probing : Bool) (h : l.Resolves page o.object e) :
    l.findingsOf page component probing o = o.rules.map fun rule =>
      findingOf o.object rule
        (outcomeOf probing rule (l.checkFound page component o.object e rule.requirement)) := by
  rw [← lookup_eq_found_iff] at h
  simp only [findingsOf, h]

theorem findingsOf_missing {l : Layout} {page : π} {o : ObjectRules}
    (component : ComponentCheck) (probing : Bool) (h : ∀ e, ¬l.Resolves page o.object e) :
    l.findingsOf page component probing o = findingsMissing o.object o.rules := by
  rw [forall_not_resolves_iff] at h
  unfold findingsOf
  split
  next e hl => exact absurd hl (h e)
  next => rfl

theorem objectFindings_iff (l : Layout) (page : π) (component : ComponentCheck) (probing : Bool)
    (o : ObjectRules) (fs : List Finding) :
    l.ObjectFindings page component probing o fs ↔ l.findingsOf page component probing o = fs := by
  constructor
  · intro h
    cases h with
    | found hr hf =>
        rw [findingsOf_found component probing hr]
        exact (forall₂_iff_map (l.ruleFinding_iff page component probing o.object _) ..).1 hf
    | absent hr ha => rw [findingsOf_missing component probing hr, findingsMissing_of_absent _ ha]
    | missed hr hs ha hm =>
        rw [findingsOf_missing component probing hr, hs, findingsMissing_append_cons _ ha hm]
  · rintro rfl
    by_cases hr : ∃ e, l.Resolves page o.object e
    · obtain ⟨e, he⟩ := hr
      rw [findingsOf_found component probing he]
      have hrule := l.ruleFinding_iff page component probing o.object e
      exact .found he ((forall₂_iff_map hrule ..).2 rfl)
    · have hr : ∀ e, ¬l.Resolves page o.object e := fun e he => hr ⟨e, he⟩
      rw [findingsOf_missing component probing hr]
      rcases absent_or_first o.rules with ha | ⟨leading, rule, rest, hs, ha, hm⟩
      · rw [findingsMissing_of_absent _ ha]
        exact .absent hr ha
      · rw [hs, findingsMissing_append_cons _ ha hm]
        exact .missed hr hs ha hm

/-! ## Conditionals -/

/-- A condition holds if all findings about its rules say that they are kept, or, if
it is inverted, if not all of them do. -/
def Holds (l : Layout) (page : π) (component : ComponentCheck) (c : Condition) : Prop :=
  (∀ o ∈ c.probes, ∀ fs, l.ObjectFindings page component true o fs →
    ∀ f ∈ fs, f.outcome = .pass) ↔ c.inverted = false

theorem holds_iff (l : Layout) (page : π) (component : ComponentCheck) (c : Condition) :
    l.holds page component c = true ↔ l.Holds page component c := by
  have hpass : ∀ o : Outcome, o.isPass = true ↔ o = .pass := by
    intro o
    cases o <;> simp [Outcome.isPass]
  simp only [holds, Holds, objectFindings_iff, forall_eq', ← hpass, ← List.all_eq_true]
  cases c.inverted <;> simp

/-- The rules that a conditional demands: its body if a condition holds, and the
other branch if none does. -/
inductive Selects (l : Layout) (page : π) (component : ComponentCheck) (c : Conditional) :
    List ObjectRules → Prop
  | body : (∃ condition ∈ c.conditions, l.Holds page component condition) →
      Selects l page component c c.body
  | otherwise : (∀ condition ∈ c.conditions, ¬l.Holds page component condition) →
      Selects l page component c c.otherwise

theorem selects_iff (l : Layout) (page : π) (component : ComponentCheck) (c : Conditional)
    (os : List ObjectRules) :
    l.Selects page component c os ↔ l.choose page component c = os := by
  have hany : c.conditions.any (l.holds page component) = true ↔
      ∃ condition ∈ c.conditions, l.Holds page component condition := by
    simp only [List.any_eq_true, holds_iff]
  unfold choose
  constructor
  · intro h
    cases h with
    | body hb => rw [if_pos (hany.2 hb)]
    | otherwise hn =>
        refine if_neg fun ht => ?_
        obtain ⟨condition, hc, hh⟩ := hany.1 ht
        exact hn condition hc hh
  · rintro rfl
    split
    next ht => exact .body (hany.1 ht)
    next hf => exact .otherwise fun condition hc hh => hf (hany.2 ⟨condition, hc, hh⟩)

/-- The findings about a conditional are those about the rules that it demands. -/
inductive ConditionalFindings (l : Layout) (page : π) (component : ComponentCheck)
    (c : Conditional) : List Finding → Prop
  | branch {os : List ObjectRules} {fs : List Finding} :
      l.Selects page component c os →
        Assembled (l.ObjectFindings page component false) os fs →
          ConditionalFindings l page component c fs

theorem conditionalFindings_iff (l : Layout) (page : π) (component : ComponentCheck)
    (c : Conditional) (fs : List Finding) :
    l.ConditionalFindings page component c fs ↔
      (l.choose page component c).flatMap (l.findingsOf page component false) = fs := by
  have hobjects := assembled_iff (l.objectFindings_iff page component false)
  constructor
  · rintro ⟨hs, ha⟩
    rwa [(selects_iff ..).1 hs, ← hobjects]
  · intro h
    exact .branch ((selects_iff ..).2 rfl) ((hobjects ..).2 h)

/-! ## Sections -/

/-- The findings about a section.  There are none if it does not apply.  If it does,
those about its own objects come first, and then those about its conditionals. -/
inductive SectionFindings (l : Layout) (page : π) (component : ComponentCheck)
    (wanted : List String) (s : Section) : List Finding → Prop
  | skipped : ¬s.Applies wanted → SectionFindings l page component wanted s []
  | visited {own chosen : List Finding} :
      s.Applies wanted →
        Assembled (l.ObjectFindings page component false) s.objects own →
          Assembled (l.ConditionalFindings page component) s.conditionals chosen →
            SectionFindings l page component wanted s (own ++ chosen)

theorem sectionFindings_iff (l : Layout) (page : π) (component : ComponentCheck)
    (wanted : List String) (s : Section) (fs : List Finding) :
    l.SectionFindings page component wanted s fs ↔
      (if s.applies wanted then
        (l.demanded page component s).flatMap (l.findingsOf page component false) else []) =
          fs := by
  have hown := assembled_iff (l.objectFindings_iff page component false) s.objects
  have hchosen := assembled_iff (l.conditionalFindings_iff page component) s.conditionals
  constructor
  · intro h
    cases h with
    | skipped hs => rw [← Section.applies_iff] at hs; rw [if_neg hs]
    | visited hs ho hc =>
        rw [if_pos ((Section.applies_iff ..).2 hs), demanded, List.flatMap_append,
          (hown _).1 ho, List.flatMap_assoc, (hchosen _).1 hc]
  · rintro rfl
    split
    next hs =>
      rw [demanded, List.flatMap_append, List.flatMap_assoc]
      exact .visited ((Section.applies_iff ..).1 hs) ((hown _).2 rfl) ((hchosen _).2 rfl)
    next hs => exact .skipped fun h => hs ((Section.applies_iff ..).2 h)

/-! ## Reports -/

/-- The findings about a layout are those about its sections, in order. -/
def ReportFindings (l : Layout) (page : π) (component : ComponentCheck) (wanted : List String)
    (fs : List Finding) : Prop :=
  Assembled (l.SectionFindings page component wanted) l.sections fs

theorem reportFindings_iff (l : Layout) (page : π) (component : ComponentCheck)
    (wanted : List String) (fs : List Finding) :
    l.ReportFindings page component wanted fs ↔
      (l.checkWith page component wanted).findings = fs := by
  have hfilter : ∀ (p : Section → Bool) (f : Section → List Finding) (ss : List Section),
      (ss.filter p).flatMap f = ss.flatMap fun s => if p s then f s else [] := by
    intro p f ss
    induction ss with
    | nil => rfl
    | cons s ss ih => by_cases hs : p s = true <;> simp [hs, ih]
  rw [ReportFindings, assembled_iff (l.sectionFindings_iff page component wanted), checkWith,
    sectionsFor, hfilter]

/-- How components are checked with some levels left below the limit. -/
def componentBelow (limit : Nat) (compiler : Option (Compiler π)) (wanted : List String) :
    (left : Nat) → Layout → π → ComponentCheck
  | 0, _, _ => fun _ path => .error (.ofMessage (Check.tooDeepMessage limit path))
  | left + 1, l, page => fun object path =>
      match compiler with
      | none => .error (.ofMessage (Check.noCompilerMessage path))
      | some c => do
          let inner ← l.pageInside page object
          match c.compile (some inner) path with
          | .error error => .error (.ofMessage error.message)
          | .ok layout => Check.ofReport (checkBelow limit compiler wanted left layout inner)

/-- With some levels left, a layout is checked with components that have one level
less. -/
theorem checkBelow_eq (limit : Nat) (compiler : Option (Compiler π)) (wanted : List String)
    (left : Nat) (l : Layout) (page : π) :
    checkBelow limit compiler wanted left l page =
      l.checkWith page (componentBelow limit compiler wanted left l page) wanted := by
  cases left with
  | zero => rfl
  | succ left => rfl

/-- How components are checked in a check with some settings. -/
def componentCheck (l : Layout) (page : π) (settings : CheckSettings)
    (compiler : Option (Compiler π)) (wanted : List String) : ComponentCheck :=
  componentBelow settings.maxComponentDepth compiler wanted settings.maxComponentDepth l page

theorem check_eq (l : Layout) (page : π) (settings : CheckSettings)
    (compiler : Option (Compiler π)) (wanted : List String) :
    l.check page settings compiler wanted =
      l.checkWith page (l.componentCheck page settings compiler wanted) wanted :=
  checkBelow_eq ..

/-- The findings of a check are exactly those that the sections which apply give
rise to: in order, for the own objects of a section and then for the branches that
its conditionals demand. -/
theorem check_findings_iff (l : Layout) (page : π) (settings : CheckSettings)
    (compiler : Option (Compiler π)) (wanted : List String) (fs : List Finding) :
    (l.check page settings compiler wanted).findings = fs ↔
      l.ReportFindings page (l.componentCheck page settings compiler wanted) wanted fs := by
  rw [check_eq, reportFindings_iff]

end Layout

end PageLayout
