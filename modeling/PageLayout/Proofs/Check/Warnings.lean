import PageLayout.Page.Snapshot
import PageLayout.Proofs.Check.Findings

/-!
# Warnings are labels

Whether a rule is only a warning is a flag of the rule.  `Layout.unflagged` takes the flags
of a layout away.  Two layouts that are the same without their flags differ in nothing
else, and everything that a check does commutes with taking the flags away: looking for
objects, trying conditions, choosing branches and reporting rules.

So two reports on such layouts have the same findings up to their labels.  `Entry` keeps a
finding together with the rule that it reports, since it is the flag of that rule that
decides between a failure and a warning.  A rule that is only tried has no label, and its
flag does not matter at all.
-/

namespace PageLayout

/-! ## Layouts without flags -/

/-- A rule without its flag. -/
def Rule.unflagged (r : Rule) : Rule := { r with warnOnly := false }

/-- The rules of an object without their flags. -/
def ObjectRules.unflagged (o : ObjectRules) : ObjectRules :=
  { o with rules := o.rules.map Rule.unflagged }

/-- A condition whose rules have no flags. -/
def Condition.unflagged (c : Condition) : Condition :=
  { c with probes := c.probes.map ObjectRules.unflagged }

/-- A conditional without flags on the rules that it tries. -/
def Conditional.unflaggedProbes (c : Conditional) : Conditional :=
  { c with conditions := c.conditions.map Condition.unflagged }

/-- A conditional without flags. -/
def Conditional.unflagged (c : Conditional) : Conditional :=
  ⟨c.conditions.map Condition.unflagged, c.body.map ObjectRules.unflagged,
    c.otherwise.map ObjectRules.unflagged⟩

/-- A section without flags on the rules that its conditionals try. -/
def Section.unflaggedProbes (s : Section) : Section :=
  { s with conditionals := s.conditionals.map Conditional.unflaggedProbes }

/-- A section without flags. -/
def Section.unflagged (s : Section) : Section :=
  { s with
    objects := s.objects.map ObjectRules.unflagged
    conditionals := s.conditionals.map Conditional.unflagged }

/-- A layout without flags on the rules that its conditionals try. -/
def Layout.unflaggedProbes (l : Layout) : Layout :=
  { l with sections := l.sections.map Section.unflaggedProbes }

/-- A layout without flags. -/
def Layout.unflagged (l : Layout) : Layout :=
  { l with sections := l.sections.map Section.unflagged }

/-! ## Labels -/

/-- A failure of any kind, as that of a rule without a flag. -/
def Outcome.unflagged : Outcome → Outcome
  | .warn v => .fail v
  | o => o

/-- A failure with the label that a flag gives it. -/
def Outcome.labelled (flag : Bool) : Outcome → Outcome
  | .fail v => if flag then .warn v else .fail v
  | o => o

/-- How the outcomes of two rules belong together that differ in their flags only.  They are
the same, except that a failure of the one without a flag is a warning of the one with a
flag. -/
inductive Relabelled : Bool → Bool → Outcome → Outcome → Prop
  | same {flag : Bool} {o : Outcome} : Relabelled flag flag o o
  | passed {flag flag' : Bool} : Relabelled flag flag' .pass .pass
  | missed {flag flag' : Bool} : Relabelled flag flag' .notFound .notFound
  | softened {v : Violation} : Relabelled false true (.fail v) (.warn v)
  | hardened {v : Violation} : Relabelled true false (.warn v) (.fail v)

/-- A finding with the rule that it reports. -/
structure Entry where
  /-- The rule. -/
  rule : Rule
  /-- What came of it. -/
  finding : Finding

namespace Entry

/-- An entry as if its rule had no flag. -/
def unflagged (e : Entry) : Entry :=
  ⟨e.rule.unflagged, { e.finding with outcome := e.finding.outcome.unflagged }⟩

/-- The flag of a rule decides between a failure and a warning. -/
def Labelled (e : Entry) : Prop :=
  e.finding.outcome.unflagged.labelled e.rule.warnOnly = e.finding.outcome

/-- Two entries about one rule that may have another flag in each of them. -/
structure Corresponds (e e' : Entry) : Prop where
  rule : e.rule.unflagged = e'.rule.unflagged
  object : e.finding.object = e'.finding.object
  text : e.finding.text = e'.finding.text
  place : e.finding.place = e'.finding.place
  outcome :
    Relabelled e.rule.warnOnly e'.rule.warnOnly e.finding.outcome e'.finding.outcome

end Entry

/-- Two flags give one outcome labels that belong together. -/
theorem relabelled_labelled (flag flag' : Bool) (o : Outcome) :
    Relabelled flag flag' (o.unflagged.labelled flag) (o.unflagged.labelled flag') := by
  cases o with
  | pass => exact .passed
  | notFound => exact .missed
  | warn v | fail v =>
      cases flag <;> cases flag'
      · exact .same
      · exact .softened
      · exact .hardened
      · exact .same

theorem Entry.corresponds_of_unflagged_eq {e e' : Entry} (he : e.Labelled) (he' : e'.Labelled)
    (h : e.unflagged = e'.unflagged) : e.Corresponds e' := by
  have hfinding : e.unflagged.finding = e'.unflagged.finding := congrArg Entry.finding h
  have houtcome : e.finding.outcome.unflagged = e'.finding.outcome.unflagged :=
    (congrArg Finding.outcome hfinding :)
  refine ⟨(congrArg Entry.rule h :), (congrArg Finding.object hfinding :),
    (congrArg Finding.text hfinding :), (congrArg Finding.place hfinding :), ?_⟩
  rw [← he, ← he', ← houtcome]
  exact relabelled_labelled ..

namespace Layout

variable {π : Type} [Page π]

/-! ## Entries of a report -/

/-- The entries about the rules of an object that cannot be found. -/
def entriesMissing (object : String) : List Rule → List Entry
  | [] => []
  | rule :: rules =>
      if rule.requirement = .absent then
        ⟨rule, findingOf object rule .pass⟩ :: entriesMissing object rules
      else [⟨rule, findingOf object rule .notFound⟩]

/-- The entry about a rule of an object that is on the page. -/
def entryFound (l : Layout) (page : π) (component : ComponentCheck) (object : String)
    (e : Element) (rule : Rule) : Entry :=
  ⟨rule, findingOf object rule
    (outcomeOf false rule (l.checkFound page component object e rule.requirement))⟩

/-- The entries about the rules of an object. -/
def entriesOf (l : Layout) (page : π) (component : ComponentCheck) (o : ObjectRules) :
    List Entry :=
  match l.lookup page o.object with
  | .found e => o.rules.map (l.entryFound page component o.object e)
  | _ => entriesMissing o.object o.rules

/-- The entries of a report. -/
def entriesWith (l : Layout) (page : π) (component : ComponentCheck) (wanted : List String) :
    List Entry :=
  (l.sectionsFor wanted).flatMap fun s =>
    (l.demanded page component s).flatMap (l.entriesOf page component)

/-- The entries of the report of a check. -/
def entries (l : Layout) (page : π) (settings : CheckSettings) (compiler : Option (Compiler π))
    (wanted : List String) : List Entry :=
  l.entriesWith page (l.componentCheck page settings compiler wanted) wanted

theorem map_finding_entriesMissing (object : String) (rules : List Rule) :
    (entriesMissing object rules).map Entry.finding = findingsMissing object rules := by
  induction rules with
  | nil => rfl
  | cons rule rules ih =>
      unfold entriesMissing findingsMissing
      split
      · rw [List.map_cons, ih]
      · rfl

theorem map_finding_entriesOf (l : Layout) (page : π) (component : ComponentCheck)
    (o : ObjectRules) :
    (l.entriesOf page component o).map Entry.finding = l.findingsOf page component false o := by
  unfold entriesOf findingsOf
  cases l.lookup page o.object with
  | found e => exact List.map_map
  | undeclared | missing => exact map_finding_entriesMissing o.object o.rules

/-- The entries have the findings of the report. -/
theorem map_finding_entries (l : Layout) (page : π) (settings : CheckSettings)
    (compiler : Option (Compiler π)) (wanted : List String) :
    (l.entries page settings compiler wanted).map Entry.finding =
      (l.check page settings compiler wanted).findings := by
  simp only [check_eq, checkWith, entries, entriesWith, List.map_flatMap, map_finding_entriesOf]

/-! ## Every entry is labelled by its flag -/

theorem labelled_entriesMissing (object : String) (rules : List Rule) :
    ∀ e ∈ entriesMissing object rules, e.Labelled := by
  induction rules with
  | nil => exact List.forall_mem_nil _
  | cons rule rules ih =>
      unfold entriesMissing
      split
      · exact List.forall_mem_cons.2 ⟨rfl, ih⟩
      · exact List.forall_mem_singleton.2 rfl

theorem labelled_entryFound (l : Layout) (page : π) (component : ComponentCheck)
    (object : String) (e : Element) (rule : Rule) :
    (l.entryFound page component object e rule).Labelled := by
  unfold entryFound Entry.Labelled findingOf outcomeOf
  cases l.checkFound page component object e rule.requirement with
  | ok u => rfl
  | error v => cases rule.warnOnly <;> simp [Outcome.unflagged, Outcome.labelled]

theorem labelled_entries (l : Layout) (page : π) (settings : CheckSettings)
    (compiler : Option (Compiler π)) (wanted : List String) :
    ∀ e ∈ l.entries page settings compiler wanted, e.Labelled := by
  intro e he
  obtain ⟨s, _, he⟩ := List.mem_flatMap.1 he
  obtain ⟨o, _, he⟩ := List.mem_flatMap.1 he
  unfold entriesOf at he
  split at he
  · obtain ⟨rule, _, rfl⟩ := List.mem_map.1 he
    exact labelled_entryFound ..
  · exact labelled_entriesMissing o.object o.rules e he

/-! ## Checks without flags

The objects of a layout are not touched when flags are taken away.  So nothing that looks
for objects or checks a rule can tell the difference, and these facts hold by
computation. -/

/-- The rules that are tried have no labels, so their flags do not matter. -/
theorem findingsOf_unflagged (l : Layout) (page : π) (component : ComponentCheck)
    (o : ObjectRules) :
    l.findingsOf page component true o.unflagged = l.findingsOf page component true o := by
  have hmissing : ∀ rules : List Rule, findingsMissing o.object (rules.map Rule.unflagged) =
      findingsMissing o.object rules := by
    intro rules
    induction rules with
    | nil => rfl
    | cons rule rules ih => simp only [List.map_cons, findingsMissing, ih]; rfl
  have houtcome : ∀ (rule : Rule) (result : Except Violation Unit),
      outcomeOf true rule.unflagged result = outcomeOf true rule result := by
    intro rule result
    cases result <;> simp [outcomeOf]
  unfold findingsOf
  simp only [ObjectRules.unflagged, hmissing, List.map_map]
  split
  · refine List.map_congr_left fun rule _ => ?_
    simp only [Function.comp_apply, houtcome]
    rfl
  · rfl

/-- No flag decides whether a condition holds. -/
theorem holds_unflagged (l : Layout) (page : π) (component : ComponentCheck) (c : Condition) :
    l.holds page component c.unflagged = l.holds page component c := by
  simp only [holds, Condition.unflagged, List.all_map, Function.comp_def, findingsOf_unflagged]

theorem any_holds_unflagged (l : Layout) (page : π) (component : ComponentCheck)
    (cs : List Condition) :
    (cs.map Condition.unflagged).any (l.holds page component) = cs.any (l.holds page component) := by
  simp only [List.any_map, Function.comp_def, holds_unflagged]

theorem choose_unflaggedProbes (l : Layout) (page : π) (component : ComponentCheck)
    (c : Conditional) :
    l.choose page component c.unflaggedProbes = l.choose page component c := by
  simp only [choose, Conditional.unflaggedProbes, any_holds_unflagged]

theorem choose_unflagged (l : Layout) (page : π) (component : ComponentCheck)
    (c : Conditional) :
    l.choose page component c.unflagged =
      (l.choose page component c).map ObjectRules.unflagged := by
  simp only [choose, Conditional.unflagged, any_holds_unflagged]
  split <;> rfl

theorem demanded_unflaggedProbes (l : Layout) (page : π) (component : ComponentCheck)
    (s : Section) :
    l.demanded page component s.unflaggedProbes = l.demanded page component s := by
  simp only [demanded, Section.unflaggedProbes, List.flatMap_map, choose_unflaggedProbes]

theorem demanded_unflagged (l : Layout) (page : π) (component : ComponentCheck) (s : Section) :
    l.demanded page component s.unflagged =
      (l.demanded page component s).map ObjectRules.unflagged := by
  simp only [demanded, Section.unflagged, List.flatMap_map, choose_unflagged, List.map_append,
    List.map_flatMap]

/-- Components are checked alike in layouts that declare the same objects. -/
theorem componentCheck_congr {l l' : Layout} (h : l.objects = l'.objects) (page : π)
    (settings : CheckSettings) (compiler : Option (Compiler π)) (wanted : List String) :
    l.componentCheck page settings compiler wanted =
      l'.componentCheck page settings compiler wanted := by
  have hinside : l.pageInside page = l'.pageInside page := by
    funext object
    simp only [pageInside, locator?, h]
  unfold componentCheck
  cases settings.maxComponentDepth with
  | zero => rfl
  | succ left => simp only [componentBelow, hinside]

theorem findingsOf_eq_of_objects {l l' : Layout} (h : l.objects = l'.objects) (page : π) :
    l.findingsOf page = l'.findingsOf page := by
  unfold findingsOf checkFound areaOf lookup locator?
  rw [h]

theorem holds_eq_of_objects {l l' : Layout} (h : l.objects = l'.objects) (page : π) :
    l.holds page = l'.holds page := by
  unfold holds
  rw [findingsOf_eq_of_objects h]

/-- The report does not depend on the flags of the rules that are tried. -/
theorem check_unflaggedProbes (l : Layout) (page : π) (settings : CheckSettings)
    (compiler : Option (Compiler π)) (wanted : List String) :
    l.unflaggedProbes.check page settings compiler wanted =
      l.check page settings compiler wanted := by
  rw [check_eq, check_eq,
    componentCheck_congr (show l.unflaggedProbes.objects = l.objects from rfl)]
  generalize l.componentCheck page settings compiler wanted = component
  have happlies : Section.applies wanted ∘ Section.unflaggedProbes = Section.applies wanted := rfl
  have hdemanded : ∀ s : Section, l.unflaggedProbes.demanded page component s.unflaggedProbes =
      l.demanded page component s := l.demanded_unflaggedProbes page component
  simp only [checkWith, sectionsFor, unflaggedProbes, List.filter_map, happlies, List.flatMap_map]
  exact congrArg Report.mk (List.flatMap_congr fun s _ => congrArg (List.flatMap _) (hdemanded s))

/-! ## Entries without flags -/

theorem outcomeOf_unflagged (rule : Rule) (result : Except Violation Unit) :
    outcomeOf false rule.unflagged result = (outcomeOf false rule result).unflagged := by
  cases result with
  | ok u => rfl
  | error v => cases hw : rule.warnOnly <;> simp [outcomeOf, Rule.unflagged, Outcome.unflagged, hw]

theorem entryFound_unflagged (l : Layout) (page : π) (component : ComponentCheck)
    (object : String) (e : Element) (rule : Rule) :
    l.entryFound page component object e rule.unflagged =
      (l.entryFound page component object e rule).unflagged := by
  unfold entryFound
  rw [outcomeOf_unflagged]
  rfl

theorem entriesMissing_unflagged (object : String) (rules : List Rule) :
    entriesMissing object (rules.map Rule.unflagged) =
      (entriesMissing object rules).map Entry.unflagged := by
  induction rules with
  | nil => rfl
  | cons rule rules ih =>
      have hrequirement : rule.unflagged.requirement = rule.requirement := rfl
      simp only [List.map_cons, entriesMissing, ih, hrequirement]
      split <;> rfl

theorem entriesOf_unflagged (l : Layout) (page : π) (component : ComponentCheck)
    (o : ObjectRules) :
    l.entriesOf page component o.unflagged =
      (l.entriesOf page component o).map Entry.unflagged := by
  unfold entriesOf
  simp only [ObjectRules.unflagged, List.map_map, entriesMissing_unflagged]
  cases l.lookup page o.object with
  | found e =>
      rw [List.map_map]
      exact List.map_congr_left fun rule _ => l.entryFound_unflagged page component o.object e rule
  | undeclared | missing => rfl

/-- A report on a layout without flags has the same entries, without flags. -/
theorem entries_unflagged (l : Layout) (page : π) (settings : CheckSettings)
    (compiler : Option (Compiler π)) (wanted : List String) :
    l.unflagged.entries page settings compiler wanted =
      (l.entries page settings compiler wanted).map Entry.unflagged := by
  unfold entries
  rw [componentCheck_congr (show l.unflagged.objects = l.objects from rfl)]
  generalize l.componentCheck page settings compiler wanted = component
  have happlies : Section.applies wanted ∘ Section.unflagged = Section.applies wanted := rfl
  have hdemanded : ∀ s : Section, l.unflagged.demanded page component s.unflagged =
      (l.demanded page component s).map ObjectRules.unflagged :=
    l.demanded_unflagged page component
  have hentries : ∀ o : ObjectRules, l.unflagged.entriesOf page component o.unflagged =
      (l.entriesOf page component o).map Entry.unflagged := l.entriesOf_unflagged page component
  simp only [entriesWith, sectionsFor]
  rw [show l.unflagged.sections = l.sections.map Section.unflagged from rfl, List.filter_map,
    happlies, List.flatMap_map, List.map_flatMap]
  refine List.flatMap_congr fun s _ => ?_
  rw [hdemanded, List.flatMap_map, List.map_flatMap]
  exact List.flatMap_congr fun o _ => hentries o

/-- The entries of two layouts that differ only in flags correspond, one by one. -/
theorem corresponds_entries {l l' : Layout} (h : l.unflagged = l'.unflagged) (page : π)
    (settings : CheckSettings) (compiler : Option (Compiler π)) (wanted : List String) :
    List.Forall₂ Entry.Corresponds (l.entries page settings compiler wanted)
      (l'.entries page settings compiler wanted) := by
  have hlabelled := l.labelled_entries page settings compiler wanted
  have hlabelled' := l'.labelled_entries page settings compiler wanted
  have hentries := congrArg (fun l => entries l page settings compiler wanted) h
  simp only [entries_unflagged] at hentries
  generalize l.entries page settings compiler wanted = es at *
  generalize l'.entries page settings compiler wanted = es' at *
  have hsame : List.Forall₂ (fun e e' => e.unflagged = e'.unflagged) es es' := by
    rw [← List.forall₂_eq_eq_eq] at hentries
    exact List.forall₂_map_right_iff.1 (List.forall₂_map_left_iff.1 hentries)
  refine List.forall₂_iff_get.2 ⟨hsame.length_eq, fun i hi hi' => ?_⟩
  exact Entry.corresponds_of_unflagged_eq (hlabelled _ (List.get_mem ..))
    (hlabelled' _ (List.get_mem ..)) (hsame.get hi hi')

/-- No flag decides which branch of a conditional is chosen. -/
theorem exists_holds_congr {l l' : Layout} (h : l.objects = l'.objects) {c c' : Conditional}
    (hc : c.unflagged = c'.unflagged) (page : π) (settings : CheckSettings)
    (compiler : Option (Compiler π)) (wanted : List String) :
    (∃ k ∈ c.conditions, l.Holds page (l.componentCheck page settings compiler wanted) k) ↔
      ∃ k ∈ c'.conditions, l'.Holds page (l'.componentCheck page settings compiler wanted) k := by
  have hconditions : c.conditions.map Condition.unflagged = c'.conditions.map Condition.unflagged :=
    (congrArg Conditional.conditions hc :)
  rw [componentCheck_congr h]
  generalize l'.componentCheck page settings compiler wanted = component
  simp only [← holds_iff, ← List.any_eq_true]
  rw [← any_holds_unflagged, hconditions, any_holds_unflagged, holds_eq_of_objects h]

/-- Two checks of layouts that differ only in flags report the same rules, and what they find
differs in labels only: a failure of a rule without its flag is a warning of the rule with it.
The same branches are chosen.  If the flags differ only on rules that are tried, the reports
are the same. -/
theorem check_up_to_labels (l l' : Layout) (page : π) (settings : CheckSettings)
    (compiler : Option (Compiler π)) (wanted : List String) :
    let entries := l.entries page settings compiler wanted
    let entries' := l'.entries page settings compiler wanted
    let report := l.check page settings compiler wanted
    let report' := l'.check page settings compiler wanted
    (entries.map Entry.finding = report.findings ∧ entries'.map Entry.finding = report'.findings) ∧
    (l.unflagged = l'.unflagged →
      List.Forall₂ Entry.Corresponds entries entries' ∧
        report.findings.length = report'.findings.length ∧
        ∀ c c' : Conditional, c.unflagged = c'.unflagged →
          ((∃ k ∈ c.conditions, l.Holds page (l.componentCheck page settings compiler wanted) k) ↔
            ∃ k ∈ c'.conditions,
              l'.Holds page (l'.componentCheck page settings compiler wanted) k)) ∧
    (l.unflaggedProbes = l'.unflaggedProbes → report = report') := by
  intro entries entries' report report'
  have hfindings : entries.map Entry.finding = report.findings := map_finding_entries ..
  have hfindings' : entries'.map Entry.finding = report'.findings := map_finding_entries ..
  refine ⟨⟨hfindings, hfindings'⟩, fun h => ?_, fun h => ?_⟩
  · have hcorresponds : List.Forall₂ Entry.Corresponds entries entries' :=
      corresponds_entries h page settings compiler wanted
    have hobjects : l.objects = l'.objects := (congrArg Layout.objects h :)
    refine ⟨hcorresponds, ?_, fun c c' hc => ?_⟩
    · rw [← hfindings, ← hfindings', List.length_map, List.length_map, hcorresponds.length_eq]
    · exact exists_holds_congr hobjects hc page settings compiler wanted
  · calc report
      _ = l.unflaggedProbes.check page settings compiler wanted :=
        (l.check_unflaggedProbes page settings compiler wanted).symm
      _ = l'.unflaggedProbes.check page settings compiler wanted := by rw [h]
      _ = report' := l'.check_unflaggedProbes page settings compiler wanted

/-- A layout with one section.  The banner, which is shown, should be absent, and a
conditional tries the same.  One flag is that of the rule, and the other that of the rule
that is tried. -/
def bannerLayout (flag probe : Bool) : Layout :=
  let absent : Bool → Rule := Rule.mk .absent "absent" ⟨"page", 5⟩
  let visible : Rule := ⟨.visible, "visible", ⟨"page", 9⟩, false⟩
  ⟨.ofList [("banner", ⟨.id, "banner", none⟩)],
    [⟨"", [], [⟨"banner", [absent flag]⟩],
      [⟨[⟨[⟨"banner", [absent probe]⟩], false⟩], [], [⟨"banner", [visible]⟩]⟩], ⟨"page", 4⟩⟩]⟩

/-- A page with a banner. -/
def bannerPage : Snapshot := ⟨none, [.mk .id "banner" ⟨⟨0, 0, 400, 50⟩, none, true⟩ []]⟩

/-- The banner fails without its flag and is warned of with it.  Both times the condition does
not hold and the other branch is checked. -/
theorem check_up_to_labels_banner :
    (bannerLayout false false).unflagged = (bannerLayout true true).unflagged ∧
      ((bannerLayout false false).check bannerPage ⟨8⟩ none []).findings.map Finding.outcome =
        [.fail ⟨["\"banner\" is not absent on page"], [⟨⟨0, 0, 400, 50⟩, "banner"⟩]⟩, .pass] ∧
      ((bannerLayout true true).check bannerPage ⟨8⟩ none []).findings.map Finding.outcome =
        [.warn ⟨["\"banner\" is not absent on page"], [⟨⟨0, 0, 400, 50⟩, "banner"⟩]⟩, .pass] ∧
      List.Forall₂ Entry.Corresponds ((bannerLayout false false).entries bannerPage ⟨8⟩ none [])
        ((bannerLayout true true).entries bannerPage ⟨8⟩ none []) ∧
      (bannerLayout true false).unflaggedProbes = (bannerLayout true true).unflaggedProbes ∧
      (bannerLayout true false).check bannerPage ⟨8⟩ none [] =
        (bannerLayout true true).check bannerPage ⟨8⟩ none [] := by
  have hflags := check_up_to_labels (bannerLayout false false) (bannerLayout true true) bannerPage
    ⟨8⟩ none []
  have hprobes := check_up_to_labels (bannerLayout true false) (bannerLayout true true) bannerPage
    ⟨8⟩ none []
  exact ⟨rfl, rfl, rfl, (hflags.2.1 rfl).1, rfl, hprobes.2.2 rfl⟩

end Layout

end PageLayout
