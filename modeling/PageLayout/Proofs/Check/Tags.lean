import Mathlib.Data.List.Flatten
import PageLayout.Page.Snapshot
import PageLayout.Proofs.Check.Verdict
import PageLayout.Proofs.Layout.Rules

/-!
# Wanted tags

The wanted tags decide which sections apply, and nothing else in the layout that is checked.
More tags let more sections apply, in the same order, so the findings for fewer tags are a
part of those for more.

A component is checked for the same tags.  A component that passes for fewer tags may fail
for more, and if it is tried in a condition, this changes the branch that is chosen.  So the
first result is about layouts without components.  The second one is not: which tags are
wanted counts, but not their order, nor how often one is named.
-/

namespace PageLayout

/-- More tags let more sections apply. -/
theorem Section.applies_mono {wanted wanted' : List String} (h : wanted ⊆ wanted') {s : Section}
    (hs : s.applies wanted = true) : s.applies wanted' = true := by
  rw [applies_iff] at hs ⊢
  rcases hs with hnone | hany | ⟨tag, htag, hwanted⟩
  · exact .inl hnone
  · exact .inr (.inl hany)
  · exact .inr (.inr ⟨tag, htag, h hwanted⟩)

/-- A report passes if another one does that has all of its findings. -/
theorem Report.passed_of_sublist {r r' : Report} (h : r.findings.Sublist r'.findings)
    (hpassed : r'.passed = true) : r.passed = true := by
  by_contra hnot
  rw [Bool.not_eq_true, passed_eq_false_iff] at hnot
  obtain ⟨f, hf, hfailure⟩ := hnot
  have hfails : r'.passed = false := r'.passed_eq_false_iff.2 ⟨f, h.subset hf, hfailure⟩
  rw [hpassed] at hfails
  cases hfails

namespace Layout

/-- No rule of a layout demands a component. -/
def WithoutComponents (l : Layout) : Prop :=
  ∀ rule ∈ l.everyRule, ∀ path, rule.requirement ≠ .component path

section Components

variable {π : Type} [Page π]

/-! ## Without components -/

section Indifference

variable (l : Layout) (page : π) (component component' : ComponentCheck)

theorem checkFound_congr (object : String) (e : Element) {r : Requirement}
    (h : ∀ path, r ≠ .component path) :
    l.checkFound page component object e r = l.checkFound page component' object e r := by
  cases r with
  | component path => exact absurd rfl (h path)
  | _ => rfl

theorem findingsOf_congr (probing : Bool) {o : ObjectRules}
    (h : ∀ rule ∈ o.rules, ∀ path, rule.requirement ≠ .component path) :
    l.findingsOf page component probing o = l.findingsOf page component' probing o := by
  simp only [findingsOf]
  split
  next e _ =>
    refine List.map_congr_left fun rule hrule => ?_
    rw [l.checkFound_congr page component component' o.object e (h rule hrule)]
  next => rfl

theorem holds_congr {c : Condition}
    (h : ∀ o ∈ c.probes, ∀ rule ∈ o.rules, ∀ path, rule.requirement ≠ .component path) :
    l.holds page component c = l.holds page component' c := by
  have hfindings : ∀ o ∈ c.probes,
      l.findingsOf page component true o = l.findingsOf page component' true o :=
    fun o ho => l.findingsOf_congr page component component' true (h o ho)
  have hall : (∀ o ∈ c.probes, ∀ f ∈ l.findingsOf page component true o,
        f.outcome.isPass = true) ↔
      ∀ o ∈ c.probes, ∀ f ∈ l.findingsOf page component' true o, f.outcome.isPass = true :=
    forall₂_congr fun o ho => by rw [hfindings o ho]
  simp only [holds]
  congr 1
  rw [Bool.eq_iff_iff]
  simpa only [List.all_eq_true] using hall

theorem choose_congr {c : Conditional}
    (h : ∀ o ∈ c.everyObject, ∀ rule ∈ o.rules, ∀ path, rule.requirement ≠ .component path) :
    l.choose page component c = l.choose page component' c := by
  have hholds : ∀ k ∈ c.conditions, l.holds page component k = l.holds page component' k := by
    intro k hk
    refine l.holds_congr page component component' fun o ho => h o ?_
    have hprobes : o ∈ c.conditions.flatMap Condition.probes := List.mem_flatMap.2 ⟨k, hk, ho⟩
    simp [Conditional.everyObject, hprobes]
  have hany : (∃ k ∈ c.conditions, l.holds page component k = true) ↔
      ∃ k ∈ c.conditions, l.holds page component' k = true :=
    exists_congr fun k => and_congr_right fun hk => by rw [hholds k hk]
  simp only [choose, List.any_eq_true, hany]

/-- The findings about a section without components do not depend on how they are checked. -/
theorem findings_section_congr {s : Section}
    (h : ∀ o ∈ s.everyObject, ∀ rule ∈ o.rules, ∀ path, rule.requirement ≠ .component path) :
    (l.demanded page component s).flatMap (l.findingsOf page component false) =
      (l.demanded page component' s).flatMap (l.findingsOf page component' false) := by
  have hdemanded : l.demanded page component s = l.demanded page component' s := by
    simp only [demanded]
    congr 1
    refine List.flatMap_congr fun c hc => l.choose_congr page component component' fun o ho => ?_
    exact h o (Section.mem_everyObject.2 (.inr ⟨c, hc, ho⟩))
  rw [hdemanded]
  refine List.flatMap_congr fun o ho => l.findingsOf_congr page component component' false ?_
  -- What is demanded are own objects, or objects of one branch of a conditional.
  refine h o (Section.mem_everyObject.2 ?_)
  simp only [demanded, List.mem_append, List.mem_flatMap, choose] at ho
  rcases ho with ho | ⟨c, hc, ho⟩
  · exact .inl ho
  · refine .inr ⟨c, hc, ?_⟩
    split at ho
    · simp [Conditional.everyObject, ho]
    · simp [Conditional.everyObject, ho]

end Indifference

/-- More wanted tags only add findings, if there are no components. -/
theorem findings_sublist {l : Layout} (hl : l.WithoutComponents) {wanted wanted' : List String}
    (h : wanted ⊆ wanted') (page : π) (component component' : ComponentCheck) :
    (l.checkWith page component wanted).findings.Sublist
      (l.checkWith page component' wanted').findings := by
  have hsections : (l.sectionsFor wanted).Sublist (l.sectionsFor wanted') :=
    List.monotone_filter_right l.sections fun s hs => Section.applies_mono h hs
  have hsame : (l.checkWith page component wanted).findings =
      (l.checkWith page component' wanted).findings := by
    refine List.flatMap_congr fun s hs => ?_
    refine l.findings_section_congr page component component' fun o ho rule hrule => ?_
    have hs : s ∈ l.sections := (List.mem_filter.1 hs).1
    exact hl rule (mem_everyRule.2 ⟨s, hs, Section.mem_everyRule.2 ⟨o, ho, hrule⟩⟩)
  rw [hsame]
  exact hsections.flatMap _

/-! ## With components -/

theorem sectionsFor_congr (l : Layout) {wanted wanted' : List String}
    (h : ∀ tag, tag ∈ wanted ↔ tag ∈ wanted') : l.sectionsFor wanted = l.sectionsFor wanted' := by
  refine List.filter_congr fun s _ => ?_
  rw [Bool.eq_iff_iff]
  exact ⟨Section.applies_mono fun tag => (h tag).1, Section.applies_mono fun tag => (h tag).2⟩

theorem checkWith_tags_congr (l : Layout) (page : π) (component : ComponentCheck)
    {wanted wanted' : List String} (h : ∀ tag, tag ∈ wanted ↔ tag ∈ wanted') :
    l.checkWith page component wanted = l.checkWith page component wanted' := by
  rw [checkWith, checkWith, l.sectionsFor_congr h]

/-- The tags are handed down to components as they are. -/
theorem componentBelow_tags_congr (limit : Nat) (compiler : Option (Compiler π))
    {wanted wanted' : List String} (h : ∀ tag, tag ∈ wanted ↔ tag ∈ wanted') (left : Nat)
    (l : Layout) (page : π) :
    componentBelow limit compiler wanted left l page =
      componentBelow limit compiler wanted' left l page := by
  induction left generalizing l page with
  | zero => rfl
  | succ left ih =>
      have hbelow : checkBelow limit compiler wanted left =
          checkBelow limit compiler wanted' left := by
        funext layout inner
        rw [checkBelow_eq, checkBelow_eq, ih, checkWith_tags_congr layout inner _ h]
      funext object path
      simp only [componentBelow, hbelow]

/-- If a layout has no components, more wanted tags only add findings, so it passes for fewer
tags if it passes for more.  And lists with the same tags, in any order and with any repetition,
give the same report, whether there are components or not. -/
theorem check_wanted_tags (l : Layout) (page : π) (settings : CheckSettings)
    (compiler : Option (Compiler π)) (wanted wanted' : List String) :
    let report := l.check page settings compiler wanted
    let report' := l.check page settings compiler wanted'
    (l.WithoutComponents → wanted ⊆ wanted' →
      report.findings.Sublist report'.findings ∧ (report'.passed = true → report.passed = true)) ∧
    ((∀ tag, tag ∈ wanted ↔ tag ∈ wanted') → report = report') := by
  intro report report'
  refine ⟨fun hl h => ?_, fun h => ?_⟩
  · have hsublist : report.findings.Sublist report'.findings := by
      simp only [report, report', check_eq]
      exact findings_sublist hl h page _ _
    exact ⟨hsublist, Report.passed_of_sublist hsublist⟩
  · simp only [report, report', check_eq, componentCheck]
    rw [componentBelow_tags_congr _ compiler h, checkWith_tags_congr l page _ h]

end Components

/-- A layout with a section for all pages, one for phones with a conditional, and one for
desktops. -/
def tagLayout : Layout :=
  let shown (line : Nat) : ObjectRules := ⟨"menu", [⟨.visible, "visible", ⟨"page", line⟩, false⟩]⟩
  ⟨.ofList [("menu", ⟨.id, "menu", none⟩)],
    [⟨"all", [anyTag], [shown 2], [], ⟨"page", 1⟩⟩,
      ⟨"phone", ["phone"], [], [⟨[⟨[shown 5], true⟩], [shown 7], [shown 9]⟩], ⟨"page", 3⟩⟩,
      ⟨"desktop", ["desktop", "tablet"], [shown 12], [], ⟨"page", 11⟩⟩]⟩

/-- A page with a menu. -/
def tagPage : Snapshot := ⟨none, [.mk .id "menu" ⟨⟨0, 0, 400, 50⟩, none, true⟩ []]⟩

/-- Two wanted tags add the findings of one more section to those for one tag.  The same two
tags in another order, one of them twice, add nothing. -/
theorem check_wanted_tags_sections :
    tagLayout.WithoutComponents ∧ ["desktop"] ⊆ ["phone", "desktop"] ∧
      (tagLayout.check tagPage ⟨8⟩ none ["desktop"]).findings.Sublist
        (tagLayout.check tagPage ⟨8⟩ none ["phone", "desktop"]).findings ∧
      (tagLayout.check tagPage ⟨8⟩ none ["desktop"]).findings.map (·.place.line) = [2, 12] ∧
      (tagLayout.check tagPage ⟨8⟩ none ["phone", "desktop"]).findings.map (·.place.line) =
        [2, 9, 12] ∧
      (tagLayout.check tagPage ⟨8⟩ none ["phone", "desktop"]).passed = true ∧
      (tagLayout.check tagPage ⟨8⟩ none ["desktop"]).passed = true ∧
      tagLayout.check tagPage ⟨8⟩ none ["phone", "desktop"] =
        tagLayout.check tagPage ⟨8⟩ none ["desktop", "phone", "desktop"] := by
  have hcomponents : tagLayout.WithoutComponents := by
    have hvisible : ∀ rule ∈ tagLayout.everyRule, rule.requirement = .visible := by decide
    intro rule hrule path hpath
    cases hpath.symm.trans (hvisible rule hrule)
  have hmore : ["desktop"] ⊆ ["phone", "desktop"] := by decide
  have hpassed : (tagLayout.check tagPage ⟨8⟩ none ["phone", "desktop"]).passed = true := rfl
  obtain ⟨hsublist, hpasses⟩ := (check_wanted_tags tagLayout tagPage ⟨8⟩ none ["desktop"]
    ["phone", "desktop"]).1 hcomponents hmore
  have hsame := (check_wanted_tags tagLayout tagPage ⟨8⟩ none ["phone", "desktop"]
    ["desktop", "phone", "desktop"]).2 fun tag => by simp [or_comm]
  exact ⟨hcomponents, hmore, hsublist, rfl, rfl, hpassed, hpasses hpassed, hsame⟩

end Layout

end PageLayout
