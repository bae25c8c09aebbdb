import PageLayout.Page.Snapshot
import PageLayout.Proofs.Check.Warnings

/-!
# The order of conditions

The rules of a missing object are tried up to the first that demands more than its absence, so
what a condition finds depends on the order of its rules.  Its answer does not, since a rule
that demands more is not kept wherever it stands.  Whether a condition is `Satisfied` depends
only on which of its rules are kept alone, and this is its answer (`holds_iff_satisfied`).

So conditions that are `Reordered` have the same answer, and a conditional whose conditions are
written in another order, or more than once, demands the same rules.  The report on a layout is
then the same as well (`check_reordered`).
-/

namespace PageLayout

/-! ## Other orders -/

/-- The same rules of one object, in any order. -/
structure ObjectRules.Reordered (o o' : ObjectRules) : Prop where
  object : o.object = o'.object
  rules : o.rules.Perm o'.rules

/-- The same objects to try in any order, with their rules in any order. -/
structure Condition.Reordered (c c' : Condition) : Prop where
  probes : ∃ os, c.probes.Perm os ∧ List.Forall₂ ObjectRules.Reordered os c'.probes
  inverted : c.inverted = c'.inverted

/-- The same conditions in any order and any number of times, before the same branches. -/
structure Conditional.Reordered (k k' : Conditional) : Prop where
  kept : ∀ c ∈ k.conditions, ∃ c' ∈ k'.conditions, c.Reordered c'
  known : ∀ c' ∈ k'.conditions, ∃ c ∈ k.conditions, c.Reordered c'
  body : k.body = k'.body
  otherwise : k.otherwise = k'.otherwise

/-- The same section, except for the order of conditions. -/
structure Section.Reordered (s s' : Section) : Prop where
  name : s.name = s'.name
  tags : s.tags = s'.tags
  objects : s.objects = s'.objects
  conditionals : List.Forall₂ Conditional.Reordered s.conditionals s'.conditionals
  place : s.place = s'.place

/-- The same layout, except for the order of conditions. -/
structure Layout.Reordered (l l' : Layout) : Prop where
  objects : l.objects = l'.objects
  sections : List.Forall₂ Section.Reordered l.sections l'.sections

theorem Condition.Reordered.refl (c : Condition) : c.Reordered c :=
  ⟨⟨c.probes, .refl _, List.forall₂_same.2 fun _ _ => ⟨rfl, .refl _⟩⟩, rfl⟩

/-- Reordered conditions have the same rules of the same objects. -/
theorem Condition.Reordered.forall_iff {c c' : Condition} (h : c.Reordered c')
    (p : String → Rule → Prop) :
    (∀ o ∈ c.probes, ∀ rule ∈ o.rules, p o.object rule) ↔
      ∀ o ∈ c'.probes, ∀ rule ∈ o.rules, p o.object rule := by
  obtain ⟨os, hperm, hsame⟩ := h.probes
  have hprobes : (∀ o ∈ c.probes, ∀ rule ∈ o.rules, p o.object rule) ↔
      ∀ o ∈ os, ∀ rule ∈ o.rules, p o.object rule :=
    forall_congr' fun o => by rw [hperm.mem_iff]
  rw [hprobes]
  clear hperm hprobes
  generalize c'.probes = os' at hsame
  induction hsame with
  | nil => rfl
  | @cons o o' os os' ho _ ih =>
      have hrules : (∀ rule ∈ o.rules, p o.object rule) ↔ ∀ rule ∈ o'.rules, p o'.object rule :=
        forall_congr' fun rule => by rw [ho.rules.mem_iff, ho.object]
      rw [List.forall_mem_cons, List.forall_mem_cons]
      exact and_congr hrules ih

namespace Layout

variable {π : Type} [Page π]

/-! ## Rules on their own -/

/-- A rule is kept if it is tried alone. -/
def KeptAlone (l : Layout) (page : π) (component : ComponentCheck) (object : String)
    (rule : Rule) : Prop :=
  (l.findingsOf page component true ⟨object, [rule]⟩).map Finding.outcome = [.pass]

/-- Either all rules of a condition are kept, each of them tried alone, or the condition is
inverted, but not both. -/
def Satisfied (l : Layout) (page : π) (component : ComponentCheck) (c : Condition) : Prop :=
  ¬((∀ o ∈ c.probes, ∀ rule ∈ o.rules, l.KeptAlone page component o.object rule) ↔
    c.inverted = true)

theorem forall_findingsMissing_iff (object : String) (rules : List Rule) :
    (∀ f ∈ findingsMissing object rules, f.outcome = .pass) ↔
      ∀ rule ∈ rules, rule.requirement = .absent := by
  induction rules with
  | nil => simp [findingsMissing]
  | cons rule rules ih =>
      unfold findingsMissing
      split
      next habsent =>
        rw [List.forall_mem_cons, List.forall_mem_cons, ih]
        simp only [findingOf, habsent]
      next hmore =>
        rw [List.forall_mem_singleton, List.forall_mem_cons]
        simp only [findingOf, reduceCtorEq, hmore, false_and]

theorem keptAlone_missing {l : Layout} {page : π} {object : String} (component : ComponentCheck)
    (h : ∀ e, ¬l.Resolves page object e) (rule : Rule) :
    l.KeptAlone page component object rule ↔ rule.requirement = .absent := by
  unfold KeptAlone
  rw [findingsOf_missing component true (o := ⟨object, [rule]⟩) h]
  unfold findingsMissing
  split
  next habsent => exact iff_of_true rfl habsent
  next hmore => exact iff_of_false (by simp [findingOf]) hmore

/-- The findings about an object say that its rules are kept if each of them is kept alone. -/
theorem forall_findingsOf_iff (l : Layout) (page : π) (component : ComponentCheck)
    (o : ObjectRules) :
    (∀ f ∈ l.findingsOf page component true o, f.outcome = .pass) ↔
      ∀ rule ∈ o.rules, l.KeptAlone page component o.object rule := by
  by_cases hr : ∃ e, l.Resolves page o.object e
  · obtain ⟨e, he⟩ := hr
    rw [findingsOf_found component true he, List.forall_mem_map]
    refine forall₂_congr fun rule _ => ?_
    unfold KeptAlone
    rw [findingsOf_found component true (o := ⟨o.object, [rule]⟩) he]
    simp only [List.map_cons, List.map_nil, List.cons.injEq, and_true]
  · have hr : ∀ e, ¬l.Resolves page o.object e := fun e he => hr ⟨e, he⟩
    -- Here the findings stop at the first rule that demands more than absence.
    rw [findingsOf_missing component true hr, forall_findingsMissing_iff]
    exact forall₂_congr fun rule _ => (keptAlone_missing component hr rule).symm

/-- The answer of a condition is that of its rules on their own. -/
theorem holds_iff_satisfied (l : Layout) (page : π) (component : ComponentCheck)
    (c : Condition) : l.holds page component c = true ↔ l.Satisfied page component c := by
  simp only [holds_iff, Holds, Satisfied, objectFindings_iff, forall_eq', forall_findingsOf_iff]
  cases c.inverted <;> simp

/-! ## Conditions in another order -/

theorem satisfied_iff_of_reordered (l : Layout) (page : π) (component : ComponentCheck)
    {c c' : Condition} (h : c.Reordered c') :
    l.Satisfied page component c ↔ l.Satisfied page component c' := by
  unfold Satisfied
  rw [h.forall_iff, h.inverted]

/-- A condition among those of a conditional is satisfied if and only if there is one among
those of a reordered conditional. -/
theorem exists_satisfied_iff_of_reordered (l : Layout) (page : π) (component : ComponentCheck)
    {k k' : Conditional} (h : k.Reordered k') :
    (∃ c ∈ k.conditions, l.Satisfied page component c) ↔
      ∃ c ∈ k'.conditions, l.Satisfied page component c := by
  constructor
  · rintro ⟨c, hc, hsatisfied⟩
    obtain ⟨c', hc', hsame⟩ := h.kept c hc
    exact ⟨c', hc', (l.satisfied_iff_of_reordered page component hsame).1 hsatisfied⟩
  · rintro ⟨c', hc', hsatisfied⟩
    obtain ⟨c, hc, hsame⟩ := h.known c' hc'
    exact ⟨c, hc, (l.satisfied_iff_of_reordered page component hsame).2 hsatisfied⟩

theorem any_holds_iff (l : Layout) (page : π) (component : ComponentCheck) (k : Conditional) :
    k.conditions.any (l.holds page component) = true ↔
      ∃ c ∈ k.conditions, l.Satisfied page component c := by
  simp only [List.any_eq_true, holds_iff_satisfied]

/-- Reordered conditionals demand the same rules. -/
theorem choose_eq_of_reordered (l : Layout) (page : π) (component : ComponentCheck)
    {k k' : Conditional} (h : k.Reordered k') :
    l.choose page component k = l.choose page component k' := by
  have hany : k.conditions.any (l.holds page component) =
      k'.conditions.any (l.holds page component) := by
    rw [Bool.eq_iff_iff, any_holds_iff, any_holds_iff, l.exists_satisfied_iff_of_reordered _ _ h]
  unfold choose
  rw [hany, h.body, h.otherwise]

theorem flatMap_eq_of_forall₂ {α β : Type} {related : α → α → Prop} {f : α → List β}
    (hf : ∀ x y, related x y → f x = f y) {xs ys : List α} (h : List.Forall₂ related xs ys) :
    xs.flatMap f = ys.flatMap f := by
  induction h with
  | nil => rfl
  | cons hxy _ ih => rw [List.flatMap_cons, List.flatMap_cons, hf _ _ hxy, ih]

/-- Reordered sections demand the same rules. -/
theorem demanded_eq_of_reordered (l : Layout) (page : π) (component : ComponentCheck)
    {s s' : Section} (h : s.Reordered s') :
    l.demanded page component s = l.demanded page component s' := by
  have hchosen : s.conditionals.flatMap (l.choose page component) =
      s'.conditionals.flatMap (l.choose page component) :=
    flatMap_eq_of_forall₂ (fun _ _ hk => l.choose_eq_of_reordered page component hk)
      h.conditionals
  rw [demanded, demanded, h.objects, hchosen]

/-- The same sections of reordered layouts apply. -/
theorem sectionsFor_reordered {l l' : Layout} (h : l.Reordered l') (wanted : List String) :
    List.Forall₂ Section.Reordered (l.sectionsFor wanted) (l'.sectionsFor wanted) := by
  refine List.rel_filter (fun s s' hs => ?_) h.sections
  simp only [Section.applies, hs.tags]

theorem checkWith_eq_of_reordered {l l' : Layout} (h : l.Reordered l') (page : π)
    (component : ComponentCheck) (wanted : List String) :
    l.checkWith page component wanted = l'.checkWith page component wanted := by
  have hdemanded : l.demanded page component = l'.demanded page component := by
    unfold demanded choose
    rw [holds_eq_of_objects h.objects]
  unfold checkWith
  rw [hdemanded, findingsOf_eq_of_objects h.objects]
  refine congrArg Report.mk (flatMap_eq_of_forall₂ (fun s s' hs => ?_)
    (sectionsFor_reordered h wanted))
  rw [l'.demanded_eq_of_reordered page component hs]

/-- No order of conditions, of the objects in a condition or of the rules of such an object
makes a difference to the report, and neither does a condition that is written again.

The reason is that a condition only asks whether each of its rules is kept alone, or, if it is
inverted, whether some rule is not.  A conditional demands its body if a condition is satisfied
in this sense, and its other branch if none is. -/
theorem check_reordered (l l' : Layout) (page : π) (settings : CheckSettings)
    (compiler : Option (Compiler π)) (wanted : List String) :
    (l.Reordered l' →
      l.check page settings compiler wanted = l'.check page settings compiler wanted) ∧
    ∀ component : ComponentCheck,
      (∀ c, l.holds page component c = true ↔ l.Satisfied page component c) ∧
      ∀ k : Conditional,
        ((∃ c ∈ k.conditions, l.Satisfied page component c) →
          l.choose page component k = k.body) ∧
        ((∀ c ∈ k.conditions, ¬l.Satisfied page component c) →
          l.choose page component k = k.otherwise) := by
  refine ⟨fun h => ?_, fun component => ⟨l.holds_iff_satisfied page component, fun k => ⟨?_, ?_⟩⟩⟩
  · rw [check_eq, check_eq, componentCheck_congr h.objects, checkWith_eq_of_reordered h]
  · intro hsome
    exact if_pos ((l.any_holds_iff page component k).2 hsome)
  · intro hnone
    refine if_neg fun hany => ?_
    obtain ⟨c, hc, hsatisfied⟩ := (l.any_holds_iff page component k).1 hany
    exact hnone c hc hsatisfied

/-- A condition that tries whether the ghost, which is on no page, keeps some rules. -/
def ghostCondition (rs : List Requirement) (inverted : Bool) : Condition :=
  ⟨[⟨"ghost", rs.map fun r => ⟨r, "", ⟨"page", 5⟩, false⟩⟩], inverted⟩

/-- A conditional that demands that the banner be visible, or else that it be absent. -/
def ghostConditional (conditions : List Condition) : Conditional :=
  let rule : Requirement → Rule := fun r => ⟨r, "", ⟨"page", 7⟩, false⟩
  ⟨conditions, [⟨"banner", [rule .visible]⟩], [⟨"banner", [rule .absent]⟩]⟩

/-- A layout with that conditional only. -/
def ghostLayout (conditions : List Condition) : Layout :=
  ⟨.ofList [("banner", ⟨.id, "banner", none⟩), ("ghost", ⟨.id, "ghost", none⟩)],
    [⟨"", [], [], [ghostConditional conditions], ⟨"page", 4⟩⟩]⟩

/-- The ghost is absent and not visible.  Whether it is absent is only seen if that is tried
first, but the condition with both rules fails either way. -/
theorem check_reordered_ghost :
    let both := ghostCondition [.visible, .absent] false
    let reversed := ghostCondition [.absent, .visible] false
    let hidden := ghostCondition [.visible] true
    let l := ghostLayout [both, hidden]
    let l' := ghostLayout [hidden, reversed, hidden, both]
    let component : ComponentCheck := fun _ _ => .ok ()
    let outcomes := fun c : Condition =>
      (c.probes.flatMap (l.findingsOf bannerPage component true)).map Finding.outcome
    (outcomes both = [.notFound] ∧ outcomes reversed = [.pass, .notFound]) ∧
      (l.Reordered l' ∧ l.check bannerPage ⟨8⟩ none [] = l'.check bannerPage ⟨8⟩ none []) ∧
      (l.Satisfied bannerPage component hidden ∧
        l.choose bannerPage component (ghostConditional [both, hidden]) =
          (ghostConditional [both, hidden]).body) ∧
      (¬l.Satisfied bannerPage component both ∧
        l.choose bannerPage component (ghostConditional [both]) =
          (ghostConditional [both]).otherwise) := by
  intro both reversed hidden l l' component outcomes
  have hboth : both.Reordered reversed :=
    ⟨⟨both.probes, .refl _, .cons ⟨rfl, .swap ..⟩ .nil⟩, rfl⟩
  have hconditional : (ghostConditional [both, hidden]).Reordered
      (ghostConditional [hidden, reversed, hidden, both]) := by
    refine ⟨?_, ?_, rfl, rfl⟩
    · exact List.forall_mem_cons.2 ⟨⟨reversed, .tail _ (.head _), hboth⟩,
        List.forall_mem_singleton.2 ⟨hidden, .head _, .refl hidden⟩⟩
    · exact List.forall_mem_cons.2 ⟨⟨hidden, .tail _ (.head _), .refl hidden⟩,
        List.forall_mem_cons.2 ⟨⟨both, .head _, hboth⟩,
          List.forall_mem_cons.2 ⟨⟨hidden, .tail _ (.head _), .refl hidden⟩,
            List.forall_mem_singleton.2 ⟨both, .head _, .refl both⟩⟩⟩⟩
  have hreordered : l.Reordered l' :=
    ⟨rfl, .cons ⟨rfl, rfl, rfl, .cons hconditional .nil, rfl⟩ .nil⟩
  have hhidden : l.Satisfied bannerPage component hidden := (holds_iff_satisfied ..).1 rfl
  have hnot : ¬l.Satisfied bannerPage component both := fun h =>
    Bool.false_ne_true ((holds_iff_satisfied ..).2 h)
  have hcheck := check_reordered l l' bannerPage ⟨8⟩ none []
  have hchoose := (hcheck.2 component).2
  exact ⟨⟨rfl, rfl⟩, ⟨hreordered, hcheck.1 hreordered⟩,
    ⟨hhidden, (hchoose (ghostConditional [both, hidden])).1 ⟨hidden, .tail _ (.head _), hhidden⟩⟩,
    ⟨hnot, (hchoose (ghostConditional [both])).2 (List.forall_mem_singleton.2 hnot)⟩⟩

end Layout

end PageLayout
