import PageLayout.Page.Snapshot
import PageLayout.Proofs.Check.Findings
import PageLayout.Proofs.Compilation.Opening

/-!
# Directions seen from both objects

An object lies above another one if and only if the other lies below it.  The two rules look up
their objects in different ways, and they measure from different boxes.  But each of them is
kept exactly if both objects are on the page and shown, and the distance between them is
accepted (`keeps_toward_iff`, `keeps_near_iff`).  The distance from one box at a side is the
distance from the other at the opposite side (`Side.gap_opposite`).

So rules that are `Mirrored` pass together, whatever their objects are: declared or not, missing,
hidden or the screen (`passes_iff_of_mirrored`).
-/

namespace PageLayout

/-! ## Sides -/

/-- The side across. -/
def Side.opposite : Side → Side
  | .left => .right
  | .right => .left
  | .top => .bottom
  | .bottom => .top

/-- The distance between two boxes is measured from either of them. -/
theorem Side.gap_opposite (a b : Rect) (side : Side) :
    side.opposite.gap b a = side.gap a b := by
  cases side <;> rfl

/-- The requirement to lie at a side of another object. -/
def Requirement.toward : Side → String → Option Range → Requirement
  | .left => .leftOf
  | .right => .rightOf
  | .top => .above
  | .bottom => .below

/-- Requirements of two objects, or of one, that say the same.  A direction is that of the
other object, turned around.  With a range it is also a distance at one side, and so is a
distance at the opposite side from the other object. -/
inductive Mirrored : String → Requirement → String → Requirement → Prop
  | directions (side : Side) (a b : String) (range : Option Range) :
      Mirrored a (.toward side b range) b (.toward side.opposite a range)
  | distance (side : Side) (a b : String) (range : Range) :
      Mirrored a (.toward side b (some range)) a (.near b [⟨range, [side]⟩])
  | distances (side : Side) (a b : String) (range : Range) :
      Mirrored a (.near b [⟨range, [side]⟩]) b (.near a [⟨range, [side.opposite]⟩])

/-! ## What is checked of a distance -/

namespace Check

/-- Whether a distance is as a direction demands.  Without a range it must not be negative. -/
def AcceptsGap (range : Option Range) (gap : Float) : Prop :=
  match range with
  | none => ¬gap < 0.0
  | some range => range.holds gap = true

theorem direction_eq_ok_iff (object word other : String) (gap : Float) (range : Option Range)
    (areas : List Area) :
    direction object word other gap range areas = .ok () ↔ AcceptsGap range gap := by
  unfold direction AcceptsGap
  cases range with
  | none => by_cases h : gap < 0.0 <;> simp [h]
  | some range => cases h : range.holds gap <;> simp [h]

theorem ofMessages_eq_ok_iff (messages : List String) (areas : List Area) :
    ofMessages messages areas = .ok () ↔ messages = [] := by
  unfold ofMessages
  cases messages <;> simp

theorem offsetMessages_eq_nil_iff (object : String) (distance : Side → Float)
    (locations : List Location) :
    offsetMessages object distance locations = [] ↔
      ∀ location ∈ locations, ∀ side ∈ location.sides,
        location.range.holds (distance side) = true := by
  simp [offsetMessages, locationMessages]

end Check

namespace Layout

variable {π : Type} [Page π]

/-! ## Rules that are kept -/

/-- The area of an object is known exactly if its name leads to an element that is shown. -/
theorem areaOf_eq_ok_iff (l : Layout) (page : π) (object : String) (area : Rect) :
    l.areaOf page object = .ok area ↔
      ∃ e, l.Resolves page object e ∧ e.visible = true ∧ e.rect = area := by
  simp only [← lookup_eq_found_iff]
  unfold areaOf
  cases l.lookup page object with
  | undeclared => simp
  | missing => simp
  | found e => cases hv : e.visible <;> simp [hv]

/-- An object keeps a requirement if its name leads to an element for which the check finds
nothing wrong. -/
def Keeps (l : Layout) (page : π) (component : ComponentCheck) (object : String)
    (r : Requirement) : Prop :=
  ∃ e, l.Resolves page object e ∧ l.checkFound page component object e r = .ok ()

/-- The rule at an index has a finding, and it is kept. -/
def Passes (l : Layout) (page : π) (component : ComponentCheck) (probing : Bool)
    (o : ObjectRules) (i : Nat) : Prop :=
  ((l.findingsOf page component probing o)[i]?).map Finding.outcome = some .pass

theorem outcomeOf_eq_pass_iff (probing : Bool) (rule : Rule) (result : Except Violation Unit) :
    outcomeOf probing rule result = .pass ↔ result = .ok () := by
  cases result with
  | ok _ => simp [outcomeOf]
  | error v => cases hw : rule.warnOnly && !probing <;> simp [outcomeOf, hw]

/-- Only the absence of an object that cannot be found is as it should be. -/
theorem absent_of_findingsMissing {object : String} {rules : List Rule} {i : Nat} {rule : Rule}
    (hi : rules[i]? = some rule)
    (hpass : ((findingsMissing object rules)[i]?).map Finding.outcome = some .pass) :
    rule.requirement = .absent := by
  induction rules generalizing i with
  | nil => simp at hi
  | cons first rules ih =>
      unfold findingsMissing at hpass
      split at hpass
      next habsent =>
        cases i with
        | zero => exact Option.some.inj hi ▸ habsent
        | succ i => exact ih hi hpass
      next => cases i <;> simp [findingOf] at hpass

/-- A rule that demands more than absence passes if and only if its object keeps it. -/
theorem passes_iff_keeps (l : Layout) (page : π) (component : ComponentCheck) (probing : Bool)
    {o : ObjectRules} {i : Nat} {rule : Rule} (hi : o.rules[i]? = some rule)
    (hrule : rule.requirement ≠ .absent) :
    l.Passes page component probing o i ↔
      l.Keeps page component o.object rule.requirement := by
  by_cases hr : ∃ e, l.Resolves page o.object e
  · obtain ⟨e, he⟩ := hr
    have hkeeps : l.Keeps page component o.object rule.requirement ↔
        l.checkFound page component o.object e rule.requirement = .ok () := by
      refine ⟨fun ⟨e', he', h⟩ => ?_, fun h => ⟨e, he, h⟩⟩
      rw [← lookup_eq_found_iff] at he he'
      cases he.symm.trans he'
      exact h
    rw [hkeeps, Passes, findingsOf_found component probing he, List.getElem?_map, hi]
    simp only [Option.map_some, Option.some_inj, findingOf, outcomeOf_eq_pass_iff]
  · have hr : ∀ e, ¬l.Resolves page o.object e := fun e he => hr ⟨e, he⟩
    refine iff_of_false (fun hpass => ?_) fun ⟨e, he, _⟩ => hr e he
    rw [Passes, findingsOf_missing component probing hr] at hpass
    exact hrule (absent_of_findingsMissing hi hpass)

/-! ## Rules about another object -/

/-- A position is kept if both objects are on the page and shown, and its check finds nothing
wrong with their areas.  For both objects this comes to the same question: whether their area
is known. -/
theorem keeps_iff_areas {l : Layout} {page : π} {a b : String} {r : Requirement}
    {accepted : Rect → Rect → Prop} (component : ComponentCheck)
    (hfound : ∀ e, l.checkFound page component a e r =
      if !e.visible then .error (.ofMessage (Check.hiddenMessage a))
      else r.check a e (l.areaOf page))
    (hcheck : ∀ e, r.check a e (l.areaOf page) = .ok () ↔
      ∃ area, l.areaOf page b = .ok area ∧ accepted e.rect area) :
    l.Keeps page component a r ↔
      ∃ own other, l.areaOf page a = .ok own ∧ l.areaOf page b = .ok other ∧
        accepted own other := by
  simp only [Keeps, hfound]
  constructor
  · rintro ⟨e, he, h⟩
    cases hv : e.visible with
    | false => simp [hv] at h
    | true =>
        simp only [hv, Bool.not_true, Bool.false_eq_true, if_false] at h
        obtain ⟨other, hother, haccepted⟩ := (hcheck e).1 h
        exact ⟨e.rect, other, (l.areaOf_eq_ok_iff ..).2 ⟨e, he, hv, rfl⟩, hother, haccepted⟩
  · rintro ⟨own, other, hown, hother, haccepted⟩
    obtain ⟨e, he, hv, rfl⟩ := (l.areaOf_eq_ok_iff ..).1 hown
    refine ⟨e, he, ?_⟩
    rw [hv, Bool.not_true, if_neg Bool.false_ne_true]
    exact (hcheck e).2 ⟨other, hother, haccepted⟩

/-- A direction is kept if both areas are known and the distance at its side is accepted. -/
theorem keeps_toward_iff (l : Layout) (page : π) (component : ComponentCheck) (a b : String)
    (side : Side) (range : Option Range) :
    l.Keeps page component a (.toward side b range) ↔
      ∃ own other, l.areaOf page a = .ok own ∧ l.areaOf page b = .ok other ∧
        Check.AcceptsGap range (side.gap own other) := by
  refine keeps_iff_areas component (fun e => ?_) fun e => ?_
  · cases side <;> rfl
  · cases side <;>
      simp only [Requirement.toward, Requirement.check, bind_eq_ok_iff, Check.direction_eq_ok_iff]

/-- Distances are kept if both areas are known and each distance is in its range. -/
theorem keeps_near_iff (l : Layout) (page : π) (component : ComponentCheck) (a b : String)
    (locations : List Location) :
    l.Keeps page component a (.near b locations) ↔
      ∃ own other, l.areaOf page a = .ok own ∧ l.areaOf page b = .ok other ∧
        ∀ location ∈ locations, ∀ side ∈ location.sides,
          location.range.holds (side.gap own other) = true := by
  refine keeps_iff_areas component (fun e => rfl) fun e => ?_
  simp only [Requirement.check, bind_eq_ok_iff, Check.ofMessages_eq_ok_iff,
    Check.offsetMessages_eq_nil_iff]

/-- A distance at one side is a direction with a range. -/
theorem keeps_near_singleton_iff (l : Layout) (page : π) (component : ComponentCheck)
    (a b : String) (range : Range) (side : Side) :
    l.Keeps page component a (.near b [⟨range, [side]⟩]) ↔
      l.Keeps page component a (.toward side b (some range)) := by
  simp only [keeps_near_iff, keeps_toward_iff, Check.AcceptsGap, List.forall_mem_singleton]

/-- A direction is kept by one object if and only if the opposite one is kept by the other. -/
theorem keeps_toward_opposite_iff (l : Layout) (page : π) (component : ComponentCheck)
    (a b : String) (side : Side) (range : Option Range) :
    l.Keeps page component b (.toward side.opposite a range) ↔
      l.Keeps page component a (.toward side b range) := by
  simp only [keeps_toward_iff, Side.gap_opposite]
  constructor
  · rintro ⟨other, own, hother, hown, haccepted⟩
    exact ⟨own, other, hown, hother, haccepted⟩
  · rintro ⟨own, other, hown, hother, haccepted⟩
    exact ⟨other, own, hother, hown, haccepted⟩

theorem keeps_iff_of_mirrored (l : Layout) (page : π) (component : ComponentCheck)
    {a b : String} {r r' : Requirement} (h : Mirrored a r b r') :
    l.Keeps page component a r ↔ l.Keeps page component b r' := by
  cases h with
  | directions side a b range => exact (l.keeps_toward_opposite_iff ..).symm
  | distance side a b range => exact (l.keeps_near_singleton_iff ..).symm
  | distances side a b range =>
      rw [keeps_near_singleton_iff, keeps_near_singleton_iff, keeps_toward_opposite_iff]

theorem ne_absent_of_mirrored {a b : String} {r r' : Requirement} (h : Mirrored a r b r') :
    r ≠ .absent ∧ r' ≠ .absent := by
  cases h with
  | directions side => cases side <;> exact ⟨nofun, nofun⟩
  | distance side => cases side <;> exact ⟨nofun, nofun⟩
  | distances => exact ⟨nofun, nofun⟩

/-- Two rules that say the same of two objects, or of one, pass together.  They may stand
anywhere among the rules of their objects, in two places of a layout, and each of them may be
tried or demanded and be a warning or not. -/
theorem passes_iff_of_mirrored (l : Layout) (page : π) (component : ComponentCheck)
    (probing probing' : Bool) {o o' : ObjectRules} {i i' : Nat} {rule rule' : Rule}
    (hi : o.rules[i]? = some rule) (hi' : o'.rules[i']? = some rule')
    (h : Mirrored o.object rule.requirement o'.object rule'.requirement) :
    l.Passes page component probing o i ↔ l.Passes page component probing' o' i' := by
  obtain ⟨hrule, hrule'⟩ := ne_absent_of_mirrored h
  rw [passes_iff_keeps l page component probing hi hrule,
    passes_iff_keeps l page component probing' hi' hrule', keeps_iff_of_mirrored l page component h]

/-- A layout that only declares a menu and some news. -/
def rowLayout : Layout :=
  ⟨.ofList [("menu", ⟨.id, "menu", none⟩), ("news", ⟨.id, "news", none⟩)], []⟩

/-- A page with the menu to the left of the news. -/
def rowPage : Snapshot :=
  ⟨none, [.mk .id "news" ⟨⟨120, 0, 300, 50⟩, none, true⟩ [],
    .mk .id "menu" ⟨⟨0, 0, 100, 50⟩, none, true⟩ []]⟩

/-- The menu is visible and lies 20 pixels to the left of the news, so the news lie 20 pixels to
its right. -/
theorem passes_iff_of_mirrored_row :
    let rule : Requirement → Rule := fun r => ⟨r, "", ⟨"page", 7⟩, false⟩
    let menu : ObjectRules :=
      ⟨"menu", [rule .visible, rule (.near "news" [⟨.exact 20, [.left]⟩])]⟩
    let news : ObjectRules := ⟨"news", [rule (.near "menu" [⟨.exact 20, [.right]⟩])]⟩
    let component : ComponentCheck := fun _ _ => .ok ()
    rowLayout.Passes rowPage component false menu 1 ∧
      rowLayout.Passes rowPage component false news 0 := by
  intro rule menu news component
  have hmenu : rowLayout.Passes rowPage component false menu 1 := by
    unfold Passes
    decide +kernel
  have hmirrored : Mirrored "menu" (.near "news" [⟨.exact 20, [.left]⟩])
      "news" (.near "menu" [⟨.exact 20, [.right]⟩]) := .distances .left ..
  have hsecond : menu.rules[1]? = some (rule (.near "news" [⟨.exact 20, [.left]⟩])) := rfl
  have hfirst : news.rules[0]? = some (rule (.near "menu" [⟨.exact 20, [.right]⟩])) := rfl
  exact ⟨hmenu, (passes_iff_of_mirrored rowLayout rowPage component false false hsecond hfirst
    hmirrored).1 hmenu⟩

end Layout

end PageLayout
