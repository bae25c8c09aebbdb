import PageLayout.Proofs.Check.Directions

/-!
# Every unmet demand is reported once

A rule about a position near or inside another object makes many demands at once: that the
object lies inside the other one, and a distance for every side of every location.
`Requirement.demands` lists them in the order in which they are written, with the containment in
front.

A check never stops at the first demand that is not met.  It reports each of them by a message of
its own, in this order, and a demand that is written twice is reported twice
(`checkFound_position`).  The areas are always those of the two objects.  So a rule passes if
and only if it is `Satisfied`, and otherwise its finding has one message for every unmet demand
(`findings_unmet`).
-/

namespace PageLayout

/-! ## Boxes -/

namespace Rect

/-- No edge of a box lies beyond that of another. -/
def LiesInside (own other : Rect) : Prop :=
  other.left ≤ own.left ∧ own.right ≤ other.right ∧ other.top ≤ own.top ∧ own.bottom ≤ other.bottom

/-- Two boxes share more than an edge. -/
def Overlaps (own other : Rect) : Prop :=
  other.left < own.right ∧ own.left < other.right ∧ other.top < own.bottom ∧ own.top < other.bottom

/-- A box lies inside another one, or at least partly. -/
def LiesIn (partly : Bool) (own other : Rect) : Prop :=
  if partly then own.Overlaps other else own.LiesInside other

theorem liesIn_iff (partly : Bool) (own other : Rect) :
    own.LiesIn partly other ↔
      (if partly then other.intersects own else other.contains own) = true := by
  cases partly with
  | true => simp [LiesIn, Overlaps, intersects, and_assoc]
  | false => simp [LiesIn, LiesInside, contains, and_assoc]

end Rect

/-! ## Demands -/

/-- Something that a position demands of a box and another one. -/
inductive Demand where
  /-- The box lies inside the other one, or at least partly. -/
  | inside (partly : Bool)
  /-- The gap to the other box at a side is in a range. -/
  | gap (range : Range) (side : Side)
  /-- The distance from an edge of the other box is in a range. -/
  | inset (range : Range) (side : Side)

namespace Demand

/-- Whether two boxes lie as they should. -/
def Met (own other : Rect) : Demand → Prop
  | .inside partly => own.LiesIn partly other
  | .gap range side => range.holds (side.gap own other) = true
  | .inset range side => range.holds (side.inset own other) = true

instance (own other : Rect) : (d : Demand) → Decidable (d.Met own other)
  | .inside partly => decidable_of_iff _ (Rect.liesIn_iff partly own other).symm
  | .gap range side => inferInstanceAs (Decidable (range.holds (side.gap own other) = true))
  | .inset range side => inferInstanceAs (Decidable (range.holds (side.inset own other) = true))

/-- The message about a demand that two objects with these boxes do not meet. -/
def message (object other : String) (own area : Rect) : Demand → String
  | .inside partly => Check.insideMessage object other partly
  | .gap range side => Check.offsetMessage object (side.gap own area) side range
  | .inset range side => Check.offsetMessage object (side.inset own area) side range

/-- The demands for distances, location by location, and in each of them side by side. -/
def distances (demand : Range → Side → Demand) (locations : List Location) : List Demand :=
  locations.flatMap fun l => l.sides.map (demand l.range)

/-- Some demands that are not met, as often as they are made. -/
def unmet (own area : Rect) (ds : List Demand) : List Demand := ds.filter fun d => ¬d.Met own area

variable {own area : Rect}

theorem unmet_eq_nil_iff (ds : List Demand) :
    unmet own area ds = [] ↔ ∀ d ∈ ds, d.Met own area := by
  simp [unmet]

theorem unmet_cons (d : Demand) (ds : List Demand) :
    unmet own area (d :: ds) =
      (if d.Met own area then [] else [d]) ++ unmet own area ds := by
  by_cases h : d.Met own area <;> simp [unmet, h]

theorem forall_mem_distances {demand : Range → Side → Demand} {locations : List Location}
    {P : Demand → Prop} :
    (∀ d ∈ distances demand locations, P d) ↔
      ∀ l ∈ locations, ∀ side ∈ l.sides, P (demand l.range side) := by
  constructor
  · intro h l hl side hside
    exact h _ (List.mem_flatMap.2 ⟨l, hl, List.mem_map_of_mem hside⟩)
  · intro h d hd
    obtain ⟨l, hl, hd⟩ := List.mem_flatMap.1 hd
    obtain ⟨side, hside, rfl⟩ := List.mem_map.1 hd
    exact h l hl side hside

/-- The messages about distances are those about the demands for them that are not met. -/
theorem offsetMessages_eq {object other : String} {distance : Side → Float}
    (demand : Range → Side → Demand)
    (hmet : ∀ range side, (demand range side).Met own area ↔ range.holds (distance side) = true)
    (hmessage : ∀ range side, (demand range side).message object other own area =
      Check.offsetMessage object (distance side) side range) (locations : List Location) :
    Check.offsetMessages object distance locations =
      (unmet own area (distances demand locations)).map (message object other own area) := by
  rw [Check.offsetMessages, unmet, distances, List.filter_flatMap, List.map_flatMap]
  apply List.flatMap_congr
  intro l _
  simp [Check.locationMessages, List.filter_map, Function.comp_def, hmet, hmessage]

end Demand

/-! ## Positions -/

namespace Requirement

/-- A requirement is a position near or inside another object. -/
inductive IsPosition (other : String) : Requirement → Prop
  | near (locations : List Location) : IsPosition other (.near other locations)
  | inside (locations : List Location) (partly : Bool) :
      IsPosition other (.inside other locations partly)

/-- What a position demands, in the order in which it is written.  Where the object lies comes
before how far it is from the edges. -/
def demands : Requirement → List Demand
  | .near _ locations => Demand.distances .gap locations
  | .inside _ locations partly => .inside partly :: Demand.distances .inset locations
  | _ => []

/-- Two boxes lie as a position says: every distance is in the range of its location on every
one of its sides, and one box lies inside the other if that is demanded. -/
def Satisfied (own area : Rect) : Requirement → Prop
  | .near _ locations =>
      ∀ l ∈ locations, ∀ side ∈ l.sides, l.range.holds (side.gap own area) = true
  | .inside _ locations partly =>
      own.LiesIn partly area ∧
        ∀ l ∈ locations, ∀ side ∈ l.sides, l.range.holds (side.inset own area) = true
  | _ => True

variable {other : String} {area : Rect} {r : Requirement}

/-- A position is as it says if and only if all its demands are met. -/
theorem forall_met_iff (h : r.IsPosition other) (own area : Rect) :
    (∀ d ∈ r.demands, d.Met own area) ↔ r.Satisfied own area := by
  cases h with
  | near locations => exact Demand.forall_mem_distances
  | inside locations partly =>
      rw [demands, List.forall_mem_cons, Demand.forall_mem_distances]
      rfl

/-- A check of a position reports the demands that are not met. -/
theorem check_position (h : r.IsPosition other) (object : String) (e : Element)
    {areaOf : String → Except Violation Rect} (harea : areaOf other = .ok area) :
    r.check object e areaOf =
      Check.ofMessages
        ((Demand.unmet e.rect area r.demands).map (Demand.message object other e.rect area))
        [⟨e.rect, object⟩, ⟨area, other⟩] := by
  cases h with
  | near locations =>
      have hmessages : Check.offsetMessages object (Side.gap e.rect area) locations =
          (Demand.unmet e.rect area (Demand.distances .gap locations)).map
            (Demand.message object other e.rect area) :=
        Demand.offsetMessages_eq .gap (fun _ _ => Iff.rfl) (fun _ _ => rfl) locations
      rw [check, harea, ok_bind, hmessages, demands]
  | inside locations partly =>
      have hmessages : Check.offsetMessages object (Side.inset e.rect area) locations =
          (Demand.unmet e.rect area (Demand.distances .inset locations)).map
            (Demand.message object other e.rect area) :=
        Demand.offsetMessages_eq .inset (fun _ _ => Iff.rfl) (fun _ _ => rfl) locations
      have hinside : (Demand.inside partly).Met e.rect area ↔ _ :=
        Rect.liesIn_iff partly e.rect area
      rw [check, harea, ok_bind, hmessages, demands, Demand.unmet_cons, List.map_append]
      by_cases hmet : (Demand.inside partly).Met e.rect area
      · simp only [hinside.1 hmet, hmet, if_true, List.map_nil]
      · simp only [mt hinside.2 hmet, hmet, if_false, Bool.false_eq_true, List.map_cons,
          List.map_nil]
        rfl

end Requirement

namespace Layout

variable {π : Type} [Page π]

/-- What comes of a rule about a position, once both objects are on the page and shown. -/
theorem checkFound_position (l : Layout) (page : π) (component : ComponentCheck)
    (object : String) {other : String} {e e' : Element} {r : Requirement} (hr : r.IsPosition other)
    (hvisible : e.visible = true) (hother : l.Resolves page other e')
    (hvisible' : e'.visible = true) :
    l.checkFound page component object e r =
      Check.ofMessages
        ((Demand.unmet e.rect e'.rect r.demands).map (Demand.message object other e.rect e'.rect))
        [⟨e.rect, object⟩, ⟨e'.rect, other⟩] := by
  have harea : l.areaOf page other = .ok e'.rect :=
    (l.areaOf_eq_ok_iff page other _).2 ⟨e', hother, hvisible', rfl⟩
  rw [← r.check_position hr object e harea]
  cases hr <;> simp [checkFound, hvisible]

/-- A rule about a position of an object that is shown, seen from another one that is shown,
passes if and only if the boxes lie as it says.  Otherwise its finding has exactly one message
for every demand that is not met, in the order of the demands, and the areas of both objects. -/
theorem findings_unmet (l : Layout) (page : π) (component : ComponentCheck) (probing : Bool)
    {o : ObjectRules} {i : Nat} {rule : Rule} {other : String} {e e' : Element}
    (hi : o.rules[i]? = some rule) (hr : rule.requirement.IsPosition other)
    (hobject : l.Resolves page o.object e) (hvisible : e.visible = true)
    (hother : l.Resolves page other e') (hvisible' : e'.visible = true) :
    ∃ f, (l.findingsOf page component probing o)[i]? = some f ∧
      (f.outcome = .pass ↔ rule.requirement.Satisfied e.rect e'.rect) ∧
      (¬rule.requirement.Satisfied e.rect e'.rect →
        ∃ v, f.outcome = (if rule.warnOnly && !probing then .warn v else .fail v) ∧
          v.messages = (Demand.unmet e.rect e'.rect rule.requirement.demands).map
            (Demand.message o.object other e.rect e'.rect) ∧
          v.areas = [⟨e.rect, o.object⟩, ⟨e'.rect, other⟩]) := by
  have hcheck := l.checkFound_position page component o.object hr hvisible hother hvisible'
  have hunmet : Demand.unmet e.rect e'.rect rule.requirement.demands = [] ↔
      rule.requirement.Satisfied e.rect e'.rect :=
    (Demand.unmet_eq_nil_iff _).trans (Requirement.forall_met_iff hr _ _)
  have hfinding : (l.findingsOf page component probing o)[i]? = some (findingOf o.object rule
      (outcomeOf probing rule (l.checkFound page component o.object e rule.requirement))) := by
    rw [findingsOf_found component probing hobject, List.getElem?_map, hi, Option.map_some]
  refine ⟨_, hfinding, ?_, ?_⟩
  · simp only [findingOf, outcomeOf_eq_pass_iff, hcheck, Check.ofMessages_eq_ok_iff,
      List.map_eq_nil_iff, hunmet]
  · intro hnot
    have hne : Demand.unmet e.rect e'.rect rule.requirement.demands ≠ [] := mt hunmet.1 hnot
    refine ⟨⟨_, _⟩, ?_, rfl, rfl⟩
    rw [hcheck, Check.ofMessages, if_neg (by simpa using hne)]
    rfl

/-- A layout that only declares a photo and its frame. -/
def frameLayout : Layout :=
  ⟨.ofList [("frame", ⟨.id, "frame", none⟩), ("photo", ⟨.id, "photo", none⟩)], []⟩

/-- A page where the photo sticks out of its frame on the right. -/
def framePage : Snapshot :=
  ⟨none, [.mk .id "frame" ⟨⟨0, 0, 200, 200⟩, none, true⟩ [],
    .mk .id "photo" ⟨⟨150, 0, 100, 10⟩, none, true⟩ []]⟩

/-- The second rule about the photo makes four demands besides that it lies inside its frame.
One of them is met, and one that is not is made twice. -/
theorem findings_unmet_frame :
    let rule : Requirement → Rule := fun r => ⟨r, "", ⟨"page", 7⟩, false⟩
    let locations : List Location := [⟨.exact 10, [.left, .left]⟩, ⟨.exact 0, [.top, .bottom]⟩]
    let photo : ObjectRules := ⟨"photo", [rule .visible, rule (.inside "frame" locations false)]⟩
    ∃ f, (frameLayout.findingsOf framePage (fun _ _ => .ok ()) false photo)[1]? = some f ∧
      f.outcome = .fail
        ⟨["\"photo\" is not completely inside \"frame\"",
            "\"photo\" is 150px left instead of 10px", "\"photo\" is 150px left instead of 10px",
            "\"photo\" is 190px bottom instead of 0px"],
          [⟨⟨150, 0, 100, 10⟩, "photo"⟩, ⟨⟨0, 0, 200, 200⟩, "frame"⟩]⟩ := by
  intro rule locations photo
  have hphoto : frameLayout.Resolves framePage "photo" ⟨⟨150, 0, 100, 10⟩, none, true⟩ :=
    .declared rfl rfl
  have hframe : frameLayout.Resolves framePage "frame" ⟨⟨0, 0, 200, 200⟩, none, true⟩ :=
    .declared rfl rfl
  have hrule : photo.rules[1]? = some (rule (.inside "frame" locations false)) := rfl
  obtain ⟨f, hf, -, hfailed⟩ := findings_unmet frameLayout framePage (fun _ _ => .ok ()) false
    hrule (.inside locations false) hphoto rfl hframe rfl
  have hoverlap : ¬Rect.LiesInside ⟨150, 0, 100, 10⟩ ⟨0, 0, 200, 200⟩ := by
    unfold Rect.LiesInside
    decide +kernel
  obtain ⟨⟨messages, areas⟩, hv, hmessages, rfl⟩ := hfailed fun h => hoverlap h.1
  refine ⟨f, hf, hv.trans ?_⟩
  rw [show messages = _ from hmessages]
  decide +kernel

end Layout

end PageLayout
