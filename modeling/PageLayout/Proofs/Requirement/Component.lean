import PageLayout.Proofs.Compilation.Opening
import PageLayout.Proofs.Text.Pieces

/-!
# The path of a component

`Requirement.component_of_read` says that a line which is read as a component has the path
of the component after its colon, because no other head gives a component.
-/

namespace PageLayout

namespace Requirement

variable {tolerance : Float} {value : List Char} {r : Requirement}

theorem near_of_readNear (h : readNear tolerance value = .ok r) : ∃ object ls, r = .near object ls := by
  obtain ⟨⟨object, rest⟩, _, h⟩ := bind_eq_ok_iff.1 h
  dsimp only at h
  split at h
  next => cases h
  next =>
    obtain ⟨ls, _, h⟩ := bind_eq_ok_iff.1 h
    cases h
    exact ⟨_, _, rfl⟩

theorem inside_of_readInside {partly : Bool} (h : readInside tolerance partly value = .ok r) :
    ∃ object ls, r = .inside object ls partly := by
  obtain ⟨⟨object, rest⟩, _, h⟩ := bind_eq_ok_iff.1 h
  dsimp only at h
  split at h
  next =>
    cases h
    exact ⟨_, _, rfl⟩
  next =>
    obtain ⟨ls, _, h⟩ := bind_eq_ok_iff.1 h
    cases h
    exact ⟨_, _, rfl⟩

theorem make_of_readDirection {make : String → Option Range → Requirement}
    (h : readDirection tolerance make value = .ok r) : ∃ object range, r = make object range := by
  obtain ⟨⟨object, rest⟩, _, h⟩ := bind_eq_ok_iff.1 h
  dsimp only at h
  split at h
  next =>
    cases h
    exact ⟨_, _, rfl⟩
  next =>
    obtain ⟨range, _, h⟩ := bind_eq_ok_iff.1 h
    cases h
    exact ⟨_, _, rfl⟩

theorem text_of_readText {head line : List Char} (h : readText head value line = .ok r) :
    ∃ check expected operations, r = .text check expected operations := by
  unfold readText at h
  split at h
  next => cases h
  next =>
    dsimp only at h
    split at h
    next =>
      obtain ⟨check, _, h⟩ := bind_eq_ok_iff.1 h
      obtain ⟨operations, _, h⟩ := bind_eq_ok_iff.1 h
      split at h
      next => cases h
      next =>
        cases h
        exact ⟨_, _, _, rfl⟩
    next => cases h

/-- The path of a component is the value of its line. -/
theorem component_of_read {line : List Char} {path : String}
    (h : read tolerance line = .ok (.component path)) : path = String.ofList (splitLine line).2 := by
  unfold read at h
  dsimp only at h
  split at h
  next =>
    obtain ⟨_, _, h⟩ := map_eq_ok_iff.1 h
    cases h
  next =>
    obtain ⟨_, _, h⟩ := map_eq_ok_iff.1 h
    cases h
  next =>
    obtain ⟨_, _, h⟩ := near_of_readNear h
    cases h
  iterate 2
    next =>
      obtain ⟨_, _, h⟩ := inside_of_readInside h
      cases h
  iterate 4
    next =>
      obtain ⟨_, _, h⟩ := make_of_readDirection h
      cases h
  next =>
    split at h
    next => cases h
    next =>
      cases h
      rfl
  next =>
    split at h
    next => cases h
    next =>
      split at h
      next => cases h
      next =>
        split at h
        next =>
          obtain ⟨_, _, _, h⟩ := text_of_readText h
          cases h
        next => cases h

/-- The path of a component has no blanks at its ends. -/
theorem trimmed_of_ofText {text path : String} (h : ofText tolerance text = .ok (.component path)) :
    Text.trimmed path = path := by
  have hvalue : Text.Trimmed (splitLine text.toList).2 := by
    unfold splitLine
    split
    next => exact Text.trimmed_trim _
    next => exact .nil
  rw [component_of_read h, Text.trimmed, String.toList_ofList, hvalue.trim]

end Requirement

end PageLayout
