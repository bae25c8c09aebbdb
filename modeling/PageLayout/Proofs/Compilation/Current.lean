import Mathlib.Logic.Relation
import PageLayout.Proofs.Compilation.Directories
import PageLayout.Proofs.Compilation.Faithful

/-!
# The current section of a file

All files of a compilation write into one list of sections, and a file that is being read
keeps the index of the section that it opened last.  `Step` is what is done at once: the
completion of a pending object block, or the reading of a line without one.  A step only
adds sections at the end, or rules to the current section of its file (`Changes`).

So the index stays that of the same section, whatever other files add meanwhile: it `Owns`
what it points at.
-/

namespace PageLayout

/-! ## What a step changes -/

/-- A section to which rules were added. -/
structure Section.Grows (s s' : Section) : Prop where
  name : s'.name = s.name
  tags : s'.tags = s.tags
  place : s'.place = s.place
  objects : s.objects <+: s'.objects
  conditionals : s.conditionals <+: s'.conditionals

namespace Section.Grows

theorem refl (s : Section) : s.Grows s :=
  ⟨rfl, rfl, rfl, List.prefix_rfl, List.prefix_rfl⟩

theorem trans {s₁ s₂ s₃ : Section} (h₁ : s₁.Grows s₂) (h₂ : s₂.Grows s₃) : s₁.Grows s₃ :=
  ⟨h₂.name.trans h₁.name, h₂.tags.trans h₁.tags, h₂.place.trans h₁.place,
    h₁.objects.trans h₂.objects, h₁.conditionals.trans h₂.conditionals⟩

theorem addObjects (s : Section) (objects : List ObjectRules) :
    s.Grows { s with objects := s.objects ++ objects } :=
  ⟨rfl, rfl, rfl, List.prefix_append .., List.prefix_rfl⟩

theorem addConditional (s : Section) (c : Conditional) :
    s.Grows { s with conditionals := s.conditionals ++ [c] } :=
  ⟨rfl, rfl, rfl, List.prefix_rfl, List.prefix_append ..⟩

end Section.Grows

/-- What a step does to the sections: it adds some at the end that the file does not own, or
rules to the current section, or it opens the next section of the file. -/
inductive Progress.Changes (p p' : Progress) : Prop
  | beside {added : List Section} :
      p'.store.sections = p.store.sections ++ added →
        p'.cursor.current = p.cursor.current → Changes p p'
  | own {index : Nat} {change : Section → Section} :
      p.cursor.current = some index → p'.cursor.current = some index →
        p'.store.sections = p.store.sections.modify index change →
          (∀ s : Section, s.Grows (change s)) → Changes p p'
  | opens {new : Section} :
      p'.store.sections = p.store.sections ++ [new] →
        p'.cursor.current = some p.store.sections.length → Changes p p'

namespace Progress

theorem changes_of_eq {p p' : Progress} (hs : p'.store.sections = p.store.sections)
    (hc : p'.cursor.current = p.cursor.current) : p.Changes p' :=
  .beside (hs.trans (List.append_nil _).symm) hc

theorem changes_put {p : Progress} (place : Place) {change : Section → Section}
    (h : ∀ s : Section, s.Grows (change s)) : p.Changes (p.put place change) := by
  cases hc : p.cursor.current with
  | some index =>
      rw [put_current place change hc]
      exact .own hc hc rfl h
  | none =>
      rw [put_first place change hc]
      exact .opens rfl rfl

theorem changes_attach (p : Progress) (objects : List ObjectRules) (place : Place) :
    p.Changes (p.attach objects place) := by
  cases hc : p.cursor.conditional with
  | some c =>
      rw [attach_conditional objects place hc]
      exact changes_of_eq rfl rfl
  | none =>
      by_cases hobjects : objects = []
      · subst hobjects
        rw [attach_nil place hc]
        exact changes_of_eq rfl rfl
      · rw [attach_cons place hc hobjects]
        exact changes_put place fun s => .addObjects s objects

theorem changes_close (p : Progress) (c : OpenConditional) : p.Changes (p.close c) := by
  have h : p.Changes (p.put c.place fun s =>
      { s with conditionals := s.conditionals ++ [c.closed] }) :=
    changes_put c.place fun s => .addConditional s c.closed
  rw [close_eq]
  -- Only the open conditional is gone besides.
  cases h with
  | beside hs hc => exact .beside hs hc
  | own hc hc' hs hg => exact .own hc hc' hs hg
  | opens hs hc => exact .opens hs hc

theorem Changes.length_le {p p' : Progress} (h : p.Changes p') :
    p.store.sections.length ≤ p'.store.sections.length := by
  cases h with
  | beside hs | opens hs => rw [hs]; exact (List.sublist_append_left ..).length_le
  | own _ _ hs => rw [hs, List.length_modify]

end Progress

/-- Files that are read only add sections at the end. -/
def AddsSections (load : Loader) : Prop :=
  ∀ requested place s s', load requested place s = .ok s' →
    ∃ added, s'.sections = s.sections ++ added

namespace Job

variable {π : Type} [Page π] {j : Job π} {load : Loader}

theorem addsSections_importing (nesting : Nat) : AddsSections (j.importing nesting) := by
  intro requested place s s' h
  obtain ⟨c, hc, hreads⟩ := imports_of_processFile h
  exact ⟨c.imported, (sections_of_imports hc hreads).2⟩

omit [Page π] in
theorem changes_settle {p p' : Progress} (h : j.settle p = .ok p') : p.Changes p' := by
  by_cases hb : ∃ block, p.cursor.pending = .object block
  · obtain ⟨block, hb⟩ := hb
    rw [settle_object hb] at h
    obtain ⟨objects, _, h⟩ := bind_eq_ok_iff.1 h
    cases h
    -- Nothing is pending any more, which no section depends on.
    cases p.withoutPending.changes_attach objects block.name.place with
    | beside hs hc => exact .beside hs hc
    | own hc hc' hs hg => exact .own hc hc' hs hg
    | opens hs hc => exact .opens hs hc
  · rw [settle_other fun block h => hb ⟨block, h⟩] at h
    cases h
    exact Progress.changes_of_eq rfl rfl

theorem changes_continued {p p' : Progress} {line : Line} (h : j.continued p line = .ok p') :
    p.Changes p' := by
  by_cases hb : ∃ block, p.cursor.pending = .object block
  · obtain ⟨block, hb⟩ := hb
    rw [continued_object line hb] at h
    cases h
    exact Progress.changes_of_eq rfl rfl
  · obtain ⟨hs, hc, _⟩ := continued_ok h fun block h => hb ⟨block, h⟩
    exact Progress.changes_of_eq hs.sections (congrArg Cursor.current hc)

omit [Page π] in
theorem changes_of_directs (hload : AddsSections load) {p p' : Progress} {place : Place}
    {d : Directive} (h : j.Directs load p place d p') : p.Changes p' := by
  cases h with
  | importFile hs =>
      obtain ⟨added, hadded⟩ := hload _ _ _ _ hs
      exact .beside hadded rfl
  | loadScript hs => exact Progress.changes_of_eq (sections_loadScript hs) rfl
  | set hs => exact Progress.changes_of_eq (extends_of_assign hs).sections rfl
  | @close c => exact p.changes_close c
  | _ => exact Progress.changes_of_eq rfl rfl

theorem changes_opened (hload : AddsSections load) {p p' : Progress} {line : Line}
    (h : j.opened load p line = .ok p') : p.Changes p' := by
  have hopens := opened_ok h
  generalize LineKind.of p.cursor.defining line.text.toList = kind at hopens
  cases hopens with
  | definition hs => exact Progress.changes_of_eq (extends_of_define hs).sections rfl
  | directive _ _ hd => exact changes_of_directs hload hd
  | header => exact .opens rfl rfl
  | _ => exact Progress.changes_of_eq rfl rfl

/-! ## Steps -/

/-- What is done at once while a file is read. -/
inductive Step (j : Job π) (load : Loader) : Progress → Progress → Prop
  | settle {p p' : Progress} : j.settle p = .ok p' → Step j load p p'
  | continued {p p' : Progress} {line : Line} : j.continued p line = .ok p' → Step j load p p'
  | opened {p p' : Progress} {line : Line} : j.opened load p line = .ok p' → Step j load p p'

/-- One step after another. -/
abbrev Steps (j : Job π) (load : Loader) : Progress → Progress → Prop :=
  Relation.ReflTransGen (j.Step load)

theorem Step.changes (hload : AddsSections load) {p p' : Progress} (h : j.Step load p p') :
    p.Changes p' := by
  cases h with
  | settle h => exact changes_settle h
  | continued h => exact changes_continued h
  | opened h => exact changes_opened hload h

theorem Steps.length_le (hload : AddsSections load) {p p' : Progress} (h : j.Steps load p p') :
    p.store.sections.length ≤ p'.store.sections.length := by
  induction h with
  | refl => exact Nat.le_refl _
  | tail _ hstep ih => exact ih.trans (hstep.changes hload).length_le

theorem steps_of_feed {p p' : Progress} {line : Line} (h : j.feed load p line = .ok p') :
    j.Steps load p p' := by
  by_cases hindented : line.indented = true
  · rw [feed_indented p hindented, attempt_eq_ok_iff] at h
    exact .single (.continued h)
  · rw [Bool.not_eq_true] at hindented
    rw [feed_not_indented p hindented] at h
    obtain ⟨p₁, hsettle, hopened⟩ := bind_eq_ok_iff.1 h
    rw [attempt_eq_ok_iff] at hsettle
    exact .tail (.single (.settle hsettle)) (.opened hopened)

/-- The lines of a file are read in steps. -/
theorem steps_of_foldlM {lines : List Line} {p p' : Progress}
    (h : lines.foldlM (j.feed load) p = .ok p') : j.Steps load p p' := by
  induction lines generalizing p with
  | nil =>
      cases h
      exact .refl
  | cons line lines ih =>
      rw [List.foldlM_cons] at h
      obtain ⟨p₁, hfeed, h⟩ := bind_eq_ok_iff.1 h
      exact (steps_of_feed hfeed).trans (ih h)

/-! ## The section that an index points at -/

/-- An index was given to a section in a step that opened it as the next one of the file, and
it still points at this section, to which only rules were added. -/
inductive Owns (j : Job π) (load : Loader) (start p : Progress) (index : Nat) : Prop
  | intro {p₁ p₂ : Progress} {new own : Section} :
      j.Steps load start p₁ → j.Step load p₁ p₂ →
        p₂.store.sections = p₁.store.sections ++ [new] → index = p₁.store.sections.length →
          p₂.cursor.current = some index → j.Steps load p₂ p →
            p.store.sections[index]? = some own → new.Grows own → Owns j load start p index

/-- What a section owns at an index stays in the list, if nothing is done to it but adding
rules. -/
theorem Owns.step {start p p' : Progress} {index : Nat} (h : j.Owns load start p index)
    (hstep : j.Step load p p')
    (hs : ∀ own, p.store.sections[index]? = some own →
      ∃ own', p'.store.sections[index]? = some own' ∧ own.Grows own') :
    j.Owns load start p' index := by
  obtain ⟨hp₁, h₁, hnew, hindex, hcurrent, hp, hown, hgrows⟩ := h
  obtain ⟨own', hown', hgrows'⟩ := hs _ hown
  exact .intro hp₁ h₁ hnew hindex hcurrent (hp.tail hstep) hown' (hgrows.trans hgrows')

theorem getElem?_append_of_some {α : Type} {xs ys : List α} {i : Nat} {x : α}
    (h : xs[i]? = some x) : (xs ++ ys)[i]? = some x := by
  have hi : i < xs.length := (List.getElem?_eq_some_iff.1 h).1
  rw [List.getElem?_append_left hi, h]

/-- A file that starts without a current section owns the one that its index points at. -/
theorem owns_of_steps (hload : AddsSections load) {start p : Progress} {index : Nat}
    (hstart : start.cursor.current = none) (h : j.Steps load start p)
    (hindex : p.cursor.current = some index) : j.Owns load start p index := by
  induction h with
  | refl =>
      rw [hstart] at hindex
      cases hindex
  | @tail p p' hp hstep ih =>
      cases hstep.changes hload with
      | beside hs hc =>
          rw [hc] at hindex
          refine (ih hindex).step hstep fun own hown => ⟨own, ?_, .refl own⟩
          rw [hs]
          exact getElem?_append_of_some hown
      | @own i change hc hc' hs hgrows =>
          rw [hc'] at hindex
          cases hindex
          refine (ih hc).step hstep fun own hown => ⟨change own, ?_, hgrows own⟩
          rw [hs, List.getElem?_modify_eq, hown]
          rfl
      | opens hs hc =>
          rw [hc] at hindex
          cases hindex
          refine .intro hp hstep hs rfl hc .refl ?_ (.refl _)
          rw [hs, List.getElem?_concat_length]

theorem Owns.lt {start p : Progress} {index : Nat} (h : j.Owns load start p index) :
    index < p.store.sections.length := by
  obtain ⟨_, _, _, _, _, _, hown, _⟩ := h
  exact (List.getElem?_eq_some_iff.1 hown).1

theorem Owns.le (hload : AddsSections load) {start p : Progress} {index : Nat}
    (h : j.Owns load start p index) : start.store.sections.length ≤ index := by
  obtain ⟨hp₁, _, _, rfl, _, _, _, _⟩ := h
  exact Steps.length_le hload hp₁

end Job

end PageLayout
