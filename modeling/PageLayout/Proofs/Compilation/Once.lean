import PageLayout.Proofs.Compilation.Run

/-!
# Files are read once

`Once` says of what happened since a store that no file was read twice, that none was
read which had been read before, and that the files which are known in the end are
those that were known or asked for.  `once_of_runs` says that every run is so.
-/

namespace PageLayout

/-! ## Identities -/

theorem Trail.hasLoaded_iff (t : Trail) (identity : String) :
    t.hasLoaded identity = true ↔ identity ∈ t.loaded :=
  List.contains_iff_mem

theorem Trail.hasLoaded_eq_false_iff (t : Trail) (identity : String) :
    t.hasLoaded identity = false ↔ identity ∉ t.loaded := by
  rw [← hasLoaded_iff, Bool.not_eq_true]

theorem Trail.mem_loaded_mark (t : Trail) (identity other : String) :
    other ∈ (t.mark identity).loaded ↔ other = identity ∨ other ∈ t.loaded := by
  unfold mark
  split
  next h =>
    rw [hasLoaded_iff] at h
    constructor
    · exact .inr
    · rintro (rfl | h')
      · exact h
      · exact h'
  next => exact List.mem_cons

theorem ranIn_append (log log' : List Event) : ranIn (log ++ log') = ranIn log ++ ranIn log' :=
  List.filterMap_append

@[simp] theorem ranIn_asked (identity : String) (log : List Event) :
    ranIn (.asked identity :: log) = ranIn log := rfl

@[simp] theorem ranIn_ran (identity : String) (log : List Event) :
    ranIn (.ran identity :: log) = identity :: ranIn log := rfl

/-! ## The invariant -/

/-- No file was read twice since a store, or was read again, and the files that are
known in the end are those that were known or asked for. -/
structure Once (s : Store) (log : List Event) (done : Except Abort Store) : Prop where
  nodup : (ranIn log).Nodup
  new : ∀ identity ∈ ranIn log, identity ∉ s.trail.loaded
  asked : ∀ identity ∈ ranIn log, .asked identity ∈ log
  loaded : ∀ s', done = .ok s' → ∀ identity,
    identity ∈ s'.trail.loaded ↔ identity ∈ s.trail.loaded ∨ .asked identity ∈ log

namespace Once

variable {s s' : Store} {log log' : List Event} {done : Except Abort Store}

/-- Nothing happens to files if the trail is left alone. -/
theorem nil (h : ∀ s', done = .ok s' → s'.trail = s.trail) : Once s [] done where
  nodup := List.nodup_nil
  new := nofun
  asked := nofun
  loaded := by
    intro s' hs' identity
    rw [h s' hs']
    simp

/-- Only the files that were read before the first store count. -/
theorem congr (h : Once s log done) (hloaded : s.trail.loaded = s'.trail.loaded) :
    Once s' log done where
  nodup := h.nodup
  new := hloaded ▸ h.new
  asked := h.asked
  loaded := hloaded ▸ h.loaded

/-- The directory that a file lies in does not count. -/
theorem leave (h : Once s log done) : Once s log (leaving done) where
  nodup := h.nodup
  new := h.new
  asked := h.asked
  loaded := by
    intro s' hs'
    cases done with
    | error a => cases hs'
    | ok s₁ =>
        cases hs'
        exact h.loaded s₁ rfl

/-- What happens first and what happens then happen once together. -/
theorem append (h : Once s log (.ok s')) (h' : Once s' log' done) :
    Once s (log ++ log') done where
  nodup := by
    rw [ranIn_append, List.nodup_append]
    -- A file that was read first is known then, and what is read then was not known.
    refine ⟨h.nodup, h'.nodup, fun identity hm other hm' heq => ?_⟩
    subst heq
    exact h'.new identity hm' ((h.loaded s' rfl identity).2 (.inr (h.asked identity hm)))
  new := by
    intro identity hm
    rw [ranIn_append, List.mem_append] at hm
    rcases hm with hm | hm
    · exact h.new identity hm
    · exact fun hs => h'.new identity hm ((h.loaded s' rfl identity).2 (.inl hs))
  asked := by
    intro identity hm
    rw [ranIn_append, List.mem_append] at hm
    rw [List.mem_append]
    exact hm.imp (h.asked identity) (h'.asked identity)
  loaded := by
    intro s'' hs'' identity
    rw [h'.loaded s'' hs'', h.loaded s' rfl, List.mem_append, or_assoc]

/-- A file that was read before is asked for once more. -/
theorem known {identity : String} (h : identity ∈ s.trail.loaded) :
    Once s [.asked identity] (.ok s) where
  nodup := List.nodup_nil
  new := nofun
  asked := nofun
  loaded := by
    intro s' hs' other
    cases hs'
    simp only [List.mem_singleton, Event.asked.injEq]
    exact ⟨.inl, fun ho => ho.elim id (· ▸ h)⟩

/-- A file is marked and then read. -/
theorem run {path text : String}
    (hnew : s.trail.hasLoaded (fileIdentity path text) = false)
    (h : Once (s.marked path text) log done) :
    Once s (.asked (fileIdentity path text) :: .ran (fileIdentity path text) :: log) done := by
  have hmarked : ∀ other, other ∈ (s.marked path text).trail.loaded ↔
      other = fileIdentity path text ∨ other ∈ s.trail.loaded :=
    s.trail.mem_loaded_mark (fileIdentity path text)
  constructor
  · rw [ranIn_asked, ranIn_ran, List.nodup_cons]
    exact ⟨fun hm => h.new _ hm ((hmarked _).2 (.inl rfl)), h.nodup⟩
  · intro other hm
    rw [ranIn_asked, ranIn_ran, List.mem_cons] at hm
    rcases hm with rfl | hm
    · exact (s.trail.hasLoaded_eq_false_iff _).1 hnew
    · exact fun hs => h.new other hm ((hmarked other).2 (.inr hs))
  · intro other hm
    rw [ranIn_asked, ranIn_ran, List.mem_cons] at hm
    rcases hm with rfl | hm
    · exact List.mem_cons_self
    · exact List.mem_cons_of_mem _ (List.mem_cons_of_mem _ (h.asked other hm))
  · intro s' hs' other
    rw [h.loaded s' hs', hmarked]
    simp only [List.mem_cons, Event.asked.injEq, reduceCtorEq, false_or]
    exact or_assoc.trans or_left_comm

end Once

/-! ## Runs -/

namespace Job

variable {π : Type} {j : Job π}

theorem mem_loaded_of_lead_known {s : Store} {requested text : String}
    (h : j.lead s requested = .known text) :
    fileIdentity (s.trail.resolve requested) text ∈ s.trail.loaded := by
  unfold lead at h
  split at h
  next => cases h
  next =>
    split at h
    next hloaded =>
      cases h
      exact (s.trail.hasLoaded_iff _).1 hloaded
    next => cases h

theorem not_loaded_of_lead_new {s : Store} {requested text : String}
    (h : j.lead s requested = .new text) :
    s.trail.hasLoaded (fileIdentity (s.trail.resolve requested) text) = false := by
  unfold lead at h
  split at h
  next => cases h
  next =>
    split at h
    next => cases h
    next hloaded =>
      cases h
      exact Bool.not_eq_true _ ▸ hloaded

theorem read_of_lead_missing {s : Store} {requested reason : String}
    (h : j.lead s requested = .missing reason) :
    j.source.read (s.trail.resolve requested) = .error reason := by
  unfold lead at h
  split at h
  next hread =>
    cases h
    exact hread
  next => split at h <;> cases h

theorem read_of_lead_new {s : Store} {requested text : String}
    (h : j.lead s requested = .new text) :
    j.source.read (s.trail.resolve requested) = .ok text := by
  unfold lead at h
  split at h
  next => cases h
  next hr =>
    split at h
    next => cases h
    next =>
      cases h
      exact hr

/-- The end of a file leaves the trail alone. -/
theorem trail_of_finish {p : Progress} {s : Store} (h : j.finish p = .ok s) :
    s.trail = p.store.trail := by
  obtain ⟨p', hsettle, -, rfl⟩ := settle_of_finish h
  exact (settle_ok hsettle).2

variable [Page π]

/-- A task that a line asks for starts with the trail of the line. -/
theorem trail_of_asks {p p' : Progress} {line : Line} {t : Task} (h : j.Asks p line p' t) :
    t.store.trail = p.store.trail := by
  obtain ⟨htrail, ⟨path, rfl, _⟩ | ⟨path, rfl, _⟩⟩ := feed_of_asks h
  · exact htrail
  · exact htrail

/-- Every file is read once. -/
theorem once_of_runs {t : Task} {log : List Event} {done : Except Abort Store}
    (h : j.Runs t log done) : Once t.store log done := by
  induction h with
  | unreadable | noScript => exact .nil nofun
  | again hl | scriptAgain hl => exact .known (mem_loaded_of_lead_known hl)
  | fresh _ _ ih => exact ih
  | badText hl => exact .run hl (.nil nofun)
  | text hl _ _ ih => exact .run hl (.leave (.congr ih rfl))
  | badScript hl => exact .run (not_loaded_of_lead_new hl) (.nil nofun)
  | script hl =>
      refine .run (not_loaded_of_lead_new hl) (.nil fun s' hs' => ?_)
      cases hs'
      rfl
  | finish =>
      refine .nil fun s' hs' => ?_
      exact trail_of_finish (attempt_eq_ok_iff.1 hs')
  | asks ha _ _ ih ih' =>
      exact (ih.append ih').congr (congrArg Trail.loaded (trail_of_asks ha))
  | asksInVain ha _ ih => exact ih.congr (congrArg Trail.loaded (trail_of_asks ha))
  | line hn hf _ ih => exact ih.congr (congrArg Trail.loaded (trail_of_feed hn hf))
  | badLine => exact .nil nofun

end Job

end PageLayout
