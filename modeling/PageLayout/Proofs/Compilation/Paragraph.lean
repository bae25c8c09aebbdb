import Mathlib.Data.List.TakeWhile
import PageLayout.Proofs.Compilation.Opening
import PageLayout.Proofs.Text.Pieces

/-!
# Paragraphs

A paragraph is a line that is not indented with the indented lines below it.  The
lines of a file are read one by one, and what an object block gives is only put
where it belongs when the next paragraph starts.  `readLines_eq` says that this
comes to the same as reading one paragraph after another, each of them to its end,
whether the lines are read without an error or not.
-/

namespace PageLayout

/-- A line that is not indented, with the indented lines below it. -/
structure Paragraph where
  /-- The line that is not indented. -/
  head : Line
  /-- The indented lines. -/
  below : List Line
deriving DecidableEq, Repr

namespace Paragraph

/-- The lines of a paragraph. -/
def lines (q : Paragraph) : List Line := q.head :: q.below

/-- Whether the first line is not indented and the others are. -/
def Indented (q : Paragraph) : Prop :=
  q.head.indented = false ∧ ∀ line ∈ q.below, line.indented = true

/-- The paragraphs that lines form. -/
def split : List Line → List Paragraph
  | [] => []
  | line :: rest =>
      ⟨line, rest.takeWhile (·.indented)⟩ :: split (rest.dropWhile (·.indented))
termination_by lines => lines.length
decreasing_by
  simp only [List.length_cons]
  exact Nat.lt_succ_of_le (List.dropWhile_sublist _).length_le

/-- The lines of the paragraphs are the lines. -/
theorem flatMap_lines_split (lines : List Line) :
    (split lines).flatMap Paragraph.lines = lines := by
  induction lines using split.induct with
  | case1 => simp [split]
  | case2 line rest ih =>
      rw [split, List.flatMap_cons, ih, Paragraph.lines, List.cons_append,
        List.takeWhile_append_dropWhile]

/-- Lines whose first is not indented form paragraphs that are indented as they
should be. -/
theorem indented_of_mem_split {lines : List Line}
    (h : ∀ line ∈ lines.head?, line.indented = false) : ∀ q ∈ split lines, q.Indented := by
  induction lines using split.induct with
  | case1 => simp [split]
  | case2 line rest ih =>
      rw [split]
      intro q hq
      rcases List.mem_cons.1 hq with rfl | hq
      · exact ⟨h line rfl, fun l hl => List.mem_takeWhile_imp hl⟩
      · refine ih (fun l hl => ?_) q hq
        have hhead := List.head?_dropWhile_not (·.indented) rest
        rw [Option.mem_def.1 hl] at hhead
        simpa using hhead

/-- Paragraphs start with lines that are not indented. -/
theorem head?_flatMap_lines {qs : List Paragraph} {after : List Line}
    (hqs : ∀ q ∈ qs, q.Indented) (hafter : ∀ line ∈ after.head?, line.indented = false) :
    ∀ line ∈ (qs.flatMap Paragraph.lines ++ after).head?, line.indented = false := by
  cases qs with
  | nil => exact hafter
  | cons q qs =>
      intro line hline
      obtain rfl : q.head = line := Option.some.inj hline
      exact (hqs q List.mem_cons_self).1

/-- The lines of paragraphs form these paragraphs again. -/
theorem split_flatMap_lines_append {qs : List Paragraph} {after : List Line}
    (hqs : ∀ q ∈ qs, q.Indented) (hafter : ∀ line ∈ after.head?, line.indented = false) :
    split (qs.flatMap Paragraph.lines ++ after) = qs ++ split after := by
  induction qs with
  | nil => rfl
  | cons q qs ih =>
      have hq := (hqs q List.mem_cons_self).2
      have hqs : ∀ q ∈ qs, q.Indented := fun q hq => hqs q (List.mem_cons_of_mem _ hq)
      have hhead := head?_flatMap_lines hqs hafter
      rw [List.flatMap_cons, lines, List.cons_append, List.cons_append, List.append_assoc, split,
        Text.takeWhile_run hq hhead, Text.dropWhile_run hq hhead, ih hqs]
      rfl

end Paragraph

/-! ## Where rules are put -/

/-- A change at the place right after a part of a list. -/
theorem modify_length {α : Type} (before : List α) (x : α) (after : List α) (change : α → α) :
    (before ++ x :: after).modify before.length change = before ++ change x :: after := by
  induction before with
  | nil => rfl
  | cons y before ih => simp [ih]

namespace Progress

/-- The progress after something was put into the section that was opened last in the
file.  If there is none, one without a name is opened. -/
def put (p : Progress) (place : Place) (change : Section → Section) : Progress :=
  let (p, index) := p.ensureSection place
  { p with store := p.store.modifySection index change }

theorem put_current {p : Progress} {index : Nat} (place : Place) (change : Section → Section)
    (hc : p.cursor.current = some index) :
    p.put place change = { p with store := p.store.modifySection index change } := by
  simp only [put, ensureSection, hc]

theorem put_first {p : Progress} (place : Place) (change : Section → Section)
    (hc : p.cursor.current = none) :
    p.put place change =
      ⟨{ p.store with sections := p.store.sections ++ [change (.opened "" [] place)] },
        { p.cursor with current := some p.store.sections.length }⟩ := by
  simp [put, ensureSection, hc, Store.openSection, Store.modifySection, modify_length]

/-- Rules below an open conditional go to its latest part. -/
theorem attach_conditional {p : Progress} {c : OpenConditional} (objects : List ObjectRules)
    (place : Place) (h : p.cursor.conditional = some c) :
    p.attach objects place =
      { p with cursor := { p.cursor with conditional := some (c.receive objects) } } := by
  simp only [attach, h]

/-- No rules go nowhere. -/
theorem attach_nil {p : Progress} (place : Place) (h : p.cursor.conditional = none) :
    p.attach [] place = p := by
  simp only [attach, h, List.isEmpty_nil, if_true]

/-- Other rules go to the section that was opened last in the file. -/
theorem attach_cons {p : Progress} {objects : List ObjectRules} (place : Place)
    (h : p.cursor.conditional = none) (hobjects : objects ≠ []) :
    p.attach objects place = p.put place fun s => { s with objects := s.objects ++ objects } := by
  simp only [attach, h, List.isEmpty_iff, hobjects, if_false]
  rfl

/-- A conditional that is closed goes to the section that was opened last in the
file. -/
theorem close_eq (p : Progress) (c : OpenConditional) :
    p.close c =
      { store := (p.put c.place fun s =>
          { s with conditionals := s.conditionals ++ [c.closed] }).store
        cursor := { (p.put c.place fun s =>
          { s with conditionals := s.conditionals ++ [c.closed] }).cursor with
            conditional := none } } :=
  rfl

/-- A progress in which other rules are put and nothing else is different. -/
structure Keeps (p p' : Progress) : Prop where
  pending : p'.cursor.pending = p.cursor.pending
  indexes : p'.cursor.indexes = p.cursor.indexes
  defining : p'.cursor.defining = p.cursor.defining
  trail : p'.store.trail = p.store.trail

theorem keeps_put (p : Progress) (place : Place) (change : Section → Section) :
    p.Keeps (p.put place change) ∧
      (p.put place change).cursor.conditional = p.cursor.conditional := by
  cases hc : p.cursor.current with
  | some index =>
      rw [put_current place change hc]
      exact ⟨⟨rfl, rfl, rfl, rfl⟩, rfl⟩
  | none =>
      rw [put_first place change hc]
      exact ⟨⟨rfl, rfl, rfl, rfl⟩, rfl⟩

theorem keeps_attach (p : Progress) (objects : List ObjectRules) (place : Place) :
    p.Keeps (p.attach objects place) := by
  cases h : p.cursor.conditional with
  | some c =>
      rw [attach_conditional objects place h]
      exact ⟨rfl, rfl, rfl, rfl⟩
  | none =>
      by_cases hobjects : objects = []
      · subst hobjects
        rw [attach_nil place h]
        exact ⟨rfl, rfl, rfl, rfl⟩
      · rw [attach_cons place h hobjects]
        exact (p.keeps_put place _).1

theorem keeps_close (p : Progress) (c : OpenConditional) : p.Keeps (p.close c) := by
  rw [close_eq]
  obtain ⟨hkeeps, _⟩ :=
    p.keeps_put c.place fun s => { s with conditionals := s.conditionals ++ [c.closed] }
  exact ⟨hkeeps.pending, hkeeps.indexes, hkeeps.defining, hkeeps.trail⟩

theorem store_put (p : Progress) (place : Place) (change : Section → Section) :
    ∃ sections, (p.put place change).store = { p.store with sections := sections } := by
  cases hc : p.cursor.current with
  | some index =>
      rw [put_current place change hc]
      exact ⟨_, rfl⟩
  | none =>
      rw [put_first place change hc]
      exact ⟨_, rfl⟩

theorem store_attach (p : Progress) (objects : List ObjectRules) (place : Place) :
    ∃ sections, (p.attach objects place).store = { p.store with sections := sections } := by
  cases hc : p.cursor.conditional with
  | some c =>
      rw [attach_conditional objects place hc]
      exact ⟨_, rfl⟩
  | none =>
      by_cases hobjects : objects = []
      · subst hobjects
        rw [attach_nil place hc]
        exact ⟨_, rfl⟩
      · rw [attach_cons place hc hobjects]
        exact p.store_put place _

theorem store_close (p : Progress) (c : OpenConditional) :
    ∃ sections, (p.close c).store = { p.store with sections := sections } := by
  rw [close_eq]
  exact p.store_put c.place _

/-- The progress without anything pending. -/
def withoutPending (p : Progress) : Progress :=
  { p with cursor := { p.cursor with pending := .nothing } }

theorem withoutPending_of_pending {p : Progress} (h : p.cursor.pending = .nothing) :
    p.withoutPending = p := by
  obtain ⟨store, current, pending, indexes, conditional, defining⟩ := p
  cases h
  rfl

end Progress

/-! ## Object blocks are completed once -/

namespace Job

variable {π : Type} {j : Job π}

theorem settle_object {p : Progress} {block : ObjectBlock}
    (h : p.cursor.pending = .object block) :
    j.settle p = j.objectsOf p.store block >>= fun objects =>
      .ok (p.withoutPending.attach objects block.name.place) := by
  unfold settle
  rw [h]
  rfl

theorem settle_other {p : Progress} (h : ∀ block, p.cursor.pending ≠ .object block) :
    j.settle p = .ok p.withoutPending := by
  unfold settle
  split
  next block hb => exact absurd hb (h block)
  next => rfl

theorem settle_nothing {p : Progress} (h : p.cursor.pending = .nothing) : j.settle p = .ok p := by
  have hother : ∀ block, p.cursor.pending ≠ .object block := by
    intro block hb
    rw [h] at hb
    cases hb
  rw [settle_other hother, Progress.withoutPending_of_pending h]

/-- After an object block was completed nothing is pending, and the trail is the
same. -/
theorem settle_ok {p p' : Progress} (h : j.settle p = .ok p') :
    p'.cursor.pending = .nothing ∧ p'.store.trail = p.store.trail := by
  by_cases hb : ∃ block, p.cursor.pending = .object block
  · obtain ⟨block, hb⟩ := hb
    rw [settle_object hb] at h
    obtain ⟨objects, _, h⟩ := bind_eq_ok_iff.1 h
    cases h
    have hkeeps := p.withoutPending.keeps_attach objects block.name.place
    exact ⟨hkeeps.pending, hkeeps.trail⟩
  · rw [settle_other fun block h => hb ⟨block, h⟩] at h
    cases h
    exact ⟨rfl, rfl⟩

/-- To complete an object block only adds to the sections. -/
theorem store_settle {p p' : Progress} (h : j.settle p = .ok p') :
    ∃ sections, p'.store = { p.store with sections := sections } := by
  by_cases hb : ∃ block, p.cursor.pending = .object block
  · obtain ⟨block, hb⟩ := hb
    rw [settle_object hb] at h
    obtain ⟨objects, _, h⟩ := bind_eq_ok_iff.1 h
    cases h
    exact p.withoutPending.store_attach objects block.name.place
  · rw [settle_other fun block h => hb ⟨block, h⟩] at h
    cases h
    exact ⟨p.store.sections, rfl⟩

/-- A file can be finished after the pending block was completed. -/
theorem finish_eq_settle_finish (p : Progress) :
    p.store.attempt (j.finish p) =
      p.store.attempt (j.settle p) >>= fun p' => p'.store.attempt (j.finish p') := by
  cases hs : j.settle p with
  | error error => simp only [finish, hs]; rfl
  | ok p' =>
      obtain ⟨hpending, htrail⟩ := settle_ok hs
      simp only [attempt_ok, ok_bind, finish, hs, settle_nothing hpending]
      simp only [Store.attempt, htrail]

/-- At the end of a file the pending object block is completed, and no conditional is open. -/
theorem settle_of_finish {p : Progress} {s : Store} (h : j.finish p = .ok s) :
    ∃ p', j.settle p = .ok p' ∧ p'.cursor.conditional = none ∧ s = p'.store := by
  obtain ⟨p', hsettle, h⟩ := bind_eq_ok_iff.1 h
  split at h
  next => cases h
  next => cases h
  next hc _ =>
    cases h
    exact ⟨p', hsettle, hc, rfl⟩

/-- At the end of a file no conditional is open. -/
theorem finish_ok {p : Progress} {s : Store} (h : j.finish p = .ok s)
    (hpending : p.cursor.pending = .nothing) : p.cursor.conditional = none ∧ s = p.store := by
  obtain ⟨p', hsettle, hc, rfl⟩ := settle_of_finish h
  rw [settle_nothing hpending] at hsettle
  cases hsettle
  exact ⟨hc, rfl⟩

variable [Page π] {load : Loader}

theorem feed_not_indented {line : Line} (p : Progress) (h : line.indented = false) :
    j.feed load p line =
      p.store.attempt (j.settle p) >>= fun p' => j.opened load p' line := by
  unfold feed
  rw [h]
  rfl

theorem feed_indented {line : Line} (p : Progress) (h : line.indented = true) :
    j.feed load p line = p.store.attempt (j.continued p line) := by
  unfold feed
  rw [if_pos h]

/-- A line that is not indented can be read after the pending block was completed. -/
theorem feed_eq_settle_feed {line : Line} (p : Progress) (h : line.indented = false) :
    j.feed load p line =
      p.store.attempt (j.settle p) >>= fun p' => j.feed load p' line := by
  rw [feed_not_indented p h]
  cases hs : j.settle p with
  | error error => rfl
  | ok p' =>
      simp only [attempt_ok, ok_bind]
      rw [feed_not_indented p' h, settle_nothing (settle_ok hs).1]
      rfl

/-! ## Reading by paragraphs -/

/-- The progress after a paragraph, with nothing left pending. -/
def readParagraph (j : Job π) (load : Loader) (p : Progress) (q : Paragraph) :
    Except Abort Progress := do
  let p' ← q.lines.foldlM (j.feed load) p
  p'.store.attempt (j.settle p')

/-- What follows a pending block can be read after it was completed. -/
theorem foldlM_eq_settle_foldlM {qs : List Paragraph} (h : ∀ q ∈ qs, q.Indented) (p : Progress) :
    ((qs.flatMap Paragraph.lines).foldlM (j.feed load) p >>= fun p' =>
        p'.store.attempt (j.finish p')) =
      p.store.attempt (j.settle p) >>= fun p₁ =>
        (qs.flatMap Paragraph.lines).foldlM (j.feed load) p₁ >>= fun p' =>
          p'.store.attempt (j.finish p') := by
  cases qs with
  | nil => exact finish_eq_settle_finish p
  | cons q qs =>
      have hhead : q.head.indented = false := (h q List.mem_cons_self).1
      simp only [List.flatMap_cons, Paragraph.lines, List.cons_append, List.foldlM_cons]
      rw [feed_eq_settle_feed p hhead]
      simp only [bind_assoc]

/-- The lines of a file can be read paragraph by paragraph. -/
theorem readLines_eq (s : Store) {qs : List Paragraph} (h : ∀ q ∈ qs, q.Indented) :
    j.readLines load s (qs.flatMap Paragraph.lines) =
      qs.foldlM (j.readParagraph load) ⟨s, .start⟩ >>= fun p =>
        p.store.attempt (j.finish p) := by
  unfold readLines
  generalize (⟨s, .start⟩ : Progress) = p
  induction qs generalizing p with
  | nil => rfl
  | cons q qs ih =>
      have hqs : ∀ q ∈ qs, q.Indented := fun q hq => h q (List.mem_cons_of_mem _ hq)
      simp only [List.flatMap_cons, List.foldlM_append, List.foldlM_cons, readParagraph, bind_assoc]
      congr 1
      funext p₁
      rw [foldlM_eq_settle_foldlM hqs]
      congr 1
      funext p₂
      exact ih hqs p₂

end Job

end PageLayout
