import PageLayout.Proofs.Compilation.Commute
import PageLayout.Proofs.Compilation.Parts

/-!
# Imports keep apart from their file

A file that is imported starts with its own cursor and only adds sections, so it does not
touch what the importing file has open.  Afterwards the importing file goes on as if there
were no sections of the imported file: whatever follows is done alike if they are left out,
and they can be inserted afterwards where they would be (`foldlM_insertSections`).

This rests on the fact that no file depends on the sections that are there before it.  It is
proved by induction on how deep files are nested, since the files that a file imports must
not depend on them either.
-/

namespace PageLayout

/-! ## More sections -/

/-- A store with more sections at an index. -/
def Store.insertSections (s : Store) (index : Nat) (added : List Section) : Store :=
  { s with sections := inserted index added s.sections }

/-- A progress with more sections at an index.  The current section is the same one, so its
index may be another. -/
def Progress.insertSections (p : Progress) (index : Nat) (added : List Section) : Progress :=
  ⟨p.store.insertSections index added,
    { p.cursor with current := p.cursor.current.map (skipping index added.length) }⟩

/-- A compilation of the same lines with more sections. -/
def Shift.inserting (index : Nat) (added : List Section) : Shift := ⟨id, index, added, id⟩

section Inserting

variable (index : Nat) (added : List Section)

theorem Store.shift_inserting (s : Store) :
    s.shift (.inserting index added) = s.insertSections index added := by
  simp [shift, Shift.inserting, insertSections]

theorem Progress.shift_inserting (p : Progress) :
    p.shift (.inserting index added) = p.insertSections index added := by
  have hindexes : p.cursor.indexes.map (fun indexes => (indexes.1, indexes.2)) =
      p.cursor.indexes := by
    cases p.cursor.indexes <;> rfl
  unfold shift
  rw [Store.shift_inserting]
  simp [Cursor.shift, Shift.inserting, insertSections]

theorem Abort.shift_inserting (a : Abort) : a.shift (.inserting index added) = a := by
  simp [shift, Shift.inserting]

end Inserting

/-- A result does not change but for its value. -/
theorem both_id_eq_map {ε α β : Type} (g : α → β) (x : Except ε α) : both id g x = x.map g := by
  cases x <;> rfl

namespace Job

variable {π : Type} {j : Job π} {load : Loader} {index : Nat} {added : List Section}

/-! ## No file depends on earlier sections -/

/-- Files are read alike if there are more sections before. -/
def Ignores (load : Loader) (index : Nat) (added : List Section) : Prop :=
  ∀ requested place s, index ≤ s.sections.length →
    load requested place (s.insertSections index added) =
      (load requested place s).map (·.insertSections index added)

theorem loadScript_insertSections (s : Store) (requested : String) (place : Place) :
    j.loadScript (s.insertSections index added) requested place =
      (j.loadScript s requested place).map (·.insertSections index added) := by
  have hlead : j.lead (s.insertSections index added) requested = j.lead s requested := rfl
  rw [loadScript_eq, loadScript_eq, hlead]
  cases j.lead s requested with
  | missing reason | known text => rfl
  | new text =>
      dsimp only
      have hdefinitions : j.evaluator.definitions
          ((s.insertSections index added).trail.resolve requested) text
          (j.scope ((s.insertSections index added).marked
            ((s.insertSections index added).trail.resolve requested) text) none) =
        j.evaluator.definitions (s.trail.resolve requested) text
          (j.scope (s.marked (s.trail.resolve requested) text) none) := rfl
      rw [hdefinitions]
      cases j.evaluator.definitions (s.trail.resolve requested) text
        (j.scope (s.marked (s.trail.resolve requested) text) none) <;> rfl

theorem commutes_of_ignores (hload : Ignores load index added) {t : Task}
    (ht : index ≤ t.store.sections.length) : j.Commutes load (.inserting index added) t := by
  cases t with
  | file requested place s =>
      cases place with
      | none => trivial
      | some place =>
          show load requested place (s.shift (.inserting index added)) = _
          rw [Store.shift_inserting, hload requested place s ht, ← both_id_eq_map]
          exact both_congr (fun a => (Abort.shift_inserting index added a).symm)
            (fun s => (Store.shift_inserting index added s).symm) _
  | script requested place s =>
      show j.loadScript (s.shift (.inserting index added)) requested place = _
      rw [Store.shift_inserting, loadScript_insertSections, ← both_id_eq_map]
      exact both_congr (fun e => congrFun LayoutError.moved_id.symm e)
        (fun s => (Store.shift_inserting index added s).symm) _
  | text | lines => trivial

/-- A file that is asked for is read with what is there after the pending object block was
completed. -/
theorem store_of_asks {p p' : Progress} {line : Line} {t : Task} (h : j.Asks p line p' t) :
    j.settle p = .ok p' ∧ t.store = p'.store := by
  cases h with
  | @intro _ _ d _ _ hsettle _ _ _ htask =>
      refine ⟨hsettle, ?_⟩
      cases d with
      | importFile path | loadScript path =>
          cases htask
          rfl
      | _ => cases htask

variable [Page π]

/-- A line is read alike if there are more sections. -/
theorem feed_insertSections (hload : Ignores load index added) {p : Progress}
    (h : index ≤ p.store.sections.length) (line : Line) :
    j.feed load (p.insertSections index added) line =
      (j.feed load p line).map (·.insertSections index added) := by
  have hasks : ∀ p' t, j.Asks p line p' t → j.Commutes load (.inserting index added) t := by
    intro p' t hasks
    obtain ⟨hsettle, hstore⟩ := store_of_asks hasks
    refine commutes_of_ignores hload ?_
    rw [hstore]
    exact h.trans (changes_settle hsettle).length_le
  have hfeed : j.feed load (p.shift (.inserting index added)) line =
      both (Abort.shift (.inserting index added)) (Progress.shift (.inserting index added))
        (j.feed load p line) := feed_shift h hasks
  rw [Progress.shift_inserting] at hfeed
  rw [hfeed, ← both_id_eq_map]
  exact both_congr (Abort.shift_inserting index added) (Progress.shift_inserting index added) _

/-- Lines are read alike if there are more sections. -/
theorem foldlM_insertSections (hadds : AddsSections load) (hload : Ignores load index added)
    (lines : List Line) {p : Progress} (h : index ≤ p.store.sections.length) :
    lines.foldlM (j.feed load) (p.insertSections index added) =
      (lines.foldlM (j.feed load) p).map (·.insertSections index added) := by
  induction lines generalizing p with
  | nil => rfl
  | cons line lines ih =>
      rw [List.foldlM_cons, List.foldlM_cons, feed_insertSections hload h]
      cases hfeed : j.feed load p line with
      | error a => rfl
      | ok p' => exact ih (h.trans (Steps.length_le hadds (steps_of_feed hfeed)))

omit [Page π] in
theorem finish_insertSections {p : Progress} (h : index ≤ p.store.sections.length) :
    (p.insertSections index added).store.attempt (j.finish (p.insertSections index added)) =
      (p.store.attempt (j.finish p)).map (·.insertSections index added) := by
  have hfinish : (p.shift (.inserting index added)).store.attempt
      (j.finish (p.shift (.inserting index added))) =
        both (Abort.shift (.inserting index added)) (Store.shift (.inserting index added))
          (p.store.attempt (j.finish p)) := finish_shift h
  rw [Progress.shift_inserting] at hfinish
  rw [hfinish, ← both_id_eq_map]
  exact both_congr (Abort.shift_inserting index added) (Store.shift_inserting index added) _

/-- The rest of a file is read alike if there are more sections, to its end. -/
theorem readRest_insertSections (hadds : AddsSections load) (hload : Ignores load index added)
    (lines : List Line) {p : Progress} (h : index ≤ p.store.sections.length) :
    (lines.foldlM (j.feed load) (p.insertSections index added) >>= fun p' =>
        p'.store.attempt (j.finish p')) =
      (lines.foldlM (j.feed load) p >>= fun p' => p'.store.attempt (j.finish p')).map
        (·.insertSections index added) := by
  rw [foldlM_insertSections hadds hload lines h]
  cases hlines : lines.foldlM (j.feed load) p with
  | error a => rfl
  | ok p' =>
      exact finish_insertSections (h.trans (Steps.length_le hadds (steps_of_foldlM hlines)))

/-- A text is read alike if there are more sections. -/
theorem processText_insertSections (hadds : AddsSections load) (hload : Ignores load index added)
    {s : Store} (h : index ≤ s.sections.length) (path text : String) :
    j.processText load (s.insertSections index added) path text =
      (j.processText load s path text).map (·.insertSections index added) := by
  unfold processText
  cases Line.scan text path 0 with
  | error error => rfl
  | ok lines =>
      let inside : Store := { s with trail := s.trail.enter path }
      have hread : j.readLines load (inside.insertSections index added) lines =
          (j.readLines load inside lines).map (·.insertSections index added) := by
        have hstart : index ≤ (Progress.mk inside .start).store.sections.length := h
        exact readRest_insertSections hadds hload lines hstart
      show leaving (j.readLines load (inside.insertSections index added) lines) =
        (leaving (j.readLines load inside lines)).map (·.insertSections index added)
      rw [hread]
      cases j.readLines load inside lines <;> rfl

/-- A file is read alike if there are more sections, however deep others are nested in it. -/
theorem processFile_insertSections (nesting : Nat) (requested : String) (place : Option Place)
    {s : Store} (h : index ≤ s.sections.length) :
    j.processFile nesting requested place (s.insertSections index added) =
      (j.processFile nesting requested place s).map (·.insertSections index added) := by
  induction nesting generalizing requested place s with
  | zero => rfl
  | succ nesting ih =>
      have hlead : j.lead (s.insertSections index added) requested = j.lead s requested := rfl
      rw [processFile_eq, processFile_eq, hlead]
      cases j.lead s requested with
      | missing reason | known text => rfl
      | new text =>
          have hload : Ignores (j.importing nesting) index added :=
            fun requested place s h => ih requested (some place) h
          exact processText_insertSections (addsSections_importing nesting) hload
            (show index ≤ (s.marked (s.trail.resolve requested) text).sections.length from h) _ _

theorem ignores_importing (nesting : Nat) : Ignores (j.importing nesting) index added :=
  fun requested place _ h => processFile_insertSections nesting requested (some place) h

/-! ## Imports -/

/-- A file reads an import as if it had no sections of its own, and goes on as if the imported
file had none. -/
theorem exists_added_of_import {nesting : Nat} {requested : String} {place : Place} {s s' : Store}
    (h : j.importing nesting requested place s = .ok s') :
    ∃ added, s'.sections = s.sections ++ added ∧
      j.importing nesting requested place { s with sections := [] } =
        .ok { s' with sections := added } := by
  let bare : Store := { s with sections := [] }
  have hbare : bare.insertSections 0 s.sections = s := by
    simp [bare, Store.insertSections, inserted]
  have hignores : Ignores (j.importing nesting) 0 s.sections := ignores_importing nesting
  have hload := hignores requested place bare (Nat.zero_le _)
  rw [hbare, h] at hload
  cases hb : j.importing nesting requested place bare with
  | error a =>
      rw [hb] at hload
      cases hload
  | ok s₁ =>
      rw [hb] at hload
      cases hload
      exact ⟨s₁.sections, by simp [Store.insertSections, inserted], rfl⟩

/-- A section that is used by its index is there: it is the one that the file owns, or it is
opened right away. -/
theorem ensureSection_lt {start p : Progress} {place : Place}
    (h : ∀ index, p.cursor.current = some index → j.Owns load start p index) :
    (p.ensureSection place).2 < (p.ensureSection place).1.store.sections.length := by
  unfold Progress.ensureSection
  cases hc : p.cursor.current with
  | some index => exact (h index hc).lt
  | none => simp [Store.openSection]

/-- What an import does to its file, from the progress before it and the store after it.  It
adds sections, which are those that the imported file gives if there are none before.  The
lines after it are read, to the end of the file, as if these sections were not there, and they
can be inserted afterwards. -/
structure KeepsApart (j : Job π) (load : Loader) (requested : String) (place : Place)
    (p : Progress) (s : Store) (added : List Section) : Prop where
  /-- Sections are added. -/
  sections : s.sections = p.store.sections ++ added
  /-- They do not depend on others. -/
  alone : load requested place { p.store with sections := [] } = .ok { s with sections := added }
  /-- Some lines after the import. -/
  lines : ∀ rest : List Line,
    rest.foldlM (j.feed load) ⟨s, p.cursor⟩ =
      (rest.foldlM (j.feed load) ⟨{ s with sections := p.store.sections }, p.cursor⟩).map
        (·.insertSections p.store.sections.length added)
  /-- All lines after the import, to the end of the file. -/
  finish : ∀ rest : List Line,
    (rest.foldlM (j.feed load) ⟨s, p.cursor⟩ >>= fun p' => p'.store.attempt (j.finish p')) =
      (rest.foldlM (j.feed load) ⟨{ s with sections := p.store.sections }, p.cursor⟩ >>=
        fun p' => p'.store.attempt (j.finish p')).map
          (·.insertSections p.store.sections.length added)

/-- An import keeps apart from its file if the current section of the file is there. -/
theorem keepsApart_of_import {nesting : Nat} {requested : String} {place : Place} {p : Progress}
    {s : Store}
    (hcurrent : ∀ index, p.cursor.current = some index → index < p.store.sections.length)
    (h : j.importing nesting requested place p.store = .ok s) :
    ∃ added, j.KeepsApart (j.importing nesting) requested place p s added := by
  obtain ⟨added, hs, halone⟩ := exists_added_of_import h
  let without : Progress := ⟨{ s with sections := p.store.sections }, p.cursor⟩
  -- The current section stands before those that are inserted, so its index stays.
  have hskip : p.cursor.current.map (skipping p.store.sections.length added.length) =
      p.cursor.current := by
    cases hc : p.cursor.current with
    | none => rfl
    | some index => rw [Option.map_some, skipping, if_pos (hcurrent index hc)]
  have hinsert : without.insertSections p.store.sections.length added = ⟨s, p.cursor⟩ := by
    unfold Progress.insertSections Store.insertSections
    rw [hskip, inserted_length, ← hs]
  have hlength : p.store.sections.length ≤ without.store.sections.length := Nat.le_refl _
  have hadds : AddsSections (j.importing nesting) := addsSections_importing nesting
  have hignores : Ignores (j.importing nesting) p.store.sections.length added :=
    ignores_importing nesting
  refine ⟨added, hs, halone, fun rest => ?_, fun rest => ?_⟩
  · rw [← hinsert]
    exact foldlM_insertSections hadds hignores rest hlength
  · rw [← hinsert]
    exact readRest_insertSections hadds hignores rest hlength

/-- A file is read in steps, and at every step the index of its current section is that of the
section which it opened last.  So each section that is used by its index is there.

An import leaves all that its file has open as it is: the current section, the open
conditional and the pending list of indexes.  The sections of the imported file keep apart
from those of its file. -/
theorem imports_keep_apart (j : Job π) (nesting : Nat) (s : Store) (path : String) :
    let load := j.importing nesting
    let start := Progress.within s path
    (∀ (lines : List Line) (p : Progress),
      lines.foldlM (j.feed load) start = .ok p → j.Steps load start p) ∧
    (∀ p, j.Steps load start p →
      (∀ index, p.cursor.current = some index →
        index < p.store.sections.length ∧ s.sections.length ≤ index ∧ j.Owns load start p index) ∧
      ∀ place, (p.ensureSection place).2 < (p.ensureSection place).1.store.sections.length) ∧
    ∀ p line p' requested s', j.Steps load start p →
      j.Asks p line p' (.file requested (some line.place) p'.store) →
        load requested line.place p'.store = .ok s' →
          j.settle p = .ok p' ∧ j.feed load p line = .ok ⟨s', p'.cursor⟩ ∧
            ∃ added, j.KeepsApart load requested line.place p' s' added := by
  intro load start
  have hadds : AddsSections load := addsSections_importing nesting
  have howns : ∀ p, j.Steps load start p → ∀ index, p.cursor.current = some index →
      j.Owns load start p index := fun p hp index => owns_of_steps hadds rfl hp
  refine ⟨fun lines p => steps_of_foldlM, fun p hp => ⟨fun index hindex => ?_, fun place => ?_⟩, ?_⟩
  · have h := howns p hp index hindex
    exact ⟨h.lt, h.le hadds, h⟩
  · exact ensureSection_lt (howns p hp)
  · intro p line p' requested s' hp hasks hload
    obtain ⟨hsettle, _⟩ := store_of_asks hasks
    have hp' : j.Steps load start p' := hp.tail (.settle hsettle)
    have hfeed : j.feed load p line = .ok ⟨s', p'.cursor⟩ := by
      obtain ⟨_, ⟨path, ht, hfeed⟩ | ⟨path, ht, _⟩⟩ := feed_of_asks hasks
      · cases ht
        rw [hfeed, hload, ok_bind]
      · cases ht
    exact ⟨hsettle, hfeed,
      keepsApart_of_import (fun index hindex => (howns p' hp' index hindex).lt) hload⟩

end Job

/-- Lines of a file that leave a conditional and a list of indexes open. -/
def Line.sampleOpen : List Line :=
  [⟨"@@ if", ⟨"a", 1⟩, false⟩, ⟨"[1,2]", ⟨"a", 2⟩, false⟩]

/-- How far their file has been read: both are open, and nothing is pending. -/
def Cursor.sampleOpen : Cursor :=
  ⟨none, .nothing, some ([1, 2], ⟨"a", 2⟩), some (.start false ⟨"a", 1⟩), false⟩

/-- The import of a file with a section. -/
def Line.sampleImport : Line := ⟨"@@ import b", ⟨"a", 3⟩, false⟩

theorem Line.asks_sampleImport {p : Progress} (h : p.cursor = .sampleOpen) :
    Job.Asks ⟨Compiler.sample, none⟩ p sampleImport p
      (.file "b" (some sampleImport.place) p.store) := by
  have hsettle : Job.settle ⟨Compiler.sample, none⟩ p = .ok p :=
    Job.settle_nothing (congrArg Cursor.pending h)
  have hkind : LineKind.of p.cursor.defining sampleImport.text.toList =
      .directive " import b".toList := by
    rw [h]
    decide
  have htext : Job.substitute ⟨Compiler.sample, none⟩ p.store none sampleImport.place
      (String.ofList " import b".toList) = .ok " import b" :=
    Job.substitute_of_notMem _ _ _ (by decide)
  have hdirective : Directive.ofText (Text.trimmed " import b") = .ok (.importFile "b") := by
    decide
  exact .intro rfl hsettle hkind htext hdirective rfl

/-- Inside a conditional and after a list of indexes, an import leaves both open, and its
section keeps apart. -/
theorem Job.imports_keep_apart_sample :
    let load := Job.importing ⟨Compiler.sample, none⟩ 1
    ∃ p s', Line.sampleOpen.foldlM (Job.feed ⟨Compiler.sample, none⟩ load)
        (.within .start "a") = .ok p ∧
      p.cursor.conditional.isSome = true ∧ p.cursor.indexes.isSome = true ∧
      Job.feed ⟨Compiler.sample, none⟩ load p .sampleImport = .ok ⟨s', p.cursor⟩ ∧
      ∃ added, added.map (·.name) = ["two"] ∧
        Job.KeepsApart ⟨Compiler.sample, none⟩ load "b" Line.sampleImport.place p s' added := by
  intro load
  obtain ⟨p, hp, hopen⟩ : ∃ p, Line.sampleOpen.foldlM (Job.feed ⟨Compiler.sample, none⟩ load)
      (.within .start "a") = .ok p ∧ (p.cursor, p.store.sections.length) = (.sampleOpen, 0) :=
    exists_ok_of_toOption (by decide +kernel)
  have himport : ((Line.sampleOpen ++ [Line.sampleImport]).foldlM
      (Job.feed ⟨Compiler.sample, none⟩ load) (.within .start "a")).toOption.map
        (fun p => p.store.sections.map (·.name)) = some ["two"] := by
    decide +kernel
  rw [List.foldlM_append, hp] at himport
  obtain ⟨hcursor, hlength⟩ := Prod.mk.inj hopen
  have hasks := Line.asks_sampleImport hcursor
  obtain ⟨_, ⟨path, ht, hfeed⟩ | ⟨path, ht, _⟩⟩ := feed_of_asks hasks
  · cases ht
    rw [ok_bind, List.foldlM_cons, hfeed load] at himport
    cases hload : load "b" Line.sampleImport.place p.store with
    | error a =>
        rw [hload] at himport
        cases himport
    | ok s' =>
        rw [hload] at himport
        have hnames : s'.sections.map (·.name) = ["two"] := Option.some.inj himport
        obtain ⟨hsteps, _, hkeeps⟩ := imports_keep_apart ⟨Compiler.sample, none⟩ 1 .start "a"
        obtain ⟨_, hfeed, added, hapart⟩ := hkeeps p _ p "b" s' (hsteps _ p hp) hasks hload
        rw [hapart.sections, List.eq_nil_of_length_eq_zero hlength, List.nil_append] at hnames
        exact ⟨p, s', hp, by rw [hcursor]; rfl, by rw [hcursor]; rfl, hfeed, added, hnames, hapart⟩
  · cases ht

end PageLayout
