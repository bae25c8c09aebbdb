import Mathlib.Data.Finset.Card
import PageLayout.Page.Snapshot
import PageLayout.Proofs.Compilation.Once

/-!
# Compilations end

A run has no bound on how deep files import one another, and a compilation has one.
`runs_of_processFile` says that a compilation is a run all the same: every file that
is entered is one file less that was not read, so a bound above their number is never
reached.
-/

namespace PageLayout

/-! ## Files that were not read -/

/-- How many of some files were not read. -/
def unread (files : List String) (s : Store) : Nat :=
  (files.toFinset \ s.trail.loaded.toFinset).card

theorem unread_le (files : List String) (s : Store) : unread files s ≤ files.length :=
  (Finset.card_le_card Finset.sdiff_subset).trans (List.toFinset_card_le files)

theorem unread_anti {files : List String} {s s' : Store}
    (h : ∀ identity ∈ s.trail.loaded, identity ∈ s'.trail.loaded) :
    unread files s' ≤ unread files s := by
  refine Finset.card_le_card (Finset.sdiff_subset_sdiff (Finset.Subset.refl _) ?_)
  intro identity hm
  rw [List.mem_toFinset] at hm ⊢
  exact h identity hm

/-- A file that is marked is one file less. -/
theorem unread_marked {files : List String} {s : Store} {path text : String}
    (hfile : fileIdentity path text ∈ files)
    (hnew : s.trail.hasLoaded (fileIdentity path text) = false) :
    unread files (s.marked path text) < unread files s := by
  refine Finset.card_lt_card ((Finset.ssubset_iff_of_subset ?_).2 ⟨fileIdentity path text, ?_, ?_⟩)
  · refine Finset.sdiff_subset_sdiff (Finset.Subset.refl _) fun identity hm => ?_
    rw [List.mem_toFinset] at hm ⊢
    exact (s.trail.mem_loaded_mark _ identity).2 (.inr hm)
  · rw [Finset.mem_sdiff, List.mem_toFinset, List.mem_toFinset]
    exact ⟨hfile, (s.trail.hasLoaded_eq_false_iff _).1 hnew⟩
  · rw [Finset.mem_sdiff, not_and_not_right]
    intro _
    rw [List.mem_toFinset]
    exact (s.trail.mem_loaded_mark _ _).2 (.inl rfl)

/-- The value of a name after some insertions comes from one of them, or from before. -/
theorem Table.mem_of_get?_insertAll {α : Type} {t : Table α} {entries : List (String × α)}
    {name : String} {value : α} (h : (t.insertAll entries).get? name = some value) :
    (name, value) ∈ entries ∨ t.get? name = some value := by
  induction entries generalizing t with
  | nil => exact .inr h
  | cons e entries ih =>
      rcases ih h with hm | hget
      · exact .inl (List.mem_cons_of_mem _ hm)
      · rw [get?_insert] at hget
        split at hget
        next hname =>
          cases hname
          cases hget
          exact .inl List.mem_cons_self
        next => exact .inr hget

/-! ## Steps of a compilation -/

namespace Job

variable {π : Type} {j : Job π}

/-- What a script does, by what its path leads to. -/
theorem loadScript_eq (j : Job π) (s : Store) (requested : String) (place : Place) :
    j.loadScript s requested place =
      match j.lead s requested with
      | .missing reason => .error (.unreadable (s.trail.resolve requested) reason (some place))
      | .known _ => .ok s
      | .new text =>
          match j.evaluator.definitions (s.trail.resolve requested) text
              (j.scope (s.marked (s.trail.resolve requested) text) none) with
          | .error cause =>
              .error (.evaluation (.badScript (s.trail.resolve requested) cause) place)
          | .ok definitions =>
              .ok { s.marked (s.trail.resolve requested) text with
                values := s.values.insertAll definitions } := by
  unfold loadScript lead
  dsimp only
  cases j.source.read (s.trail.resolve requested) with
  | error reason => rfl
  | ok text =>
      dsimp only
      by_cases hl : s.trail.hasLoaded (fileIdentity (s.trail.resolve requested) text) = true
      · rw [if_pos hl, if_pos hl]
      · rw [if_neg hl, if_neg hl]
        rfl

/-- The run of a script. -/
theorem runs_of_loadScript [Page π] (s : Store) (requested : String) (place : Place) :
    ∃ log, j.Runs (.script requested place s) log (s.attempt (j.loadScript s requested place)) := by
  rw [loadScript_eq]
  cases hl : j.lead s requested with
  | missing reason => exact ⟨_, .noScript hl⟩
  | known text => exact ⟨_, .scriptAgain hl⟩
  | new text =>
      dsimp only
      cases hd : j.evaluator.definitions (s.trail.resolve requested) text
          (j.scope (s.marked (s.trail.resolve requested) text) none) with
      | error cause => exact ⟨_, .badScript hl hd⟩
      | ok definitions => exact ⟨_, .script hl hd⟩

variable [Page π]

/-- What is done with a file, by what its path leads to. -/
theorem processFile_eq (j : Job π) (nesting : Nat) (requested : String) (place : Option Place)
    (s : Store) :
    j.processFile (nesting + 1) requested place s =
      match j.lead s requested with
      | .missing reason => .error ⟨.unreadable (s.trail.resolve requested) reason place, s.trail⟩
      | .known _ => .ok s
      | .new text =>
          j.processText (fun requested place s => j.processFile nesting requested (some place) s)
            (s.marked (s.trail.resolve requested) text) (s.trail.resolve requested) text := by
  rw [processFile]
  unfold lead
  dsimp only
  cases j.source.read (s.trail.resolve requested) with
  | error reason => rfl
  | ok text =>
      dsimp only
      by_cases hl : s.trail.hasLoaded (fileIdentity (s.trail.resolve requested) text) = true
      · rw [if_pos hl, if_pos hl]
      · rw [if_neg hl, if_neg hl]
        rfl

theorem processText_eq (j : Job π) (load : Loader) (s : Store) (path text : String) :
    j.processText load (s.marked path text) path text =
      match Line.scan text path 0 with
      | .error error => .error ⟨error, (s.marked path text).trail⟩
      | .ok lines => leaving (j.readLines load (s.inside path text) lines) := by
  unfold processText
  cases Line.scan text path 0 with
  | error error => rfl
  | ok lines => rfl

/-! ## A compilation is a run -/

/-- The lines of a file are a run if the files that they ask for are. -/
theorem runs_of_lines {files : List String} {bound : Nat} {load : Loader}
    (hload : ∀ requested place s, unread files s < bound →
      ∃ log, j.Runs (.file requested (some place) s) log (load requested place s))
    (lines : List Line) (p : Progress) (h : unread files p.store < bound) :
    ∃ log, j.Runs (.lines p lines) log
      (lines.foldlM (j.feed load) p >>= fun p' => p'.store.attempt (j.finish p')) := by
  induction lines generalizing p with
  | nil => exact ⟨[], .finish⟩
  | cons line lines ih =>
      rw [List.foldlM_cons, bind_assoc]
      by_cases ha : ∃ p' t, j.Asks p line p' t
      · obtain ⟨p', t, ha⟩ := ha
        obtain ⟨answer, hfeed, log, hanswer⟩ : ∃ answer : Except Abort Store,
            j.feed load p line = (answer >>= fun s => .ok ⟨s, p'.cursor⟩) ∧
              ∃ log, j.Runs t log answer := by
          obtain ⟨htrail, ⟨path, rfl, hfeed⟩ | ⟨path, rfl, hfeed⟩⟩ := feed_of_asks ha
          · refine ⟨_, hfeed load, hload path line.place p'.store ?_⟩
            rw [unread, htrail]
            exact h
          · exact ⟨_, hfeed load, runs_of_loadScript p'.store path line.place⟩
        rw [hfeed]
        cases answer with
        | error a => exact ⟨log, .asksInVain ha hanswer⟩
        | ok s =>
            -- What was read stays read, so the rest of the lines keeps to the bound.
            have hs : unread files s ≤ unread files t.store :=
              unread_anti fun identity hm =>
                ((once_of_runs hanswer).loaded s rfl identity).2 (.inl hm)
            rw [unread, unread, trail_of_asks ha] at hs
            obtain ⟨log', hlines⟩ := ih ⟨s, p'.cursor⟩ (Nat.lt_of_le_of_lt hs h)
            exact ⟨log ++ log', .asks ha hanswer hlines⟩
      · have hn : ∀ p' t, ¬j.Asks p line p' t := fun p' t ha' => ha ⟨p', t, ha'⟩
        cases hf : j.feed load p line with
        | error a => exact ⟨[], .badLine hn hf⟩
        | ok p' =>
            have htrail := trail_of_feed hn hf
            obtain ⟨log, hlines⟩ := ih p' (by rw [unread, htrail]; exact h)
            exact ⟨log, .line hn hf hlines⟩

/-- A text is a run if the files that it asks for are. -/
theorem runs_of_processText {files : List String} {bound : Nat} {load : Loader}
    (hload : ∀ requested place s, unread files s < bound →
      ∃ log, j.Runs (.file requested (some place) s) log (load requested place s))
    {s : Store} {path text : String} (h : unread files (s.marked path text) < bound)
    (hnew : s.trail.hasLoaded (fileIdentity path text) = false) :
    ∃ log, j.Runs (.text path text s) log
      (j.processText load (s.marked path text) path text) := by
  rw [processText_eq]
  cases hs : Line.scan text path 0 with
  | error error => exact ⟨_, .badText hnew hs⟩
  | ok lines =>
      obtain ⟨log, hlines⟩ := runs_of_lines hload lines ⟨s.inside path text, .start⟩ h
      exact ⟨_, .text hnew hs hlines⟩

/-- A file is a run, if fewer files were not read than the bound allows. -/
theorem runs_of_processFile {files : List String}
    (hfiles : ∀ path text, j.source.read path = .ok text → fileIdentity path text ∈ files)
    {nesting : Nat} {requested : String} {place : Option Place} {s : Store}
    (h : unread files s < nesting) :
    ∃ log, j.Runs (.file requested place s) log (j.processFile nesting requested place s) := by
  induction nesting generalizing requested place s with
  | zero => exact absurd h (Nat.not_lt_zero _)
  | succ nesting ih =>
      rw [processFile_eq]
      cases hl : j.lead s requested with
      | missing reason => exact ⟨_, .unreadable hl⟩
      | known text => exact ⟨_, .again hl⟩
      | new text =>
          -- The file is marked before its lines are read, so the files that it imports
          -- find one file less, and the bound below this one is enough for them.
          have hnew := not_loaded_of_lead_new hl
          have hfile := hfiles _ _ (read_of_lead_new hl)
          have hbound := unread_marked hfile hnew
          obtain ⟨log, htext⟩ :=
            runs_of_processText (fun requested place s h => ih h) (by omega) hnew
          exact ⟨log, .fresh hl htext⟩

/-! ## Files in memory -/

/-- A task ends, with a result.  Whatever happens to files during it, no file is read
twice, and the files that are known if it ends well are those that were asked for. -/
structure RunsOnce (j : Job π) (t : Task) (result : Except LayoutError Layout) : Prop where
  /-- The task ends. -/
  ends : ∃ log done, j.Runs t log done
  /-- It ends with the result. -/
  result : ∀ log done, j.Runs t log done → result = j.result done
  /-- No file is read twice. -/
  once : ∀ log done, j.Runs t log done → (ranIn log).Nodup
  /-- The files that are known in the end were asked for, and no others. -/
  loaded : ∀ log s, j.Runs t log (.ok s) →
    ∀ identity, identity ∈ s.trail.loaded ↔ .asked identity ∈ log

/-- A task that starts with nothing and has a run runs once. -/
theorem runsOnce_of_runs {t : Task} {log : List Event} {done : Except Abort Store}
    (h : j.Runs t log done) (hstart : t.store.trail.loaded = []) :
    j.RunsOnce t (j.result done) where
  ends := ⟨log, done, h⟩
  result := by
    intro log' done' h'
    rw [(h.deterministic h').2]
  once := fun _ _ h' => (once_of_runs h').nodup
  loaded := by
    intro log' s h' identity
    rw [(once_of_runs h').loaded s rfl, hstart]
    simp

end Job

namespace Compiler

variable {π : Type}

/-- The compiler with some files in memory. -/
def withFiles (c : Compiler π) (files : List (String × String)) : Compiler π :=
  { c with source := .memory files }

/-- The identities of files in memory. -/
def identities (files : List (String × String)) : List String :=
  files.map fun file => fileIdentity (Path.normalize file.1) file.2

theorem identity_mem_of_read {files : List (String × String)} {path text : String}
    (h : (Source.memory files).read path = .ok text) :
    fileIdentity path text ∈ identities files := by
  have hget : (Source.byNormalPath files).get? path = some text := by
    unfold Source.memory at h
    dsimp only at h
    split at h
    next text' htext =>
      cases h
      exact htext
    next => cases h
  obtain hm | hm := Table.mem_of_get?_insertAll hget
  · obtain ⟨file, hfile, heq⟩ := List.mem_map.1 hm
    cases heq
    exact List.mem_map.2 ⟨file, hfile, rfl⟩
  · cases hm

/-- Every compilation of files in memory ends, whatever they import, and reads no file
twice. -/
theorem runsOnce_compile [Page π] (c : Compiler π) (files : List (String × String))
    (page : Option π) :
    (∀ path, Job.RunsOnce ⟨c.withFiles files, page⟩ (.file path none .start)
      ((c.withFiles files).compile page path)) ∧
    ∀ text label, Job.RunsOnce ⟨c.withFiles files, page⟩ (.text (Path.normalize label) text .start)
      ((c.withFiles files).compileText page text label) := by
  have hbound : ∀ s, unread (identities files) s < files.length + 1 := by
    intro s
    have hle := unread_le (identities files) s
    rw [identities, List.length_map] at hle
    exact Nat.lt_succ_of_le hle
  have hfile : ∀ requested place s,
      ∃ log, Job.Runs ⟨c.withFiles files, page⟩ (.file requested place s) log
        (Job.processFile ⟨c.withFiles files, page⟩ (files.length + 1) requested place s) :=
    fun requested place s =>
      Job.runs_of_processFile (fun _ _ => identity_mem_of_read) (hbound s)
  constructor
  · intro path
    obtain ⟨log, h⟩ := hfile path none .start
    exact Job.runsOnce_of_runs h rfl
  · intro text label
    have hnew : Store.start.trail.hasLoaded (fileIdentity (Path.normalize label) text) = false :=
      rfl
    obtain ⟨log, h⟩ :=
      Job.runs_of_processText (fun requested place s _ => hfile requested (some place) s)
        (hbound _) hnew
    exact Job.runsOnce_of_runs h rfl

/-- Files may import one another, and themselves. -/
example :
    let c : Compiler Snapshot :=
      ⟨⟨2.0, true⟩, .empty, .standard, .memory
        [("a", "@@ import b\n@@ import a\n"), ("b", "@@ import a\nbox\n visible\n")]⟩
    (c.compile none "a").toOption.map (·.sections.length) = some 1 := by
  decide +kernel

end Compiler

end PageLayout
