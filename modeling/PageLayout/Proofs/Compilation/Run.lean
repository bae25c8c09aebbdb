import PageLayout.Proofs.Compilation.Directive

/-!
# Runs

`Runs` tells what is done with a file, a script or some lines, and which files are
asked for and read meanwhile.  Nothing bounds how deep files import one another here.
A run is determined by its task, and `once_of_runs` says that no file is read in it
twice, and that the files which were read in the end are those that were asked for.
-/

namespace PageLayout

/-! ## Tasks and events -/

/-- What happens to the files of a compilation. -/
inductive Event where
  /-- A file is asked for that can be read. -/
  | asked (identity : String)
  /-- The text of a file is read, line by line or as a script. -/
  | ran (identity : String)
deriving DecidableEq, Repr

/-- The files that are read, in order. -/
def ranIn (log : List Event) : List String :=
  log.filterMap fun
    | .asked _ => none
    | .ran identity => some identity

/-- A part of a compilation. -/
inductive Task where
  /-- A file that a path asks for. -/
  | file (requested : String) (place : Option Place) (s : Store)
  /-- The text of a file. -/
  | text (path text : String) (s : Store)
  /-- A script that a path asks for. -/
  | script (requested : String) (place : Place) (s : Store)
  /-- The lines of a file from one on. -/
  | lines (p : Progress) (lines : List Line)

/-- What a path leads to. -/
inductive Lead where
  /-- No file that can be read. -/
  | missing (reason : String)
  /-- A file that was read before. -/
  | known (text : String)
  /-- Another file. -/
  | new (text : String)

/-- The store before a task. -/
def Task.store : Task → Store
  | .file _ _ s => s
  | .text _ _ s => s
  | .script _ _ s => s
  | .lines p _ => p.store

/-- The task that a directive gives, if it asks for a file. -/
def Directive.task? (d : Directive) (place : Place) (s : Store) : Option Task :=
  match d with
  | .importFile path => some (.file path (some place) s)
  | .loadScript path => some (.script path place s)
  | _ => none

/-- The outcome of a file, seen from the file that imports it. -/
def leaving : Except Abort Store → Except Abort Store
  | .ok s => .ok s.outside
  | .error a => .error { a with trail := a.trail.leave }

namespace Job

variable {π : Type}

/-- What a path leads to, inside the file that is being read. -/
def lead (j : Job π) (s : Store) (requested : String) : Lead :=
  match j.source.read (s.trail.resolve requested) with
  | .error reason => .missing reason
  | .ok text =>
      if s.trail.hasLoaded (fileIdentity (s.trail.resolve requested) text) then .known text
      else .new text

/-- A line is a directive that asks for a file.  The progress is that after the
pending object block was completed. -/
inductive Asks (j : Job π) (p : Progress) (line : Line) : Progress → Task → Prop
  | intro {p' : Progress} {rest : List Char} {text : String} {d : Directive} {t : Task} :
      line.indented = false → j.settle p = .ok p' →
        LineKind.of p'.cursor.defining line.text.toList = .directive rest →
          j.substitute p'.store none line.place (String.ofList rest) = .ok text →
            Directive.ofText (Text.trimmed text) = .ok d →
              d.task? line.place p'.store = some t → Asks j p line p' t

/-- A directive on a line that asks for no file is neither an import nor a script. -/
theorem ne_of_not_asks {j : Job π} {p p' : Progress} {line : Line} {rest : List Char}
    {text : String} {d : Directive} (h : ∀ p' t, ¬j.Asks p line p' t) (hindented : line.indented = false)
    (hsettle : j.settle p = .ok p')
    (hk : LineKind.of p'.cursor.defining line.text.toList = .directive rest)
    (ht : j.substitute p'.store none line.place (String.ofList rest) = .ok text)
    (hd : Directive.ofText (Text.trimmed text) = .ok d) :
    (∀ path, d ≠ .importFile path) ∧ ∀ path, d ≠ .loadScript path := by
  constructor
  · rintro path rfl
    exact h _ _ (.intro hindented hsettle hk ht hd rfl)
  · rintro path rfl
    exact h _ _ (.intro hindented hsettle hk ht hd rfl)

/-- A line asks for one file at most. -/
theorem Asks.deterministic {j : Job π} {p p₁ p₂ : Progress} {line : Line} {t₁ t₂ : Task}
    (h₁ : j.Asks p line p₁ t₁) (h₂ : j.Asks p line p₂ t₂) : p₁ = p₂ ∧ t₁ = t₂ := by
  cases h₁ with
  | intro _ hs hk ht hd htask =>
      cases h₂ with
      | intro _ hs' hk' ht' hd' htask' =>
          rw [hs] at hs'
          cases hs'
          rw [hk] at hk'
          cases hk'
          rw [ht] at ht'
          cases ht'
          rw [hd] at hd'
          cases hd'
          rw [htask] at htask'
          cases htask'
          exact ⟨rfl, rfl⟩

/-! ## Runs -/

variable [Page π]

/-- What happens to files during a task, and how it ends. -/
inductive Runs (j : Job π) : Task → List Event → Except Abort Store → Prop
  | unreadable {requested reason : String} {place : Option Place} {s : Store} :
      j.lead s requested = .missing reason →
        Runs j (.file requested place s) []
          (.error ⟨.unreadable (s.trail.resolve requested) reason place, s.trail⟩)
  | again {requested text : String} {place : Option Place} {s : Store} :
      j.lead s requested = .known text →
        Runs j (.file requested place s)
          [.asked (fileIdentity (s.trail.resolve requested) text)] (.ok s)
  | fresh {requested text : String} {place : Option Place} {s : Store} {log : List Event}
      {done : Except Abort Store} :
      j.lead s requested = .new text →
        Runs j (.text (s.trail.resolve requested) text s) log done →
          Runs j (.file requested place s) log done
  | badText {path text : String} {s : Store} {error : LayoutError} :
      s.trail.hasLoaded (fileIdentity path text) = false → Line.scan text path 0 = .error error →
        Runs j (.text path text s) [.asked (fileIdentity path text), .ran (fileIdentity path text)]
          (.error ⟨error, (s.marked path text).trail⟩)
  | text {path text : String} {s : Store} {lines : List Line} {log : List Event}
      {done : Except Abort Store} :
      s.trail.hasLoaded (fileIdentity path text) = false → Line.scan text path 0 = .ok lines →
        Runs j (.lines ⟨s.inside path text, .start⟩ lines) log done →
          Runs j (.text path text s)
            (.asked (fileIdentity path text) :: .ran (fileIdentity path text) :: log) (leaving done)
  | noScript {requested reason : String} {place : Place} {s : Store} :
      j.lead s requested = .missing reason →
        Runs j (.script requested place s) []
          (.error ⟨.unreadable (s.trail.resolve requested) reason (some place), s.trail⟩)
  | scriptAgain {requested text : String} {place : Place} {s : Store} :
      j.lead s requested = .known text →
        Runs j (.script requested place s)
          [.asked (fileIdentity (s.trail.resolve requested) text)] (.ok s)
  | badScript {requested text : String} {cause : EvalError} {place : Place} {s : Store} :
      j.lead s requested = .new text →
        j.evaluator.definitions (s.trail.resolve requested) text
            (j.scope (s.marked (s.trail.resolve requested) text) none) = .error cause →
          Runs j (.script requested place s)
            [.asked (fileIdentity (s.trail.resolve requested) text),
              .ran (fileIdentity (s.trail.resolve requested) text)]
            (.error ⟨.evaluation (.badScript (s.trail.resolve requested) cause) place, s.trail⟩)
  | script {requested text : String} {place : Place} {s : Store}
      {definitions : List (String × Value)} :
      j.lead s requested = .new text →
        j.evaluator.definitions (s.trail.resolve requested) text
            (j.scope (s.marked (s.trail.resolve requested) text) none) = .ok definitions →
          Runs j (.script requested place s)
            [.asked (fileIdentity (s.trail.resolve requested) text),
              .ran (fileIdentity (s.trail.resolve requested) text)]
            (.ok { s.marked (s.trail.resolve requested) text with
              values := s.values.insertAll definitions })
  | finish {p : Progress} : Runs j (.lines p []) [] (p.store.attempt (j.finish p))
  | asks {p p' : Progress} {line : Line} {lines : List Line} {t : Task} {s : Store}
      {log log' : List Event} {done : Except Abort Store} :
      j.Asks p line p' t → Runs j t log (.ok s) → Runs j (.lines ⟨s, p'.cursor⟩ lines) log' done →
        Runs j (.lines p (line :: lines)) (log ++ log') done
  | asksInVain {p p' : Progress} {line : Line} {lines : List Line} {t : Task} {a : Abort}
      {log : List Event} :
      j.Asks p line p' t → Runs j t log (.error a) →
        Runs j (.lines p (line :: lines)) log (.error a)
  | line {p p' : Progress} {line : Line} {lines : List Line} {load : Loader}
      {log : List Event} {done : Except Abort Store} :
      (∀ p' t, ¬j.Asks p line p' t) → j.feed load p line = .ok p' →
        Runs j (.lines p' lines) log done → Runs j (.lines p (line :: lines)) log done
  | badLine {p : Progress} {line : Line} {lines : List Line} {load : Loader} {a : Abort} :
      (∀ p' t, ¬j.Asks p line p' t) → j.feed load p line = .error a →
        Runs j (.lines p (line :: lines)) [] (.error a)

/-! ## Lines -/

variable {j : Job π} {load : Loader}

/-- A line that asks for a file leaves it to the loader, or else loads a script. -/
theorem feed_of_asks {p p' : Progress} {line : Line} {t : Task} (h : j.Asks p line p' t) :
    p'.store.trail = p.store.trail ∧
      ((∃ path, t = .file path (some line.place) p'.store ∧ ∀ load,
          j.feed load p line =
            load path line.place p'.store >>= fun s => .ok ⟨s, p'.cursor⟩) ∨
        ∃ path, t = .script path line.place p'.store ∧ ∀ load,
          j.feed load p line =
            p'.store.attempt (j.loadScript p'.store path line.place) >>= fun s =>
              .ok ⟨s, p'.cursor⟩) := by
  cases h with
  | @intro rest text d _ hindented hsettle hk ht hd htask =>
      refine ⟨(settle_ok hsettle).2, ?_⟩
      have hfeed : ∀ load, j.feed load p line =
          j.directed load p' line.place (Text.trimmed text) := by
        intro load
        rw [feed_not_indented p hindented, hsettle, attempt_ok, ok_bind, opened_eq, hk]
        dsimp only
        rw [ht, attempt_ok, ok_bind]
      cases d with
      | importFile path =>
          cases htask
          refine .inl ⟨path, rfl, fun load => ?_⟩
          rw [hfeed, directed_importFile hd]
      | loadScript path =>
          cases htask
          refine .inr ⟨path, rfl, fun load => ?_⟩
          rw [hfeed, directed_loadScript hd]
      | _ => cases htask

/-- A line that asks for no file does not depend on the loader. -/
theorem feed_of_not_asks {p : Progress} {line : Line} (h : ∀ p' t, ¬j.Asks p line p' t)
    (load load' : Loader) : j.feed load p line = j.feed load' p line := by
  by_cases hindented : line.indented = true
  · rw [feed_indented p hindented, feed_indented p hindented]
  · rw [Bool.not_eq_true] at hindented
    rw [feed_not_indented p hindented, feed_not_indented p hindented]
    cases hsettle : j.settle p with
    | error error => rw [attempt_error, error_bind, error_bind]
    | ok p' =>
        rw [attempt_ok, ok_bind, ok_bind, opened_eq, opened_eq]
        cases hk : LineKind.of p'.cursor.defining line.text.toList with
        | directive rest =>
            dsimp only
            cases ht : j.substitute p'.store none line.place (String.ofList rest) with
            | error error => rw [attempt_error, error_bind, error_bind]
            | ok text =>
                rw [attempt_ok, ok_bind, ok_bind]
                refine directed_eq_of_ne_import (fun path hd => ?_) load load'
                exact (ne_of_not_asks h hindented hsettle hk ht hd).1 path rfl
        | _ => dsimp only

/-- A line that asks for no file leaves the trail alone. -/
theorem trail_of_feed {p p' : Progress} {line : Line} (h : ∀ p' t, ¬j.Asks p line p' t)
    (hfeed : j.feed load p line = .ok p') : p'.store.trail = p.store.trail := by
  by_cases hindented : line.indented = true
  · rw [feed_indented p hindented, attempt_eq_ok_iff] at hfeed
    by_cases hb : ∃ block, p.cursor.pending = .object block
    · obtain ⟨block, hb⟩ := hb
      rw [continued_object line hb] at hfeed
      cases hfeed
      rfl
    · obtain ⟨hs, _, _⟩ := continued_ok hfeed fun block h => hb ⟨block, h⟩
      exact hs.trail
  · rw [Bool.not_eq_true] at hindented
    rw [feed_not_indented p hindented] at hfeed
    obtain ⟨p₁, hsettle, hfeed⟩ := bind_eq_ok_iff.1 hfeed
    rw [attempt_eq_ok_iff] at hsettle
    refine Eq.trans ?_ (settle_ok hsettle).2
    have hopens := opened_ok hfeed
    generalize hk : LineKind.of p₁.cursor.defining line.text.toList = kind at hopens
    cases hopens with
    | definition hs => exact (extends_of_define hs).trail
    | directive ht hd hdirects =>
        obtain ⟨himport, hscript⟩ := ne_of_not_asks h hindented hsettle hk ht hd
        exact hdirects.trail himport hscript
    | _ => rfl

/-! ## A task has one run -/

/-- A script has one run. -/
theorem Runs.deterministic_script {requested : String} {place : Place} {s : Store}
    {log log' : List Event} {done done' : Except Abort Store}
    (h : j.Runs (.script requested place s) log done)
    (h' : j.Runs (.script requested place s) log' done') : log = log' ∧ done = done' := by
  cases h with
  | noScript hr =>
      cases h' with
      | noScript hr' =>
          rw [hr] at hr'
          cases hr'
          exact ⟨rfl, rfl⟩
      | scriptAgain hr' | badScript hr' | script hr' => simp [hr] at hr'
  | scriptAgain hr =>
      cases h' with
      | scriptAgain hr' =>
          rw [hr] at hr'
          cases hr'
          exact ⟨rfl, rfl⟩
      | noScript hr' | badScript hr' | script hr' => simp [hr] at hr'
  | badScript hr hd =>
      cases h' with
      | noScript hr' | scriptAgain hr' => simp [hr] at hr'
      | badScript hr' hd' =>
          rw [hr] at hr'
          cases hr'
          rw [hd] at hd'
          cases hd'
          exact ⟨rfl, rfl⟩
      | script hr' hd' =>
          rw [hr] at hr'
          cases hr'
          simp [hd] at hd'
  | script hr hd =>
      cases h' with
      | noScript hr' | scriptAgain hr' => simp [hr] at hr'
      | badScript hr' hd' =>
          rw [hr] at hr'
          cases hr'
          simp [hd] at hd'
      | script hr' hd' =>
          rw [hr] at hr'
          cases hr'
          rw [hd] at hd'
          cases hd'
          exact ⟨rfl, rfl⟩

/-- A task has one run. -/
theorem Runs.deterministic {t : Task} {log log' : List Event} {done done' : Except Abort Store}
    (h : j.Runs t log done) (h' : j.Runs t log' done') : log = log' ∧ done = done' := by
  induction h generalizing log' done' with
  | unreadable hr =>
      cases h' with
      | unreadable hr' =>
          rw [hr] at hr'
          cases hr'
          exact ⟨rfl, rfl⟩
      | again hr' | fresh hr' => simp [hr] at hr'
  | again hr =>
      cases h' with
      | again hr' =>
          rw [hr] at hr'
          cases hr'
          exact ⟨rfl, rfl⟩
      | unreadable hr' | fresh hr' => simp [hr] at hr'
  | fresh hr _ ih =>
      cases h' with
      | unreadable hr' | again hr' => simp [hr] at hr'
      | fresh hr' ht' =>
          rw [hr] at hr'
          cases hr'
          exact ih ht'
  | badText _ hs =>
      cases h' with
      | badText _ hs' =>
          rw [hs] at hs'
          cases hs'
          exact ⟨rfl, rfl⟩
      | text _ hs' => simp [hs] at hs'
  | text _ hs _ ih =>
      cases h' with
      | badText _ hs' => simp [hs] at hs'
      | text _ hs' hl' =>
          rw [hs] at hs'
          cases hs'
          obtain ⟨rfl, rfl⟩ := ih hl'
          exact ⟨rfl, rfl⟩
  | noScript hr => exact deterministic_script (.noScript hr) h'
  | scriptAgain hr => exact deterministic_script (.scriptAgain hr) h'
  | badScript hr hd => exact deterministic_script (.badScript hr hd) h'
  | script hr hd => exact deterministic_script (.script hr hd) h'
  | finish =>
      cases h'
      exact ⟨rfl, rfl⟩
  | asks ha _ _ ih ih' =>
      cases h' with
      | asks ha' ht' hl' =>
          obtain ⟨rfl, rfl⟩ := ha.deterministic ha'
          obtain ⟨rfl, hs⟩ := ih ht'
          cases hs
          obtain ⟨rfl, rfl⟩ := ih' hl'
          exact ⟨rfl, rfl⟩
      | asksInVain ha' ht' =>
          obtain ⟨rfl, rfl⟩ := ha.deterministic ha'
          cases (ih ht').2
      | line hn | badLine hn => exact absurd ha (hn _ _)
  | asksInVain ha _ ih =>
      cases h' with
      | asks ha' ht' =>
          obtain ⟨rfl, rfl⟩ := ha.deterministic ha'
          cases (ih ht').2
      | asksInVain ha' ht' =>
          obtain ⟨rfl, rfl⟩ := ha.deterministic ha'
          exact ih ht'
      | line hn | badLine hn => exact absurd ha (hn _ _)
  | @line _ _ _ _ load _ _ hn hf _ ih =>
      cases h' with
      | asks ha' | asksInVain ha' => exact absurd ha' (hn _ _)
      | line _ hf' hl' =>
          rw [feed_of_not_asks hn _ load, hf] at hf'
          cases hf'
          exact ih hl'
      | badLine _ hf' =>
          rw [feed_of_not_asks hn _ load, hf] at hf'
          cases hf'
  | @badLine _ _ _ load _ hn hf =>
      cases h' with
      | asks ha' | asksInVain ha' => exact absurd ha' (hn _ _)
      | line _ hf' =>
          rw [feed_of_not_asks hn _ load, hf] at hf'
          cases hf'
      | badLine _ hf' =>
          rw [feed_of_not_asks hn _ load, hf] at hf'
          cases hf'
          exact ⟨rfl, rfl⟩

end Job

end PageLayout
