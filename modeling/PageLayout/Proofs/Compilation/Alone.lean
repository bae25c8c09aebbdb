import PageLayout.Proofs.Compilation.Commute
import PageLayout.Proofs.Compilation.Termination

/-!
# Lines that read nothing else

The lines of a file can be read in parts: `readTo` reads some of them to the end of the last
object block, and `readRest` reads those that are left, to the end of the file.  This is the
same as reading them at once wherever the second part starts with a line that is not indented
(`readRest_append`).

Lines that ask for files only where there are none (`AsksInVain`) do the same in every shifted
compilation (`AsksInVain.readRest_shift`).  Whether they do depends on the lines and the
progress alone, not on where the lines stand.
-/

namespace PageLayout

/-- No line is first, or one that is not indented. -/
def Line.StartFlush (lines : List Line) : Prop := ∀ line ∈ lines.head?, line.indented = false

namespace Job

variable {π : Type} [Page π] {j : Job π} {load : Loader} {p : Progress} {xs ys : List Line}

/-! ## Reading in parts -/

/-- The progress after some lines, with nothing left pending. -/
def readTo (j : Job π) (load : Loader) (p : Progress) (lines : List Line) :
    Except Abort Progress := do
  let p' ← lines.foldlM (j.feed load) p
  p'.store.attempt (j.settle p')

/-- The store after the last lines of a file. -/
def readRest (j : Job π) (load : Loader) (p : Progress) (lines : List Line) :
    Except Abort Store := do
  let p' ← lines.foldlM (j.feed load) p
  p'.store.attempt (j.finish p')

theorem pending_of_readTo {p' : Progress} {lines : List Line} (h : j.readTo load p lines = .ok p') :
    p'.cursor.pending = .nothing := by
  obtain ⟨p₁, _, hsettle⟩ := bind_eq_ok_iff.1 h
  exact (settle_ok (attempt_eq_ok_iff.1 hsettle)).1

omit [Page π] in
/-- What is pending can be completed twice. -/
theorem settle_settle (p : Progress) :
    p.store.attempt (j.settle p) =
      p.store.attempt (j.settle p) >>= fun p' => p'.store.attempt (j.settle p') := by
  cases hs : j.settle p with
  | error error => rfl
  | ok p' =>
      rw [attempt_ok, ok_bind, settle_nothing (settle_ok hs).1]
      rfl

/-- What is pending can be completed before the next line that is not indented. -/
theorem readTo_eq_settle (h : Line.StartFlush ys) (p : Progress) :
    j.readTo load p ys = p.store.attempt (j.settle p) >>= fun p' => j.readTo load p' ys := by
  cases ys with
  | nil => exact settle_settle p
  | cons line ys =>
      unfold readTo
      rw [List.foldlM_cons, feed_eq_settle_feed p (h line rfl)]
      simp only [bind_assoc, List.foldlM_cons]

theorem readRest_eq_settle (h : Line.StartFlush ys) (p : Progress) :
    j.readRest load p ys = p.store.attempt (j.settle p) >>= fun p' => j.readRest load p' ys := by
  cases ys with
  | nil => exact finish_eq_settle_finish p
  | cons line ys =>
      unfold readRest
      rw [List.foldlM_cons, feed_eq_settle_feed p (h line rfl)]
      simp only [bind_assoc, List.foldlM_cons]

/-- Lines can be read in two parts. -/
theorem readTo_append (h : Line.StartFlush ys) (p : Progress) (xs : List Line) :
    j.readTo load p (xs ++ ys) = j.readTo load p xs >>= fun p' => j.readTo load p' ys := by
  have hsettle : (fun p' => j.readTo load p' ys) = fun p' =>
      p'.store.attempt (j.settle p') >>= fun p' => j.readTo load p' ys :=
    funext (readTo_eq_settle h)
  have hparts : j.readTo load p (xs ++ ys) =
      xs.foldlM (j.feed load) p >>= fun p' => j.readTo load p' ys := by
    unfold readTo
    rw [List.foldlM_append, bind_assoc]
  rw [hparts, readTo, bind_assoc]
  exact congrArg (xs.foldlM (j.feed load) p >>= ·) hsettle

/-- The lines of a file can be read in two parts. -/
theorem readRest_append (h : Line.StartFlush ys) (p : Progress) (xs : List Line) :
    j.readRest load p (xs ++ ys) = j.readTo load p xs >>= fun p' => j.readRest load p' ys := by
  have hsettle : (fun p' => j.readRest load p' ys) = fun p' =>
      p'.store.attempt (j.settle p') >>= fun p' => j.readRest load p' ys :=
    funext (readRest_eq_settle h)
  have hparts : j.readRest load p (xs ++ ys) =
      xs.foldlM (j.feed load) p >>= fun p' => j.readRest load p' ys := by
    unfold readRest
    rw [List.foldlM_append, bind_assoc]
  rw [hparts, readTo, bind_assoc]
  exact congrArg (xs.foldlM (j.feed load) p >>= ·) hsettle

/-! ## Lines that ask in vain -/

/-- What a task asks for cannot be read. -/
def Vain (j : Job π) : Task → Prop
  | .file requested _ s | .script requested _ s =>
      ∃ reason, j.source.read (s.trail.resolve requested) = .error reason
  | _ => False

/-- Whatever some lines ask for cannot be read. -/
def AsksInVain (j : Job π) (load : Loader) : Progress → List Line → Prop
  | _, [] => True
  | p, line :: lines =>
      (∀ p' t, j.Asks p line p' t → j.Vain t) ∧
        ∀ p', j.feed load p line = .ok p' → AsksInVain j load p' lines

omit [Page π] in
theorem lead_of_read_error {s : Store} {requested reason : String}
    (h : j.source.read (s.trail.resolve requested) = .error reason) :
    j.lead s requested = .missing reason := by
  rw [lead, h]

theorem loader_of_read_error {s : Store} {requested reason : String} (place : Place)
    (h : j.source.read (s.trail.resolve requested) = .error reason) :
    j.loader requested place s =
      .error ⟨.unreadable (s.trail.resolve requested) reason (some place), s.trail⟩ := by
  unfold loader
  rw [processFile_eq, lead_of_read_error h]

omit [Page π] in
theorem loadScript_of_read_error {s : Store} {requested reason : String} (place : Place)
    (h : j.source.read (s.trail.resolve requested) = .error reason) :
    j.loadScript s requested place =
      .error (.unreadable (s.trail.resolve requested) reason (some place)) := by
  rw [loadScript_eq, lead_of_read_error h]

/-- The text of a file is read. -/
theorem ne_nil_of_runs_text {path text : String} {s : Store} {log : List Event}
    {done : Except Abort Store} (h : j.Runs (.text path text s) log done) : log ≠ [] := by
  cases h <;> exact List.cons_ne_nil _ _

/-- Without a file to read, what a line asks for cannot be read. -/
theorem vain_of_runs_nil {p' : Progress} {line : Line} {t : Task} {done : Except Abort Store}
    (hasks : j.Asks p line p' t) (h : j.Runs t [] done) : j.Vain t := by
  obtain ⟨_, ⟨path, rfl, _⟩ | ⟨path, rfl, _⟩⟩ := feed_of_asks hasks
  · cases h with
    | fresh _ ht => exact absurd rfl (ne_nil_of_runs_text ht)
    | unreadable hl => exact ⟨_, read_of_lead_missing hl⟩
  · cases h with
    | noScript hl => exact ⟨_, read_of_lead_missing hl⟩

/-- A line that asks for something in vain is not read without an error. -/
theorem feed_ne_ok_of_vain {p' : Progress} {line : Line} {t : Task} (hasks : j.Asks p line p' t)
    (h : j.Vain t) (p₁ : Progress) : j.feed j.loader p line ≠ .ok p₁ := by
  intro hfeed
  obtain ⟨_, ⟨path, rfl, heq⟩ | ⟨path, rfl, heq⟩⟩ := feed_of_asks hasks
  · obtain ⟨reason, hread⟩ := h
    rw [heq, loader_of_read_error _ hread] at hfeed
    cases hfeed
  · obtain ⟨reason, hread⟩ := h
    rw [heq, loadScript_of_read_error _ hread] at hfeed
    cases hfeed

/-- Lines that are read without a file to read ask in vain. -/
theorem asksInVain_of_runs {lines : List Line} {done : Except Abort Store}
    (h : j.Runs (.lines p lines) [] done) : j.AsksInVain j.loader p lines := by
  induction lines generalizing p with
  | nil => trivial
  | cons line lines ih =>
      have hvain : ∀ {p' t answer}, j.Asks p line p' t → j.Runs t [] answer →
          j.AsksInVain j.loader p (line :: lines) := by
        intro p' t answer ha ht
        have hvain := vain_of_runs_nil ha ht
        refine ⟨fun p₁ t₁ ha₁ => ?_, fun p₁ hp₁ => absurd hp₁ (feed_ne_ok_of_vain ha hvain p₁)⟩
        obtain ⟨rfl, rfl⟩ := ha.deterministic ha₁
        exact hvain
      generalize hlog : ([] : List Event) = log at h
      cases h with
      | asks ha ht _ =>
          obtain ⟨rfl, rfl⟩ := List.append_eq_nil_iff.1 hlog.symm
          exact hvain ha ht
      | asksInVain ha ht =>
          subst hlog
          exact hvain ha ht
      | @line _ p₁ _ _ load _ _ hn hf hl =>
          subst hlog
          refine ⟨fun p' t ha => absurd ha (hn p' t), fun p' hf' => ?_⟩
          rw [feed_of_not_asks hn _ load, hf] at hf'
          cases hf'
          exact ih hl
      | @badLine _ _ _ load _ hn hf =>
          refine ⟨fun p' t ha => absurd ha (hn p' t), fun p' hf' => ?_⟩
          rw [feed_of_not_asks hn _ load, hf] at hf'
          cases hf'

/-! ## Shifted compilations -/

variable {σ : Shift}

/-- An error that something cannot be read is the same error in a shifted compilation. -/
theorem commutes_of_vain {t : Task} (h : j.Vain t) : j.Commutes j.loader σ t := by
  have hshift : ∀ {s : Store} {requested reason : String},
      j.source.read (s.trail.resolve requested) = .error reason →
        j.source.read ((s.shift σ).trail.resolve requested) = .error reason := fun h => h
  cases t with
  | file requested place s =>
      obtain ⟨reason, hread⟩ := h
      cases place with
      | none => trivial
      | some place =>
          show j.loader requested (σ.place place) (s.shift σ) = _
          rw [loader_of_read_error _ hread, loader_of_read_error _ (hshift hread)]
          rfl
  | script requested place s =>
      obtain ⟨reason, hread⟩ := h
      show j.loadScript (s.shift σ) requested (σ.place place) = _
      rw [loadScript_of_read_error _ hread, loadScript_of_read_error _ (hshift hread)]
      rfl
  | text | lines => trivial

omit [Page π] in
theorem vain_task? (d : Directive) (place : Place) (s : Store) :
    (∀ t, d.task? (σ.place place) (s.shift σ) = some t → j.Vain t) ↔
      ∀ t, d.task? place s = some t → j.Vain t := by
  cases d with
  | importFile path | loadScript path =>
      simp only [Directive.task?, Option.some.injEq, forall_eq']
      exact Iff.rfl
  | _ => simp [Directive.task?]

omit [Page π] in
/-- A line asks in vain if it does so in a shifted compilation. -/
theorem vain_shift (hσ : σ.index = 0) (p : Progress) (line : Line) :
    (∀ q t, j.Asks (p.shift σ) (line.moved σ.place) q t → j.Vain t) ↔
      ∀ q t, j.Asks p line q t → j.Vain t := by
  have hsettle : j.settle (p.shift σ) =
      both (LayoutError.moved σ.place) (Progress.shift σ) (j.settle p) :=
    j.settle_shift (hσ ▸ Nat.zero_le _)
  constructor
  · intro h q t hasks
    cases hasks with
    | @intro rest text d _ hindented hs hk ht hd htask =>
        have hs' : j.settle (p.shift σ) = .ok (q.shift σ) := by rw [hsettle, hs, both_ok]
        have ht' : j.substitute (q.shift σ).store none (σ.place line.place) (String.ofList rest) =
            .ok text := by
          rw [Progress.shift, substitute_shift, ht, both_ok, id]
        exact (vain_task? d line.place q.store).1
          (fun t' htask' => h (q.shift σ) t' (.intro hindented hs' hk ht' hd htask')) t htask
  · intro h q t hasks
    cases hasks with
    | @intro rest text d _ hindented hs hk ht hd htask =>
        rw [hsettle, both_eq_ok_iff] at hs
        obtain ⟨p', hs, rfl⟩ := hs
        have ht' : j.substitute p'.store none line.place (String.ofList rest) = .ok text := by
          have ht : j.substitute (p'.store.shift σ) none (σ.place line.place) (String.ofList rest) =
              .ok text := ht
          rw [substitute_shift, both_eq_ok_iff] at ht
          obtain ⟨_, hsame, rfl⟩ := ht
          exact hsame
        exact (vain_task? d line.place p'.store).2
          (fun t' htask' => h p' t' (.intro hindented hs hk ht' hd htask')) t htask

/-- A line that asks in vain is read alike in a shifted compilation. -/
theorem feed_shift_of_vain (hσ : σ.index = 0) {line : Line}
    (h : ∀ q t, j.Asks p line q t → j.Vain t) :
    j.feed j.loader (p.shift σ) (line.moved σ.place) =
      both (Abort.shift σ) (Progress.shift σ) (j.feed j.loader p line) :=
  feed_shift (hσ ▸ Nat.zero_le _) fun q t hasks => commutes_of_vain (h q t hasks)

/-- Whether lines ask in vain does not depend on where they stand. -/
theorem asksInVain_shift (hσ : σ.index = 0) {lines : List Line} :
    j.AsksInVain j.loader (p.shift σ) (lines.map (Line.moved σ.place)) ↔
      j.AsksInVain j.loader p lines := by
  induction lines generalizing p with
  | nil => exact Iff.rfl
  | cons line lines ih =>
      rw [List.map_cons, AsksInVain, AsksInVain, vain_shift hσ]
      refine and_congr_right fun hvain => ?_
      rw [feed_shift_of_vain hσ hvain]
      constructor
      · intro h p' hp'
        exact ih.1 (h (p'.shift σ) (by rw [hp', both_ok]))
      · intro h q hq
        obtain ⟨p', hp', rfl⟩ := both_eq_ok_iff.1 hq
        exact ih.2 (h p' hp')

namespace AsksInVain

variable {lines : List Line}

/-- Lines that ask in vain are read alike in a shifted compilation. -/
theorem foldlM_shift (hσ : σ.index = 0) (h : j.AsksInVain j.loader p lines) :
    (lines.map (Line.moved σ.place)).foldlM (j.feed j.loader) (p.shift σ) =
      both (Abort.shift σ) (Progress.shift σ) (lines.foldlM (j.feed j.loader) p) := by
  induction lines generalizing p with
  | nil => rfl
  | cons line lines ih =>
      rw [List.map_cons, List.foldlM_cons, List.foldlM_cons]
      exact bind_both (feed_shift_of_vain hσ h.1) fun p' hp' => ih (h.2 p' hp')

theorem readTo_shift (hσ : σ.index = 0) (h : j.AsksInVain j.loader p lines) :
    j.readTo j.loader (p.shift σ) (lines.map (Line.moved σ.place)) =
      both (Abort.shift σ) (Progress.shift σ) (j.readTo j.loader p lines) :=
  bind_both (h.foldlM_shift hσ) fun _ _ => attempt_shift (j.settle_shift (hσ ▸ Nat.zero_le _))

theorem readRest_shift (hσ : σ.index = 0) (h : j.AsksInVain j.loader p lines) :
    j.readRest j.loader (p.shift σ) (lines.map (Line.moved σ.place)) =
      both (Abort.shift σ) (Store.shift σ) (j.readRest j.loader p lines) :=
  bind_both (h.foldlM_shift hσ) fun _ _ => finish_shift (hσ ▸ Nat.zero_le _)

end AsksInVain

/-! ## Parts of lines that ask in vain -/

theorem asksInVain_append :
    j.AsksInVain load p (xs ++ ys) ↔
      j.AsksInVain load p xs ∧
        ∀ p', xs.foldlM (j.feed load) p = .ok p' → j.AsksInVain load p' ys := by
  induction xs generalizing p with
  | nil => simp [AsksInVain, pure, Except.pure]
  | cons line xs ih =>
      rw [List.cons_append, AsksInVain, AsksInVain, and_assoc]
      refine and_congr_right fun _ => ?_
      simp only [ih, List.foldlM_cons, bind_eq_ok_iff, forall_exists_index, and_imp]
      constructor
      · exact fun h => ⟨fun p' hp' => (h p' hp').1, fun p'' p' hp' hp'' => (h p' hp').2 p'' hp''⟩
      · exact fun h p' hp' => ⟨h.1 p' hp', fun p'' hp'' => h.2 p'' p' hp' hp''⟩

omit [Page π] in
/-- A line asks for what it asks for once the pending object block is completed. -/
theorem asks_iff_settle {line : Line} {q : Progress} {t : Task} :
    j.Asks p line q t ↔ ∃ p', j.settle p = .ok p' ∧ j.Asks p' line q t := by
  constructor
  · intro hasks
    cases hasks with
    | intro hindented hs hk ht hd htask =>
        exact ⟨q, hs, .intro hindented (settle_nothing (settle_ok hs).1) hk ht hd htask⟩
  · rintro ⟨p', hs, hasks⟩
    cases hasks with
    | intro hindented hs' hk ht hd htask =>
        rw [settle_nothing (settle_ok hs).1] at hs'
        cases hs'
        exact .intro hindented hs hk ht hd htask

/-- Before a line that is not indented, what is pending can be completed. -/
theorem asksInVain_iff_settle (h : Line.StartFlush ys) :
    j.AsksInVain load p ys ↔ ∀ p', j.settle p = .ok p' → j.AsksInVain load p' ys := by
  cases ys with
  | nil => exact ⟨fun _ _ _ => trivial, fun _ => trivial⟩
  | cons line ys =>
      have hfeed : j.feed load p line =
          p.store.attempt (j.settle p) >>= fun p' => j.feed load p' line :=
        feed_eq_settle_feed p (h line rfl)
      constructor
      · intro hvain p' hs
        rw [hs, attempt_ok, ok_bind] at hfeed
        refine ⟨fun q t hasks => hvain.1 q t (asks_iff_settle.2 ⟨p', hs, hasks⟩), ?_⟩
        rw [← hfeed]
        exact hvain.2
      · intro hvain
        refine ⟨fun q t hasks => ?_, fun q hq => ?_⟩
        · obtain ⟨p', hs, hasks⟩ := asks_iff_settle.1 hasks
          exact (hvain p' hs).1 q t hasks
        · rw [hfeed, bind_eq_ok_iff] at hq
          obtain ⟨p', hs, hq⟩ := hq
          exact (hvain p' (attempt_eq_ok_iff.1 hs)).2 q hq

/-- Lines ask in vain if both of their parts do. -/
theorem asksInVain_append_flush (h : Line.StartFlush ys) :
    j.AsksInVain load p (xs ++ ys) ↔
      j.AsksInVain load p xs ∧
        ∀ p', j.readTo load p xs = .ok p' → j.AsksInVain load p' ys := by
  rw [asksInVain_append]
  refine and_congr_right fun _ => ?_
  constructor
  · intro hvain q hq
    obtain ⟨p', hp', hsettle⟩ := bind_eq_ok_iff.1 hq
    exact (asksInVain_iff_settle h).1 (hvain p' hp') q (attempt_eq_ok_iff.1 hsettle)
  · intro hvain p' hp'
    refine (asksInVain_iff_settle h).2 fun q hsettle => hvain q ?_
    rw [readTo, hp', ok_bind, hsettle, attempt_ok]

/-- Lines that are no directives ask for nothing. -/
theorem asksInVain_of_forall_ne {lines : List Line} (p : Progress)
    (h : ∀ line ∈ lines, line.indented = true ∨
      LineKind.of false line.text.toList = .objectName) : j.AsksInVain load p lines := by
  induction lines generalizing p with
  | nil => trivial
  | cons line lines ih =>
      refine ⟨fun q t hasks => ?_, fun p' _ => ih p' fun l hl => h l (List.mem_cons_of_mem _ hl)⟩
      cases hasks with
      | intro hindented _ hk =>
          obtain hline | hline := h line List.mem_cons_self
          · rw [hindented] at hline
            cases hline
          · rw [LineKind.defining_eq_false hk nofun nofun, hline] at hk
            cases hk

end Job

/-! ## Texts that read nothing else -/

/-- A compilation of a text that is the only file to be asked for and to be read. -/
def Compiler.ReadsAlone {π : Type} [Page π] (c : Compiler π) (page : Option π)
    (text label : String) : Prop :=
  let path := Path.normalize label
  ∃ done, Job.Runs ⟨c, page⟩ (.text path text .start)
    [.asked (fileIdentity path text), .ran (fileIdentity path text)] done

/-- The store inside the first text of a compilation. -/
theorem Store.start_inside (path text : String) :
    Store.start.inside path text =
      ⟨⟨[Path.directory path], [fileIdentity path text]⟩, .empty, .empty, []⟩ := by
  unfold inside
  generalize fileIdentity path text = identity
  rfl

end PageLayout
