import PageLayout.Page.Snapshot
import PageLayout.Proofs.Compilation.Alone
import PageLayout.Proofs.Text.Rows

/-!
# Silent lines do not count

A line that has only blanks, or a comment, says nothing wherever it stands.  `padded` puts
such rows between those of a text, and `movedNumber` tells where a row of the text is then
found.  The lines of the padded text that count are those of the text, moved there
(`scan_padded`).

Lines that are moved give the same layout, or the same error, with its places moved, since
reading commutes with shifts.  Only what a file is asked for cannot be said here: a padded
text is another file than the text.  So the text has to read no file but itself.
-/

namespace PageLayout

/-! ## Padded rows -/

/-- Rows with others before each of them and after the last. -/
def padded (padding : Nat → List (List Char)) : (index : Nat) → List (List Char) → List (List Char)
  | index, [] => padding index
  | index, row :: rows => padding index ++ row :: padded padding (index + 1) rows

/-- How many rows stand before a row in addition. -/
def paddingBefore (padding : Nat → List (List Char)) (index : Nat) : Nat :=
  ((List.range index).flatMap padding).length

/-- The number of a line, counted from one, once its text is padded. -/
def movedNumber (padding : Nat → List (List Char)) (number : Nat) : Nat :=
  number + paddingBefore padding number

/-- Where a line stands, once its text is padded. -/
def Place.padded (padding : Nat → List (List Char)) (p : Place) : Place :=
  { p with line := movedNumber padding p.line }

variable {padding : Nat → List (List Char)}

theorem paddingBefore_succ (padding : Nat → List (List Char)) (index : Nat) :
    paddingBefore padding (index + 1) = paddingBefore padding index + (padding index).length := by
  simp [paddingBefore, List.range_succ]

theorem paddingBefore_mono (padding : Nat → List (List Char)) :
    Monotone (paddingBefore padding) :=
  monotone_nat_of_le_succ fun index => by
    rw [paddingBefore_succ]
    exact Nat.le_add_right ..

/-- A row is found again behind all that was put before it. -/
theorem getElem?_padded {rows : List (List Char)} {index i n : Nat} (hi : i < rows.length)
    (hn : n + paddingBefore padding index = i + paddingBefore padding (index + i + 1)) :
    (padded padding index rows)[n]? = rows[i]? := by
  induction rows generalizing index i n with
  | nil => cases hi
  | cons row rows ih =>
      have hsucc := paddingBefore_succ padding index
      rw [padded]
      cases i with
      | zero =>
          obtain rfl : n = (padding index).length := by
            simp only [Nat.add_zero, Nat.zero_add] at hn
            omega
          rw [List.getElem?_append_right (Nat.le_refl _), Nat.sub_self]
          rfl
      | succ i =>
          have hmono := paddingBefore_mono padding (show index + 1 ≤ index + (i + 1) + 1 by omega)
          obtain ⟨m, rfl⟩ : ∃ m, n = (padding index).length + (m + 1) :=
            ⟨n - (padding index).length - 1, by omega⟩
          rw [List.getElem?_append_right (Nat.le_add_right ..), Nat.add_sub_cancel_left]
          have hindex : index + 1 + i + 1 = index + (i + 1) + 1 := by omega
          exact ih (Nat.lt_of_succ_lt_succ hi) (by rw [hindex]; omega)

/-- A row of a text is found in the padded text where its line is moved. -/
theorem getElem?_movedNumber {rows : List (List Char)} {i : Nat} (hi : i < rows.length) :
    (padded padding 0 rows)[movedNumber padding (i + 1) - 1]? = rows[i]? := by
  refine getElem?_padded hi ?_
  have hzero : paddingBefore padding 0 = 0 := rfl
  rw [hzero, movedNumber, Nat.zero_add]
  omega

namespace Line

/-- Rows that say nothing give no lines. -/
theorem scanFrom_silent {silent : List (List Char)} (h : ∀ raw ∈ silent, isSilent raw = true)
    (file : String) (above number : Nat) (rows : List (List Char)) :
    scanFrom file above number (silent ++ rows) =
      scanFrom file above (number + silent.length) rows := by
  induction silent generalizing number with
  | nil => rfl
  | cons raw silent ih =>
      have hraw : isSilent raw = true := h raw List.mem_cons_self
      have hnumber : number + (raw :: silent).length = number + 1 + silent.length := by
        rw [List.length_cons]
        omega
      rw [List.cons_append, scanFrom, if_pos hraw, hnumber]
      exact ih (fun raw hmem => h raw (List.mem_cons_of_mem _ hmem)) (number + 1)

/-- Padded rows give the lines of the rows, moved. -/
theorem scanFrom_padded (hpadding : ∀ i, ∀ raw ∈ padding i, isSilent raw = true)
    (file : String) (above index : Nat) (rows : List (List Char)) :
    scanFrom file above (index + 1 + paddingBefore padding index) (padded padding index rows) =
      both (LayoutError.moved (Place.padded padding)) (List.map (Line.moved (Place.padded padding)))
        (scanFrom file above (index + 1) rows) := by
  induction rows generalizing above index with
  | nil =>
      have h := scanFrom_silent (hpadding index) file above
        (index + 1 + paddingBefore padding index) []
      rw [List.append_nil] at h
      rw [padded, h]
      rfl
  | cons row rows ih =>
      have hnumber : index + 1 + paddingBefore padding index + (padding index).length =
          movedNumber padding (index + 1) := by
        rw [movedNumber, paddingBefore_succ]
        omega
      have hnext : movedNumber padding (index + 1) + 1 =
          index + 1 + 1 + paddingBefore padding (index + 1) := by
        rw [movedNumber]
        omega
      rw [padded, scanFrom_silent (hpadding index), hnumber, scanFrom, scanFrom, hnext]
      split
      · exact ih above (index + 1)
      · dsimp only
        split
        · rfl
        · exact bind_both (ih _ (index + 1)) fun lines _ => rfl

/-- The lines of a padded text that count are those of the text, moved. -/
theorem scan_padded (hpadding : ∀ i, ∀ raw ∈ padding i, isSilent raw = true) {text text' : String}
    (h : Text.rows text'.toList = padded padding 0 (Text.rows text.toList)) (file : String) :
    scan text' file 0 =
      both (LayoutError.moved (Place.padded padding)) (List.map (Line.moved (Place.padded padding)))
        (scan text file 0) := by
  rw [scan_eq_scanFrom_rows, scan_eq_scanFrom_rows, h]
  exact scanFrom_padded hpadding file 0 0 (Text.rows text.toList)

end Line

/-! ## Results -/

namespace Job

variable {π : Type} {j : Job π} {σ : Shift}

theorem result_leaving (x : Except Abort Store) : j.result (leaving x) = j.result x := by
  cases x <;> rfl

/-- A shifted compilation without more sections has the layout of the other, moved. -/
theorem result_shift (hσ : σ.added = []) (x : Except Abort Store) :
    j.result (both (Abort.shift σ) (Store.shift σ) x) =
      both (LayoutError.moved σ.place) (Layout.moved σ.place) (j.result x) := by
  cases x with
  | error a => rfl
  | ok s =>
      have hlayout : (s.shift σ).layout = s.layout.moved σ.place := by
        unfold Store.layout Layout.moved Store.shift
        rw [hσ, inserted_nil]
      have hempty : (fun own : Section => !own.isEmpty) ∘ Section.moved σ.place =
          fun own => !own.isEmpty := by
        funext own
        simp [Section.isEmpty, Section.moved]
      have hdrop : (s.shift σ).layout.dropEmpty = s.layout.dropEmpty.moved σ.place := by
        unfold Layout.dropEmpty
        rw [hlayout]
        simp only [Layout.moved, List.filter_map, hempty]
      cases hd : j.settings.dropEmptySections with
      | true => simp only [result, both_ok, hd, if_true, hdrop]
      | false => simp only [result, both_ok, hd, Bool.false_eq_true, if_false, hlayout]

end Job

/-- The kinds of errors. -/
inductive ErrorKind where
  | fault
  | indentation
  | unreadable
  | evaluation

namespace LayoutError

/-- The kind of an error. -/
def kind : LayoutError → ErrorKind
  | .fault _ _ => .fault
  | .indentation _ _ => .indentation
  | .unreadable _ _ _ => .unreadable
  | .evaluation _ _ => .evaluation

/-- An error in a line that stands somewhere else is the same error but for its place. -/
theorem same_moved (f : Place → Place) (e : LayoutError) :
    (e.moved f).kind = e.kind ∧ (e.moved f).bare = e.bare ∧ (e.moved f).place? = e.place?.map f := by
  cases e <;> exact ⟨rfl, rfl, rfl⟩

end LayoutError

namespace Compiler

variable {π : Type} [Page π] {c : Compiler π} {page : Option π} {text text' label : String}
  {padding : Nat → List (List Char)}

/-- A padded text is compiled like the text, at other places. -/
theorem compileText_eq_moved (hpadding : ∀ i, ∀ raw ∈ padding i, Line.isSilent raw = true)
    (hrows : Text.rows text'.toList = padded padding 0 (Text.rows text.toList))
    (halone : c.ReadsAlone page text label) :
    c.compileText page text' label =
      both (LayoutError.moved (Place.padded padding)) (Layout.moved (Place.padded padding))
        (c.compileText page text label) := by
  let j : Job π := ⟨c, page⟩
  let path := Path.normalize label
  let σ : Shift := ⟨Place.padded padding, 0, [], fun _ => [fileIdentity path text']⟩
  have hcompile : ∀ text, c.compileText page text label =
      j.result (j.processText j.loader (Store.start.marked path text) path text) := fun _ => rfl
  have hscan := Line.scan_padded hpadding hrows path
  obtain ⟨done, halone⟩ := halone
  rw [hcompile, hcompile, Job.processText_eq, Job.processText_eq, hscan]
  cases halone with
  | badText _ hs =>
      rw [hs]
      rfl
  | text _ hs hlines =>
      rw [hs]
      dsimp only [both_ok]
      have hstart : (Progress.mk (Store.start.inside path text) .start).shift σ =
          ⟨Store.start.inside path text', .start⟩ := by
        rw [Store.start_inside, Store.start_inside]
        rfl
      have hindex : σ.index = 0 := rfl
      have hread := (Job.asksInVain_of_runs hlines).readRest_shift hindex
      rw [hstart] at hread
      rw [Job.result_leaving, Job.result_leaving]
      exact (congrArg j.result hread).trans (Job.result_shift rfl _)

/-- Blank lines and comments between the lines of a text that reads nothing else do not count.
If the text has a layout, the padded text has the same one, and if not, it has the same
error, with all places moved.  Each row of the text is found where its line is moved. -/
theorem compileText_padded (c : Compiler π) (page : Option π) (text text' label : String)
    (padding : Nat → List (List Char))
    (hpadding : ∀ i, ∀ raw ∈ padding i, Line.isSilent raw = true)
    (hrows : Text.rows text'.toList = padded padding 0 (Text.rows text.toList))
    (halone : c.ReadsAlone page text label) :
    (∀ l, c.compileText page text label = .ok l →
      c.compileText page text' label = .ok (l.moved (Place.padded padding))) ∧
    (∀ e, c.compileText page text label = .error e →
      ∃ e', c.compileText page text' label = .error e' ∧ e'.kind = e.kind ∧ e'.bare = e.bare ∧
        e'.place? = e.place?.map (Place.padded padding)) ∧
    ∀ i < (Text.rows text.toList).length,
      (Text.rows text'.toList)[movedNumber padding (i + 1) - 1]? = (Text.rows text.toList)[i]? := by
  have h := compileText_eq_moved hpadding hrows halone
  refine ⟨fun l hl => ?_, fun e he => ?_, fun i hi => ?_⟩
  · rw [h, hl]
    rfl
  · rw [he] at h
    exact ⟨_, h, e.same_moved _⟩
  · rw [hrows]
    exact getElem?_movedNumber hi

/-- Without files to read, a text reads nothing else. -/
theorem log_of_no_files {j : Job π} (hfiles : ∀ path, ∃ reason, j.source.read path = .error reason)
    {t : Task} {log : List Event} {done : Except Abort Store} (h : j.Runs t log done)
    (ht : ∀ path text s, t ≠ .text path text s) : log = [] := by
  have hlead : ∀ s requested, ∃ reason, j.lead s requested = .missing reason := by
    intro s requested
    obtain ⟨reason, hreason⟩ := hfiles (s.trail.resolve requested)
    exact ⟨reason, by rw [Job.lead, hreason]⟩
  have hasked : ∀ {p line p' t}, j.Asks p line p' t → ∀ path text s, t ≠ .text path text s := by
    intro p line p' t ha path text s
    obtain ⟨_, ⟨_, rfl, _⟩ | ⟨_, rfl, _⟩⟩ := Job.feed_of_asks ha <;> rintro ⟨⟩
  induction h with
  | unreadable | noScript | finish | badLine => rfl
  | @again requested _ _ s hl | @fresh requested _ _ s _ _ hl | @scriptAgain requested _ _ s hl
  | @badScript requested _ _ _ s hl | @script requested _ _ s _ hl =>
      obtain ⟨reason, hreason⟩ := hlead s requested
      rw [hl] at hreason
      cases hreason
  | @badText path text s | @text path text s => exact absurd rfl (ht path text s)
  | asks ha _ _ ih ih' => rw [ih (hasked ha), ih' (by rintro _ _ _ ⟨⟩), List.append_nil]
  | asksInVain ha _ ih => exact ih (hasked ha)
  | line _ _ _ ih => exact ih (by rintro _ _ _ ⟨⟩)

/-- Without files to read, every text is read alone. -/
theorem readsAlone_of_no_files (hfiles : ∀ path, ∃ reason, c.source.read path = .error reason)
    (page : Option π) (text label : String) : c.ReadsAlone page text label := by
  let j : Job π := ⟨c, page⟩
  have hbound : ∀ s, unread [] s < 1 := fun s => Nat.lt_succ_of_le (unread_le [] s)
  have hread : ∀ path text, j.source.read path = .ok text → fileIdentity path text ∈ [] := by
    intro path text h
    obtain ⟨reason, hreason⟩ := hfiles path
    rw [hreason] at h
    cases h
  have hload : ∀ requested place s, unread [] s < 1 →
      ∃ log, j.Runs (.file requested (some place) s) log (j.importing 1 requested place s) :=
    fun _ _ _ h => Job.runs_of_processFile hread h
  have hnew : Store.start.trail.hasLoaded (fileIdentity (Path.normalize label) text) = false := rfl
  obtain ⟨log, h⟩ := Job.runs_of_processText hload (hbound _) hnew
  generalize j.processText _ _ _ _ = done at h
  refine ⟨done, ?_⟩
  cases h with
  | badText hnew hs => exact .badText hnew hs
  | text hnew hs hlines =>
      obtain rfl := log_of_no_files hfiles hlines nofun
      exact .text hnew hs hlines

/-- A compiler without files. -/
def bare : Compiler Snapshot := ⟨⟨2.0, true⟩, .empty, .standard, .memory []⟩

/-- A text with definitions, variables and a conditional. -/
def bannerText : String :=
  "===\nbanner id banner\n===\n@@ set\n word Hi\n@@ if\nbanner\n visible\n@@ do\nbanner\n text is: ${word}\n@@ end\n"

/-- The same text with a comment and a blank line inside each of its blocks. -/
def bannerTextPadded : String :=
  "===\n\t# here\n\nbanner id banner\n===\n@@ set\n\t# here\n\n word Hi\n@@ if\nbanner\n\t# here\n\n visible\n@@ do\nbanner\n\t# here\n\n text is: ${word}\n@@ end\n"

/-- The rows that the text is padded with. -/
def bannerPadding (i : Nat) : List (List Char) :=
  if i ∈ [1, 4, 7, 10] then ["\t# here".toList, []] else []

/-- Comments inside the blocks of a text change nothing but the places in its layout. -/
theorem compileText_padded_banner :
    (∃ l, bare.compileText none bannerText "banner" = .ok l ∧
      l.sections.map (·.place) = [⟨"banner", 6⟩] ∧
      bare.compileText none bannerTextPadded "banner" =
        .ok (l.moved (Place.padded bannerPadding)) ∧
      (l.moved (Place.padded bannerPadding)).sections.map (·.place) = [⟨"banner", 10⟩]) ∧
    (Text.rows bannerTextPadded.toList)[movedNumber bannerPadding 6 - 1]? =
      (Text.rows bannerText.toList)[5]? := by
  have hpadding : ∀ i, ∀ raw ∈ bannerPadding i, Line.isSilent raw = true := by
    intro i
    unfold bannerPadding
    split <;> decide
  have hrows : Text.rows bannerTextPadded.toList =
      padded bannerPadding 0 (Text.rows bannerText.toList) := by
    decide +kernel
  obtain ⟨l, hl, hplaces⟩ : ∃ l, bare.compileText none bannerText "banner" = .ok l ∧
      l.sections.map (·.place) = [⟨"banner", 6⟩] :=
    exists_ok_of_toOption (by decide +kernel)
  have halone : bare.ReadsAlone none bannerText "banner" :=
    readsAlone_of_no_files (fun _ => ⟨_, rfl⟩) none bannerText "banner"
  obtain ⟨hok, _, hfound⟩ := compileText_padded bare none bannerText bannerTextPadded "banner"
    bannerPadding hpadding hrows halone
  have hmoved : (l.moved (Place.padded bannerPadding)).sections.map (·.place) =
      (l.sections.map (·.place)).map (Place.padded bannerPadding) := by
    simp [Layout.moved, Section.moved]
  refine ⟨⟨l, hl, hplaces, hok l hl, ?_⟩, hfound 5 (by decide +kernel)⟩
  rw [hmoved, hplaces]
  decide

end Compiler

end PageLayout
