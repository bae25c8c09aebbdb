import PageLayout.Page.Snapshot
import PageLayout.Proofs.Compilation.Placement

/-!
# A layout is what its files say

`Follows` relates a file that is being read to its draft.  Each paragraph keeps the
relation, so a file that is read to its end is a document, and so are the files that
it imports.  The sections of a layout are those of the document of its file.
-/

namespace PageLayout

namespace Job

variable {π : Type} [Page π] {j : Job π} {load : Loader}

/-! ## One paragraph after another -/

/-- The paragraphs that were read of a file are the passages of a draft, and the draft
says what the compilation has found out. -/
structure Follows (j : Job π) (s : Store) (D : Draft) (p : Progress) : Prop where
  spells : j.Spells s D.passages p
  lays : D.Lays s.sections p
  pending : p.cursor.pending = .nothing
  defining : p.cursor.defining = definingAfter D.passages
  indexes : p.cursor.indexes.map (·.1) = indexesAfter D.passages
  reads : ∀ x ∈ D.passages, ∀ r, x.meaning = .content (.file r) → j.Reads r

theorem follows_start (s : Store) : j.Follows s .start ⟨s, .start⟩ where
  spells := .start
  lays := ⟨(List.append_nil _).symm, rfl, rfl⟩
  pending := rfl
  defining := rfl
  indexes := rfl
  reads := nofun

/-- A paragraph becomes a passage of the draft. -/
theorem follows_of_readParagraph {s : Store} {D : Draft} {p p' : Progress} {q : Paragraph}
    (hload : j.Loads load) (h : j.Follows s D p) (hq : q.Indented)
    (hread : j.readParagraph load p q = .ok p') :
    ∃ D' m, D'.passages = D.passages ++ [⟨p.store, q, m⟩] ∧ j.Follows s D' p' := by
  obtain ⟨m, hp⟩ := advances_of_readParagraph hload hread h.pending hq
  obtain ⟨hmeans, hreads⟩ := means_of_advances hp
  obtain ⟨hpending, hdefining, hindexes⟩ := keeps_of_advances hp
  obtain ⟨D', hpassages, hlays⟩ := lays_of_advances p.store h.lays hp
  rw [h.defining, h.indexes] at hmeans
  refine ⟨D', m, hpassages, ?_⟩
  constructor
  · rw [hpassages]
    exact .next h.spells hq hread hmeans
  · exact hlays
  · rw [hpending, h.pending]
  · rw [hpassages, definingAfter_append, hdefining, h.defining]
  · rw [hpassages, indexesAfter_append, hindexes, h.indexes]
  · intro x hx
    rw [hpassages] at hx
    rcases List.mem_append.1 hx with hx | hx
    · exact h.reads x hx
    · obtain rfl := List.mem_singleton.1 hx
      exact hreads

/-- All paragraphs become passages of the draft. -/
theorem follows_of_foldlM {s : Store} {D : Draft} {p p' : Progress} {qs : List Paragraph}
    (hload : j.Loads load) (h : j.Follows s D p) (hqs : ∀ q ∈ qs, q.Indented)
    (hread : qs.foldlM (j.readParagraph load) p = .ok p') :
    ∃ D', D'.passages.map (·.paragraph) = D.passages.map (·.paragraph) ++ qs ∧
      j.Follows s D' p' := by
  induction qs generalizing D p with
  | nil =>
      cases hread
      exact ⟨D, (List.append_nil _).symm, h⟩
  | cons q qs ih =>
      rw [List.foldlM_cons] at hread
      obtain ⟨p₁, hq, hread⟩ := bind_eq_ok_iff.1 hread
      obtain ⟨D₁, m, hpassages, h₁⟩ :=
        follows_of_readParagraph hload h (hqs q List.mem_cons_self) hq
      obtain ⟨D', hpassages', h'⟩ := ih h₁ (fun q hq => hqs q (List.mem_cons_of_mem _ hq)) hread
      refine ⟨D', ?_, h'⟩
      rw [hpassages', hpassages]
      simp

/-! ## Files -/

/-- The first line of a file that is read to its end is not indented. -/
theorem head_not_indented {s s' : Store} {lines : List Line}
    (h : j.readLines load s lines = .ok s') : ∀ line ∈ lines.head?, line.indented = false := by
  intro line hline
  cases lines with
  | nil => cases hline
  | cons first rest =>
      obtain rfl := Option.some.inj hline
      by_contra hindented
      rw [Bool.not_eq_false] at hindented
      obtain ⟨p, hp, _⟩ := bind_eq_ok_iff.1 h
      rw [List.foldlM_cons, feed_indented _ hindented] at hp
      cases hp

/-- A file that is read to its end is a document. -/
theorem reads_of_readLines {s s' : Store} {lines : List Line} (hload : j.Loads load)
    (h : j.readLines load s lines = .ok s') :
    ∃ sections, s'.sections = s.sections ++ sections ∧ j.Reads ⟨s, lines, sections, s'⟩ := by
  have hindented := Paragraph.indented_of_mem_split (head_not_indented h)
  rw [← Paragraph.flatMap_lines_split lines, readLines_eq s hindented] at h
  obtain ⟨p, hp, h⟩ := bind_eq_ok_iff.1 h
  obtain ⟨D, hpassages, hD⟩ := follows_of_foldlM hload (follows_start s) hindented hp
  obtain ⟨hc, rfl⟩ := finish_ok (attempt_eq_ok_iff.1 h) hD.pending
  have ho := hD.lays.opened_of_none hc
  have hdocument : D.passages = D.document.passages := by simp [Draft.passages, ho]
  have hsections : p.store.sections = s.sections ++ D.document.sections := by
    simp [hD.lays.sections, Draft.imported, ho]
  refine ⟨D.document.sections, hsections, ?_⟩
  refine .intro (hdocument ▸ hD.spells) ?_ rfl rfl hsections (hdocument ▸ hD.reads)
  rw [← hdocument, ← Paragraph.flatMap_lines_split lines]
  rw [show Paragraph.split lines = D.passages.map (·.paragraph) from hpassages.symm,
    List.flatMap_map]

/-- A text that is read is a document. -/
theorem reads_of_processText {s s' : Store} {path text : String} (hload : j.Loads load)
    (h : j.processText load s path text = .ok s') :
    ∃ r : Reading, Line.scan text path 0 = .ok r.lines ∧
      r.before = { s with trail := s.trail.enter path } ∧ s' = r.after.outside ∧ j.Reads r := by
  unfold processText at h
  split at h
  next => cases h
  next lines hlines =>
    split at h
    next s₁ hs₁ =>
      cases h
      obtain ⟨sections, _, hreads⟩ := reads_of_readLines hload hs₁
      exact ⟨_, hlines, rfl, rfl, hreads⟩
    next => cases h

/-- A file that is read is a document, if it was not read before. -/
theorem imports_of_processFile {nesting : Nat} {requested : String} {place : Option Place}
    {s s' : Store} (h : j.processFile nesting requested place s = .ok s') :
    ∃ c, j.Imports s requested c s' ∧ ∀ r, c = .file r → j.Reads r := by
  induction nesting generalizing requested place s s' with
  | zero => cases h
  | succ nesting ih =>
      unfold processFile at h
      dsimp only at h
      split at h
      next => cases h
      next text htext =>
        split at h
        next hloaded =>
          cases h
          exact ⟨.nothing, .again htext hloaded, nofun⟩
        next hloaded =>
          rw [Bool.not_eq_true] at hloaded
          have hload : j.Loads fun requested place s =>
              j.processFile nesting requested (some place) s :=
            fun requested place s s' h => ih h
          obtain ⟨r, hlines, hbefore, rfl, hreads⟩ := reads_of_processText hload h
          refine ⟨.file r, .file htext hloaded hlines hbefore, fun r' hr => ?_⟩
          cases hr
          exact hreads

/-- The files that a compilation imports are documents. -/
theorem loads_loader : j.Loads j.loader := fun _ _ _ _ h => imports_of_processFile h

end Job

/-! ## Compilations -/

/-- The sections that stay in a layout. -/
def Settings.kept (settings : Settings) (sections : List Section) : List Section :=
  if settings.dropEmptySections then sections.filter fun s => !s.isEmpty else sections

theorem Job.result_ok {π : Type} {j : Job π} {done : Except Abort Store} {l : Layout}
    (h : j.result done = .ok l) :
    ∃ s, done = .ok s ∧ l.sections = j.settings.kept s.sections := by
  cases done with
  | error a => cases h
  | ok s =>
      refine ⟨s, rfl, ?_⟩
      cases h
      unfold Settings.kept
      split <;> rfl

/-- A file or a text that is compiled is a document, and so are the files that it
imports.  The sections of the layout are those of the document. -/
theorem Compiler.sections_of_compile {π : Type} [Page π] (c : Compiler π) (page : Option π) :
    (∀ path l, c.compile page path = .ok l →
      ∃ text r, c.source.read (Trail.start.resolve path) = .ok text ∧
        Line.scan text (Trail.start.resolve path) 0 = .ok r.lines ∧
        r.before = Store.start.inside (Trail.start.resolve path) text ∧
        Job.Reads ⟨c, page⟩ r ∧ l.sections = c.settings.kept r.sections) ∧
    (∀ text label l, c.compileText page text label = .ok l →
      ∃ r, Line.scan text (Path.normalize label) 0 = .ok r.lines ∧
        r.before = Store.start.inside (Path.normalize label) text ∧
        Job.Reads ⟨c, page⟩ r ∧ l.sections = c.settings.kept r.sections) := by
  constructor
  · intro path l h
    obtain ⟨s, hs, hl⟩ := Job.result_ok h
    obtain ⟨content, hi, hreads⟩ := Job.imports_of_processFile hs
    cases hi with
    | again _ hloaded => cases hloaded
    | @file text r htext _ hlines hbefore =>
        have hsections := (hreads r rfl).sections_after
        rw [hbefore] at hsections
        refine ⟨text, r, htext, hlines, hbefore, hreads r rfl, ?_⟩
        rw [hl]
        exact congrArg c.settings.kept hsections
  · intro text label l h
    obtain ⟨s, hs, hl⟩ := Job.result_ok h
    obtain ⟨r, hlines, hbefore, rfl, hreads⟩ := Job.reads_of_processText Job.loads_loader hs
    have hsections := hreads.sections_after
    rw [hbefore] at hsections
    refine ⟨r, hlines, hbefore, hreads, ?_⟩
    rw [hl]
    exact congrArg c.settings.kept hsections

/-- A compiler of two files, of which one imports the other in a conditional. -/
def Compiler.sample : Compiler Snapshot :=
  ⟨⟨2.0, true⟩, .empty, .standard, .memory
    [("a",
        "[1,2]\nbox@\n visible\n@@ if\nlink\n visible\n@@ do\n@@ import b\nmenu\n absent\n@@ end\n"),
      ("b", "@ two\nend\n absent\n")]⟩

/-- The file and a text that imports it are documents. -/
theorem Compiler.sections_of_compile_sample :
    (∃ l, sample.compile none "a" = .ok l ∧
      l.sections.map (fun s => s.objects.map (·.object)) = [["box1", "box2"], ["end"]] ∧
      ∃ r, Job.Reads ⟨sample, none⟩ r ∧ l.sections = sample.settings.kept r.sections) ∧
    (∃ l, sample.compileText none "@@ import a" "text" = .ok l ∧
      l.sections.map (fun s => s.objects.map (·.object)) = [["box1", "box2"], ["end"]] ∧
      ∃ r, Job.Reads ⟨sample, none⟩ r ∧ l.sections = sample.settings.kept r.sections) := by
  constructor
  · obtain ⟨l, h, hnames⟩ : ∃ l, sample.compile none "a" = .ok l ∧
        l.sections.map (fun s => s.objects.map (·.object)) = [["box1", "box2"], ["end"]] :=
      exists_ok_of_toOption (by decide +kernel)
    obtain ⟨text, r, _, _, _, hreads, hl⟩ := (sections_of_compile sample none).1 "a" l h
    exact ⟨l, h, hnames, r, hreads, hl⟩
  · obtain ⟨l, h, hnames⟩ : ∃ l, sample.compileText none "@@ import a" "text" = .ok l ∧
        l.sections.map (fun s => s.objects.map (·.object)) = [["box1", "box2"], ["end"]] :=
      exists_ok_of_toOption (by decide +kernel)
    obtain ⟨r, _, _, hreads, hl⟩ :=
      (sections_of_compile sample none).2 "@@ import a" "text" l h
    exact ⟨l, h, hnames, r, hreads, hl⟩

end PageLayout
