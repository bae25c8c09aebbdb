import PageLayout.Page.Snapshot
import PageLayout.Proofs.Compilation.Declaration
import PageLayout.Proofs.Compilation.Directories

/-!
# Objects are declared once

All files of a compilation declare their objects in one table.  A `Moment` is the table before
a line of some file, with what the line declares, and `Compiler.moments` lists the moments of
a compilation, those of an imported file after that of its import.

`Records` says of a part of a compilation that its moments follow from one another: a line
adds what it declares and nothing else, or it declares a name that is taken, and then the part
ends with this error.  A line keeps this (`records_line`), so lines do, texts, and files, by
induction on how deep they are nested.  `WriteOnce` is what it means for a whole compilation.
-/

namespace PageLayout

/-- The table of objects before a line is read, and the declarations on the line. -/
structure Moment where
  /-- The table. -/
  objects : Table Locator
  /-- The declarations. -/
  declared : List Declaration

/-! ## Records -/

/-- The moments of a part of a compilation that starts with a table, and how the part ends. -/
inductive Records : Table Locator → List Moment → Except LayoutError (Table Locator) → Prop
  | done {t : Table Locator} {after : Except LayoutError (Table Locator)} :
      (∀ t', after = .ok t' → t' = t) → Records t [] after
  | next {t t' : Table Locator} {ds : List Declaration} {ms : List Moment}
      {after : Except LayoutError (Table Locator)} :
      t.declareAll ds = .ok t' → Records t' ms after → Records t (⟨t, ds⟩ :: ms) after
  | taken {t : Table Locator} {ds : List Declaration} {d : Declaration} :
      t.declareAll ds = .error d → Records t [⟨t, ds⟩] (.error d.duplicate)

namespace Records

variable {t t' : Table Locator} {ms ms' : List Moment}
  {after : Except LayoutError (Table Locator)}

theorem append (h : Records t ms (.ok t')) (h' : Records t' ms' after) :
    Records t (ms ++ ms') after := by
  generalize hafter : Except.ok t' = first at h
  induction h with
  | done hdone =>
      rwa [← hdone t' hafter.symm]
  | next hds _ ih => exact .next hds (ih hafter)
  | taken => cases hafter

/-- The table at a moment has what was declared before. -/
theorem objects_eq (h : Records t ms after) {earlier later : List Moment} {m : Moment}
    (hms : ms = earlier ++ m :: later) :
    t.declareAll (earlier.flatMap Moment.declared) = .ok m.objects := by
  induction h generalizing earlier with
  | done => simp at hms
  | @next t t' ds ms _ hds _ ih =>
      cases earlier with
      | nil =>
          cases hms
          rfl
      | cons first earlier =>
          obtain ⟨rfl, rfl⟩ := List.cons.inj hms
          rw [List.flatMap_cons, Table.declareAll_append, hds, ok_bind]
          exact ih rfl
  | taken =>
      cases earlier with
      | nil =>
          cases hms
          rfl
      | cons first earlier => simp at hms

/-- The table in the end has everything that was declared. -/
theorem declareAll_eq (h : Records t ms (.ok t')) :
    t.declareAll (ms.flatMap Moment.declared) = .ok t' := by
  generalize hafter : Except.ok t' = after at h
  induction h with
  | done hdone =>
      rw [hdone t' hafter.symm]
      rfl
  | next hds _ ih =>
      rw [List.flatMap_cons, Table.declareAll_append, hds, ok_bind]
      exact ih hafter
  | taken => cases hafter

/-- The first declaration of a name that is taken is the error. -/
theorem error_of_declareAll (h : Records t ms after) {d : Declaration}
    (hd : t.declareAll (ms.flatMap Moment.declared) = .error d) : after = .error d.duplicate := by
  induction h with
  | done => cases hd
  | next hds _ ih =>
      rw [List.flatMap_cons, Table.declareAll_append, hds, ok_bind] at hd
      exact ih hd
  | taken hds =>
      rw [List.flatMap_cons, List.flatMap_nil, List.append_nil, hds] at hd
      cases hd
      rfl

/-- The moments after a table have what is in the table. -/
theorem included (h : Records t ms after) : ∀ m ∈ ms, t.Included m.objects := by
  induction h with
  | done => nofun
  | @next t t' ds ms _ hds _ ih =>
      refine List.forall_mem_cons.2 ⟨.refl t, fun m hm => ?_⟩
      exact (Table.included_of_declareAll hds).trans (ih m hm)
  | @taken t => exact List.forall_mem_singleton.2 (.refl t)

/-- What is in the table at a moment is there at all later ones. -/
theorem pairwise (h : Records t ms after) :
    ms.Pairwise fun m m' => m.objects.Included m'.objects := by
  induction h with
  | done => exact .nil
  | next hds h ih =>
      refine .cons (fun m hm => ?_) ih
      exact (Table.included_of_declareAll hds).trans (h.included m hm)
  | taken => exact List.pairwise_singleton ..

/-- What is in the table at a moment is there in the end. -/
theorem included_after (h : Records t ms (.ok t')) : ∀ m ∈ ms, m.objects.Included t' := by
  intro m hm
  obtain ⟨earlier, later, rfl⟩ := List.append_of_mem hm
  have hobjects := h.objects_eq rfl
  have hall := h.declareAll_eq
  rw [List.flatMap_append, Table.declareAll_append, hobjects, ok_bind] at hall
  exact Table.included_of_declareAll hall

end Records

/-! ## The moments of a compilation -/

namespace Job

variable {π : Type} [Page π]

/-- The moments while a line is read.  Those inside a file that it imports follow that of the
line. -/
def momentsOfLine (j : Job π) (inside : String → Store → List Moment) (p : Progress)
    (line : Line) : List Moment :=
  match j.effectOf p line with
  | .declares ds => [⟨p.store.objects, ds⟩]
  | .imports path s => ⟨p.store.objects, []⟩ :: inside path s

/-- The moments while lines are read, up to the first that fails. -/
def momentsOfLines (j : Job π) (load : Loader) (inside : String → Store → List Moment) :
    Progress → List Line → List Moment
  | _, [] => []
  | p, line :: lines =>
      j.momentsOfLine inside p line ++
        match j.feed load p line with
        | .ok p => momentsOfLines j load inside p lines
        | .error _ => []

/-- The moments while a text is read with the path of a file. -/
def momentsOfText (j : Job π) (load : Loader) (inside : String → Store → List Moment) (s : Store)
    (path text : String) : List Moment :=
  match Line.scan text path 0 with
  | .error _ => []
  | .ok lines => j.momentsOfLines load inside ⟨s.inside path text, .start⟩ lines

/-- The moments while a file is read that a path asks for. -/
def momentsOfFile (j : Job π) : (nesting : Nat) → (requested : String) → Store → List Moment
  | 0, _, _ => []
  | nesting + 1, requested, s =>
      match j.lead s requested with
      | .new text =>
          j.momentsOfText (j.importing nesting) (momentsOfFile j nesting) s
            (s.trail.resolve requested) text
      | _ => []

end Job

namespace Compiler

variable {π : Type} [Page π]

/-- The moments of the compilation of a file. -/
def moments (c : Compiler π) (page : Option π) (path : String) : List Moment :=
  let j : Job π := ⟨c, page⟩
  j.momentsOfFile (j.source.size + 1) path .start

/-- The moments of the compilation of a text. -/
def momentsOfText (c : Compiler π) (page : Option π) (text label : String) : List Moment :=
  let j : Job π := ⟨c, page⟩
  j.momentsOfText j.loader (j.momentsOfFile (j.source.size + 1)) .start (Path.normalize label) text

end Compiler

/-! ## A compilation records its moments -/

/-- The moments inside the files that a loader reads. -/
def Recorded (load : Loader) (inside : String → Store → List Moment) : Prop :=
  ∀ path place s, Records s.objects (inside path s) (tableAfter (load path place s))

namespace Job

variable {π : Type} [Page π] {j : Job π} {load : Loader} {inside : String → Store → List Moment}

/-- A line adds what it declares to the table, or what the file declares that it imports. -/
theorem records_line (hload : Recorded load inside) (p : Progress) (line : Line) :
    Records p.store.objects (j.momentsOfLine inside p line)
      (tableAfter ((j.feed load p line).map Progress.store)) := by
  unfold momentsOfLine
  cases heffect : j.effectOf p line with
  | declares ds =>
      have hdeclares := declares_feed load heffect
      dsimp only
      unfold Declares at hdeclares
      split at hdeclares
      next hds => exact .next hds (.done hdeclares)
      next hds =>
        rw [hdeclares]
        exact .taken hds
  | imports path s =>
      -- The line itself declares nothing, and the file starts with the table before the line.
      obtain ⟨hobjects, cursor, hfeed⟩ := feed_of_imports heffect
      have hafter : tableAfter ((j.feed load p line).map Progress.store) =
          tableAfter (load path line.place s) := by
        rw [hfeed]
        cases load path line.place s with
        | error a => rfl
        | ok s' => rfl
      rw [hafter, ← hobjects]
      exact .next rfl (hload path line.place s)

theorem records_lines (hload : Recorded load inside) (p : Progress) (lines : List Line) :
    Records p.store.objects (j.momentsOfLines load inside p lines)
      (tableAfter (lines.foldlM (j.feed load) p >>= fun p => p.store.attempt (j.finish p))) := by
  induction lines generalizing p with
  | nil =>
      refine .done fun t ht => ?_
      change tableAfter (p.store.attempt (j.finish p)) = .ok t at ht
      cases hfinish : j.finish p with
      | error error =>
          rw [hfinish] at ht
          cases ht
      | ok s =>
          rw [hfinish] at ht
          cases ht
          exact objects_finish hfinish
  | cons line lines ih =>
      have hline := records_line (j := j) hload p line
      rw [momentsOfLines, List.foldlM_cons]
      cases hfeed : j.feed load p line with
      | error a =>
          rw [hfeed] at hline
          rw [error_bind, error_bind, List.append_nil]
          exact hline
      | ok p' =>
          rw [hfeed] at hline
          exact hline.append (ih p')

theorem records_text (hload : Recorded load inside) (s : Store) (path text : String) :
    Records s.objects (j.momentsOfText load inside s path text)
      (tableAfter (j.processText load (s.marked path text) path text)) := by
  rw [processText_eq, momentsOfText]
  cases Line.scan text path 0 with
  | error error => exact .done nofun
  | ok lines =>
      dsimp only
      rw [tableAfter_leaving]
      exact records_lines hload ⟨s.inside path text, .start⟩ lines

theorem records_file (nesting : Nat) (requested : String) (place : Option Place) (s : Store) :
    Records s.objects (j.momentsOfFile nesting requested s)
      (tableAfter (j.processFile nesting requested place s)) := by
  induction nesting generalizing requested place s with
  | zero => exact .done nofun
  | succ nesting ih =>
      rw [processFile_eq, momentsOfFile]
      cases j.lead s requested with
      | missing reason => exact .done nofun
      | known text =>
          refine .done fun t ht => ?_
          cases ht
          rfl
      | new text =>
          have hload : Recorded (j.importing nesting) (j.momentsOfFile nesting) :=
            fun path place s => ih path (some place) s
          exact records_text hload s _ text

end Job

/-! ## Whole compilations -/

/-- The table of objects is written once. -/
structure WriteOnce (moments : List Moment) (result : Except LayoutError Layout) : Prop where
  /-- At every moment the table has exactly the names that were declared before, each of them
  declared once. -/
  holds : ∀ earlier m later, moments = earlier ++ m :: later →
    m.objects.Holds (earlier.flatMap Moment.declared)
  /-- What is in the table at a moment is there at all later ones. -/
  stays : moments.Pairwise fun m m' => m.objects.Included m'.objects
  /-- It is in the layout too. -/
  included : ∀ l, result = .ok l → ∀ m ∈ moments, m.objects.Included l.objects
  /-- The first declaration of a name that was declared before is the error. -/
  taken : ∀ before d after, moments.flatMap Moment.declared = before ++ d :: after →
    (before.map Declaration.name).Nodup → d.name ∈ before.map Declaration.name →
      ∃ error, result = .error error ∧
        error.bare = "Object \"" ++ d.name ++ "\" is already defined" ∧
        error.place? = some d.place
  /-- A layout has exactly the names that were declared, each of them declared once. -/
  complete : ∀ l, result = .ok l → l.objects.Holds (moments.flatMap Moment.declared)

theorem Job.result_eq_of_tableAfter {π : Type} {j : Job π} {done : Except Abort Store}
    {error : LayoutError} (h : tableAfter done = .error error) : j.result done = .error error := by
  cases done with
  | error a =>
      cases h
      rfl
  | ok s => cases h

theorem Job.tableAfter_of_result {π : Type} {j : Job π} {done : Except Abort Store}
    {l : Layout} (h : j.result done = .ok l) : tableAfter done = .ok l.objects := by
  cases done with
  | error a => cases h
  | ok s =>
      cases h
      show Except.ok s.objects = _
      split <;> rfl

theorem Records.writeOnce {π : Type} {j : Job π} {ms : List Moment} {done : Except Abort Store}
    (h : Records .empty ms (tableAfter done)) : WriteOnce ms (j.result done) where
  holds earlier m later hms := Table.holds_empty.declareAll (h.objects_eq hms)
  stays := h.pairwise
  included l hl := by
    rw [Job.tableAfter_of_result hl] at h
    exact h.included_after
  taken before d after hds hnodup hd := by
    have hdeclared := Table.declareAll_eq_error hnodup hd after
    rw [← hds] at hdeclared
    exact ⟨_, Job.result_eq_of_tableAfter (h.error_of_declareAll hdeclared), rfl, rfl⟩
  complete l hl := by
    rw [Job.tableAfter_of_result hl] at h
    exact Table.holds_empty.declareAll h.declareAll_eq

namespace Compiler

variable {π : Type} [Page π]

/-- In every compilation of a file or a text the table of objects is written once.  What is in
it stays as it is.  A name that is declared again, in the same file or another, by a definition
or as an element of a group, is the error of the compilation.  And a layout has exactly the
objects that were declared, each with the locator of its one declaration. -/
theorem writeOnce_compile (c : Compiler π) (page : Option π) :
    (∀ path, WriteOnce (c.moments page path) (c.compile page path)) ∧
      ∀ text label, WriteOnce (c.momentsOfText page text label) (c.compileText page text label) := by
  refine ⟨fun path => ?_, fun text label => ?_⟩
  · exact Records.writeOnce (Job.records_file _ path none .start)
  · have hload : Recorded (Job.loader ⟨c, page⟩)
        (Job.momentsOfFile ⟨c, page⟩ (c.source.size + 1)) :=
      fun path place s => Job.records_file _ path (some place) s
    exact Records.writeOnce (Job.records_text hload .start (Path.normalize label) text)

end Compiler

/-- On a page with two elements of a group that an imported file declares, the name of the
second one is taken in the file that imports it. -/
example :
    let c : Compiler Snapshot :=
      ⟨⟨2.0, true⟩, .empty, .standard, .memory
        [("page", "===\nitem-2 id last\n===\n@@ import items"),
          ("items", "===\nitem-* css .item\n===")]⟩
    let item : Node := .mk .css ".item" ⟨⟨0, 0, 10, 10⟩, none, true⟩ []
    let page : Snapshot := ⟨none, [item, item]⟩
    ((c.moments (some page) "page").flatMap Moment.declared).map Declaration.name =
        ["item-2", "item-1", "item-2"] ∧
      (match c.compile (some page) "page" with
        | .error error => some (error.bare, error.place?)
        | .ok _ => none) =
        some ("Object \"item-2\" is already defined", some ⟨"items", 2⟩) := by
  decide +kernel

end PageLayout
