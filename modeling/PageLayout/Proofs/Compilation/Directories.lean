import PageLayout.Page.Snapshot
import PageLayout.Proofs.Compilation.Termination
import PageLayout.Proofs.Requirement.Component

/-!
# Paths are seen from the file they are written in

While a file is read, its directory is the innermost of the trail, and below it are the
directories that were there before.  A file that is imported adds its own directory and
takes it away again, whether it can be read to its end or not.  `Stays` says this of a part
of a compilation, and `stays_processFile` proves it of files by induction on how deep they
are nested.

So a path is seen from the file that it is written in, even if an object block with a
component is completed long after the line with the path.
-/

namespace PageLayout

/-! ## Directories -/

/-- A part of a compilation ends in the directories where it starts, whether it ends well
or with an error. -/
def Stays {α : Type} (trailOf : α → Trail) (start : Trail) (done : Except Abort α) : Prop :=
  match done with
  | .ok a => (trailOf a).directories = start.directories
  | .error a => a.trail.directories = start.directories

namespace Stays

variable {α β : Type} {trailOf : α → Trail} {trailOf' : β → Trail} {start : Trail}

/-- One part after another. -/
theorem bind {x : Except Abort α} {f : α → Except Abort β} (hx : Stays trailOf start x)
    (hf : ∀ a, x = .ok a → Stays trailOf' (trailOf a) (f a)) : Stays trailOf' start (x >>= f) := by
  cases x with
  | error a => exact hx
  | ok a =>
      have hx : (trailOf a).directories = start.directories := hx
      have h := hf a rfl
      rw [ok_bind]
      cases hfa : f a with
      | error a' =>
          rw [hfa] at h
          exact Eq.trans h hx
      | ok b =>
          rw [hfa] at h
          exact Eq.trans h hx

/-- A step that leaves the trail alone. -/
theorem attempt {s : Store} {x : Except LayoutError α}
    (h : ∀ a, x = .ok a → (trailOf a).directories = s.trail.directories) :
    Stays trailOf s.trail (s.attempt x) := by
  cases x with
  | error error => exact rfl
  | ok a => exact h a rfl

end Stays

theorem Trail.directories_mark (t : Trail) (identity : String) :
    (t.mark identity).directories = t.directories := by
  unfold mark
  split <;> rfl

/-- A step that fails tells the trail before it. -/
theorem trail_of_attempt_error {α : Type} {s : Store} {x : Except LayoutError α} {a : Abort}
    (h : s.attempt x = .error a) : a.trail = s.trail := by
  cases x with
  | error error =>
      cases h
      rfl
  | ok b => cases h

namespace Job

variable {π : Type} {j : Job π} {load : Loader}

/-! ## Lines -/

/-- A directive that asks for no file leaves the trail alone when it fails. -/
theorem trail_of_directed_error {p : Progress} {place : Place} {text : String} {a : Abort}
    (h : j.directed load p place text = .error a)
    (hd : ∀ d, Directive.ofText text = .ok d →
      (∀ path, d ≠ .importFile path) ∧ ∀ path, d ≠ .loadScript path) :
    a.trail = p.store.trail := by
  obtain h | ⟨d, hok, h⟩ := bind_eq_error_iff.mp h
  · exact trail_of_attempt_error h
  · rw [attempt_eq_ok_iff, mapError_eq_ok_iff] at hok
    obtain ⟨himport, hscript⟩ := hd d hok
    cases d with
    | importFile path => exact absurd rfl (himport path)
    | loadScript path => exact absurd rfl (hscript path)
    | setBlock => cases h
    | set definition =>
        obtain h | ⟨s, _, h⟩ := bind_eq_error_iff.mp h
        · exact trail_of_attempt_error h
        · cases h
    | _ => exact trail_of_attempt_error h

/-- A script adds nothing to the directories. -/
theorem directories_loadScript {s s' : Store} {requested : String} {place : Place}
    (h : j.loadScript s requested place = .ok s') :
    s'.trail.directories = s.trail.directories := by
  rw [loadScript_eq] at h
  split at h
  next => cases h
  next =>
    cases h
    rfl
  next =>
    split at h
    next => cases h
    next =>
      cases h
      exact s.trail.directories_mark _

variable [Page π]

/-- A line that asks for no file leaves the trail alone when it fails. -/
theorem trail_of_feed_error {p : Progress} {line : Line} {a : Abort}
    (h : ∀ p' t, ¬j.Asks p line p' t) (hfeed : j.feed load p line = .error a) :
    a.trail = p.store.trail := by
  by_cases hindented : line.indented = true
  · rw [feed_indented p hindented] at hfeed
    exact trail_of_attempt_error hfeed
  · rw [Bool.not_eq_true] at hindented
    rw [feed_not_indented p hindented] at hfeed
    obtain hsettle | ⟨p₁, hsettle, hopened⟩ := bind_eq_error_iff.mp hfeed
    · exact trail_of_attempt_error hsettle
    · rw [attempt_eq_ok_iff] at hsettle
      refine Eq.trans ?_ (settle_ok hsettle).2
      rw [opened_eq] at hopened
      cases hk : LineKind.of p₁.cursor.defining line.text.toList with
      | definitionRuler | ruler | objectName =>
          rw [hk] at hopened
          cases hopened
      | definition =>
          rw [hk] at hopened
          obtain hopened | ⟨s, _, hopened⟩ := bind_eq_error_iff.mp hopened
          · exact trail_of_attempt_error hopened
          · cases hopened
      | directive rest =>
          rw [hk] at hopened
          obtain hopened | ⟨text, ht, hopened⟩ := bind_eq_error_iff.mp hopened
          · exact trail_of_attempt_error hopened
          · rw [attempt_eq_ok_iff] at ht
            exact trail_of_directed_error hopened fun d hd =>
              ne_of_not_asks h hindented hsettle hk ht hd
      | header rest | indexList =>
          rw [hk] at hopened
          obtain hopened | ⟨text, _, hopened⟩ := bind_eq_error_iff.mp hopened
          · exact trail_of_attempt_error hopened
          · exact trail_of_attempt_error hopened

/-- A line ends in the directories where it starts if the files that it imports do. -/
theorem stays_feed
    (hload : ∀ requested place s, Stays Store.trail s.trail (load requested place s))
    (p : Progress) (line : Line) :
    Stays (fun p' => p'.store.trail) p.store.trail (j.feed load p line) := by
  -- Only a line that asks for a file depends on the loader.
  by_cases h : ∃ p' t, j.Asks p line p' t
  · obtain ⟨p', t, h⟩ := h
    obtain ⟨htrail, ⟨path, _, hfeed⟩ | ⟨path, _, hfeed⟩⟩ := feed_of_asks h
    · rw [hfeed, ← htrail]
      exact (hload path line.place p'.store).bind fun s _ => rfl
    · rw [hfeed, ← htrail]
      exact (Stays.attempt fun s hs => directories_loadScript hs).bind fun s _ => rfl
  · have h : ∀ p' t, ¬j.Asks p line p' t := fun p' t ha => h ⟨p', t, ha⟩
    cases hfeed : j.feed load p line with
    | ok p' => exact congrArg Trail.directories (trail_of_feed h hfeed)
    | error a => exact congrArg Trail.directories (trail_of_feed_error h hfeed)

theorem stays_lines
    (hload : ∀ requested place s, Stays Store.trail s.trail (load requested place s))
    (lines : List Line) (p : Progress) :
    Stays (fun p' => p'.store.trail) p.store.trail (lines.foldlM (j.feed load) p) := by
  induction lines generalizing p with
  | nil => exact rfl
  | cons line lines ih =>
      rw [List.foldlM_cons]
      exact (stays_feed hload p line).bind fun p' _ => ih p'

/-! ## Files -/

/-- A text ends in the directories where it starts. -/
theorem stays_processText
    (hload : ∀ requested place s, Stays Store.trail s.trail (load requested place s))
    (s : Store) (path text : String) :
    Stays Store.trail s.trail (j.processText load s path text) := by
  unfold processText
  cases Line.scan text path 0 with
  | error error => exact rfl
  | ok lines =>
      dsimp only
      -- The lines leave the directory of the file where it was entered.  It is taken away again
      -- by both ways out.
      have h : Stays Store.trail (s.trail.enter path)
          (j.readLines load { s with trail := s.trail.enter path } lines) :=
        (stays_lines hload lines _).bind fun p _ =>
          Stays.attempt fun s' hs' => congrArg Trail.directories (trail_of_finish hs')
      cases hr : j.readLines load { s with trail := s.trail.enter path } lines with
      | error a =>
          rw [hr] at h
          exact congrArg (List.drop 1) h
      | ok s' =>
          rw [hr] at h
          exact congrArg (List.drop 1) h

/-- How files are read that may import others up to some depth. -/
def importing (j : Job π) (nesting : Nat) : Loader := fun requested place s =>
  j.processFile nesting requested (some place) s

/-- A file ends in the directories where it starts, however deep others are nested in it. -/
theorem stays_processFile (nesting : Nat) (requested : String) (place : Option Place)
    (s : Store) : Stays Store.trail s.trail (j.processFile nesting requested place s) := by
  induction nesting generalizing requested place s with
  | zero => exact rfl
  | succ nesting ih =>
      rw [processFile_eq]
      cases j.lead s requested with
      | missing reason => exact rfl
      | known text => exact rfl
      | new text =>
          have hload : ∀ requested place s,
              Stays Store.trail s.trail (j.importing nesting requested place s) :=
            fun requested place s => ih requested (some place) s
          have h : Stays Store.trail (s.marked (s.trail.resolve requested) text).trail
              (j.processText (j.importing nesting) (s.marked (s.trail.resolve requested) text)
                (s.trail.resolve requested) text) := stays_processText hload _ _ _
          have hmark : (s.marked (s.trail.resolve requested) text).trail.directories =
              s.trail.directories := s.trail.directories_mark _
          unfold Stays at h ⊢
          rwa [hmark] at h

theorem stays_importing (nesting : Nat) (requested : String) (place : Place) (s : Store) :
    Stays Store.trail s.trail (j.importing nesting requested place s) :=
  stays_processFile nesting requested (some place) s

end Job

/-! ## Paths -/

namespace Directive

/-- The path of an import or a script has no blanks at its ends. -/
theorem trimmed_of_ofText {text path : String}
    (h : ofText text = .ok (.importFile path) ∨ ofText text = .ok (.loadScript path)) :
    Text.trimmed path = path := by
  have hpath : path = String.ofList (Text.firstWord text.toList).2 := by
    unfold ofText at h
    dsimp only at h
    generalize String.ofList (Text.firstWord text.toList).1 = word at h
    generalize (Text.firstWord text.toList).2 = rest at h
    obtain h | h := h
    · repeat' split at h
      all_goals first | cases h; rfl | cases h
    · repeat' split at h
      all_goals first | cases h; rfl | cases h
  rw [hpath, Text.trimmed, String.toList_ofList]
  exact congrArg String.ofList (Text.trimmed_trim _).trim

end Directive

namespace Requirement

/-- A requirement whose component is seen from a directory. -/
def seenFrom (directory : String) : Requirement → Requirement
  | .component path => .component (Path.seenFrom directory path)
  | r => r

end Requirement

section Innermost

variable {t : Trail} {directory : String} {outer : List String}

/-- A path is seen from the innermost directory. -/
theorem Trail.resolve_eq {requested : String} (ht : t.directories = directory :: outer)
    (h : Text.trimmed requested = requested) :
    t.resolve requested = Path.seenFrom directory requested := by
  unfold resolve
  rw [ht, h]

theorem Requirement.resolve_eq {tolerance : Float} {text : String} {r : Requirement}
    (ht : t.directories = directory :: outer) (h : ofText tolerance text = .ok r) :
    r.resolve t = r.seenFrom directory := by
  cases r with
  | component path => exact congrArg Requirement.component (t.resolve_eq ht (trimmed_of_ofText h))
  | _ => rfl

end Innermost

namespace Job

variable {π : Type} {j : Job π} {s : Store} {directory : String} {outer : List String}

/-- What a line asks for is seen from the innermost directory. -/
theorem resolve_of_asks [Page π] {p p' : Progress} {line : Line} {t : Task}
    (hp : p.store.trail.directories = directory :: outer) (h : j.Asks p line p' t) :
    ∃ requested, (t = .file requested (some line.place) p'.store ∨
        t = .script requested line.place p'.store) ∧
      p'.store.trail.resolve requested = Path.seenFrom directory requested := by
  have htrail := (feed_of_asks h).1
  have hp' : p'.store.trail.directories = directory :: outer := by rw [htrail, hp]
  cases h with
  | @intro rest text d _ _ _ _ _ hd htask =>
      cases d with
      | importFile path =>
          cases htask
          exact ⟨path, .inl rfl, Trail.resolve_eq hp' (Directive.trimmed_of_ofText (.inl hd))⟩
      | loadScript path =>
          cases htask
          exact ⟨path, .inr rfl, Trail.resolve_eq hp' (Directive.trimmed_of_ofText (.inr hd))⟩
      | _ => cases htask

/-- The component of a rule is seen from the innermost directory. -/
theorem requirement_of_ruleOf {index : Option Int} {line : Line} {rule : Rule}
    (hs : s.trail.directories = directory :: outer) (h : j.ruleOf s index line = .ok rule) :
    ∃ r, Requirement.ofText j.settings.approximation rule.text = .ok r ∧
      rule.requirement = r.seenFrom directory := by
  obtain ⟨text, _, h⟩ := bind_eq_ok_iff.1 h
  dsimp only at h
  obtain ⟨r, hr, h⟩ := bind_eq_ok_iff.1 h
  rw [mapError_eq_ok_iff] at hr
  cases h
  exact ⟨r, hr, Requirement.resolve_eq hs hr⟩

end Job

/-- The progress before the first line of a file. -/
def Progress.within (s : Store) (path : String) : Progress :=
  ⟨{ s with trail := s.trail.enter path }, .start⟩

/-- The lines of a text are read inside the directory of its file, and the block that is
pending after the last one is completed there as well. -/
theorem Job.processText_within {π : Type} [Page π] (j : Job π) (load : Loader) (s : Store)
    (path text : String) :
    j.processText load s path text =
      match Line.scan text path 0 with
      | .error error => .error ⟨error, s.trail⟩
      | .ok lines =>
          leaving (lines.foldlM (j.feed load) (.within s path) >>= fun p =>
            p.store.attempt (j.finish p)) := by
  unfold processText
  cases Line.scan text path 0 with
  | error error => rfl
  | ok lines => rfl

/-- The paths in a file are seen from the directory of the file: those of its imports and
scripts when their lines are read, and those of its components when their object block is
completed, whatever was imported before.  Every line is read inside this directory, and
only after the last block was completed it is left.  The text of a file leaves the
directories as it finds them, whether it is read without an error or not. -/
theorem Job.paths_of_processText {π : Type} [Page π] (j : Job π) (nesting : Nat) (s : Store)
    (path text : String) :
    (j.processText (j.importing nesting) s path text =
      match Line.scan text path 0 with
      | .error error => .error ⟨error, s.trail⟩
      | .ok lines =>
          leaving (lines.foldlM (j.feed (j.importing nesting)) (.within s path) >>= fun p =>
            p.store.attempt (j.finish p))) ∧
    (∀ before after p, Line.scan text path 0 = .ok (before ++ after) →
      before.foldlM (j.feed (j.importing nesting)) (.within s path) = .ok p →
        (∀ line ∈ after.head?, ∀ p' t, j.Asks p line p' t →
          ∃ requested, (t = .file requested (some line.place) p'.store ∨
              t = .script requested line.place p'.store) ∧
            p'.store.trail.resolve requested =
              Path.seenFrom (Path.directory path) requested) ∧
        ∀ block, p.cursor.pending = .object block →
          ∀ line ∈ block.lines, ∀ index rule, j.ruleOf p.store index line = .ok rule →
            ∃ r, Requirement.ofText j.settings.approximation rule.text = .ok r ∧
              rule.requirement = r.seenFrom (Path.directory path)) ∧
    Stays Store.trail s.trail (j.processText (j.importing nesting) s path text) := by
  refine ⟨processText_within j _ s path text, fun before after p _ hp => ?_,
    stays_processText (stays_importing nesting) s path text⟩
  have hdirectories : p.store.trail.directories =
      Path.directory path :: s.trail.directories := by
    have h : Stays (fun p => p.store.trail) (s.trail.enter path)
        (before.foldlM (j.feed (j.importing nesting)) (.within s path)) :=
      stays_lines (stays_importing nesting) before _
    rw [hp] at h
    exact h
  exact ⟨fun line _ p' t h => resolve_of_asks hdirectories h,
    fun block _ line _ index rule h => requirement_of_ruleOf hdirectories h⟩

/-- The text of a file with an import and, below it, the path of a component. -/
def Compiler.nestedText : String :=
  "@@ import ./more/foot.spec\nmenu\n component: ../parts/menu.spec\n"

/-- A compiler of this file and of the one that it imports, in a directory inside. -/
def Compiler.nested : Compiler Snapshot :=
  ⟨⟨2.0, true⟩, .empty, .standard, .memory
    [("pages/home.spec", nestedText), ("pages/more/foot.spec", "foot\n component: foot.spec\n")]⟩

/-- The line with the import. -/
def Line.nestedImport : Line := ⟨"@@ import ./more/foot.spec", ⟨"pages/home.spec", 1⟩, false⟩

/-- The line with the name of the object. -/
def Line.nestedName : Line := ⟨"menu", ⟨"pages/home.spec", 2⟩, false⟩

/-- The line with its component. -/
def Line.nestedComponent : Line :=
  ⟨"component: ../parts/menu.spec", ⟨"pages/home.spec", 3⟩, true⟩

theorem Line.asks_nestedImport :
    Job.Asks ⟨Compiler.nested, none⟩ (.within .start "pages/home.spec") nestedImport
      (.within .start "pages/home.spec")
      (.file "./more/foot.spec" (some nestedImport.place)
        (Progress.within .start "pages/home.spec").store) := by
  have hkind : LineKind.of false nestedImport.text.toList =
      .directive " import ./more/foot.spec".toList := by
    decide
  have htext : Job.substitute ⟨Compiler.nested, none⟩
      (Progress.within .start "pages/home.spec").store none nestedImport.place
        (String.ofList " import ./more/foot.spec".toList) = .ok " import ./more/foot.spec" := by
    decide +kernel
  have hdirective : Directive.ofText (Text.trimmed " import ./more/foot.spec") =
      .ok (.importFile "./more/foot.spec") := by
    decide
  exact .intro rfl rfl hkind htext hdirective rfl

/-- The import is seen from the directory of the file.  So is the component, although the file
that was imported before it lies in another directory.  In the end the directory of the file
is left again. -/
theorem Job.paths_of_processText_nested :
    let j : Job Snapshot := ⟨Compiler.nested, none⟩
    (Progress.within .start "pages/home.spec").store.trail.resolve "./more/foot.spec" =
        "pages/more/foot.spec" ∧
      (∃ p, [Line.nestedImport, .nestedName, .nestedComponent].foldlM (j.feed (j.importing 1))
          (.within .start "pages/home.spec") = .ok p ∧
        p.store.trail.loaded.length = 1 ∧
        ∃ rule, j.ruleOf p.store none .nestedComponent = .ok rule ∧
          rule.requirement = .component "parts/menu.spec") ∧
      ∃ s, j.processText (j.importing 1) .start "pages/home.spec" Compiler.nestedText = .ok s ∧
        s.trail.directories = [] := by
  intro j
  have hlines : Line.scan Compiler.nestedText "pages/home.spec" 0 =
      .ok [.nestedImport, .nestedName, .nestedComponent] := rfl
  obtain ⟨_, hpaths, hstays⟩ :=
    paths_of_processText j 1 .start "pages/home.spec" Compiler.nestedText
  refine ⟨?_, ?_, ?_⟩
  · obtain ⟨requested, ht, hseen⟩ :=
      (hpaths [] _ _ hlines rfl).1 .nestedImport rfl _ _ Line.asks_nestedImport
    obtain ht | ht := ht
    · cases ht
      rw [hseen]
      decide +kernel
    · cases ht
  · obtain ⟨p, hp, hread⟩ : ∃ p, [Line.nestedImport, .nestedName, .nestedComponent].foldlM
        (j.feed (j.importing 1)) (.within .start "pages/home.spec") = .ok p ∧
          (p.cursor.pending, p.store.trail.loaded.length,
            (j.ruleOf p.store none .nestedComponent).toOption.map (·.text)) =
          (.object ⟨.nestedName, none, [.nestedComponent]⟩, 1,
            some "component: ../parts/menu.spec") :=
      exists_ok_of_toOption (by decide +kernel)
    obtain ⟨hpending, hread⟩ := Prod.mk.inj hread
    obtain ⟨hloaded, hread⟩ := Prod.mk.inj hread
    obtain ⟨rule, hrule, htext⟩ := exists_ok_of_toOption hread
    obtain ⟨r, hr, hseen⟩ := (hpaths _ [] p hlines hp).2 _ hpending .nestedComponent
      List.mem_cons_self none rule hrule
    have hcomponent : Requirement.ofText 2.0 "component: ../parts/menu.spec" =
        .ok (.component "../parts/menu.spec") := rfl
    rw [htext] at hr
    obtain rfl : .component "../parts/menu.spec" = r :=
      Except.ok.inj (hcomponent.symm.trans hr)
    refine ⟨p, hp, hloaded, rule, hrule, hseen.trans ?_⟩
    decide +kernel
  · obtain ⟨s, hs, _⟩ : ∃ s, j.processText (j.importing 1) .start "pages/home.spec"
        Compiler.nestedText = .ok s ∧ s.sections.length = 2 :=
      exists_ok_of_toOption (by decide +kernel)
    rw [hs] at hstays
    exact ⟨s, hs, hstays⟩

end PageLayout
