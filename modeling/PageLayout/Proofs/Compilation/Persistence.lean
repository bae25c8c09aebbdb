import PageLayout.Proofs.Compilation.Excerpts
import PageLayout.Proofs.Compilation.Faithful
import PageLayout.Proofs.Expression.Persistence
import PageLayout.Proofs.Layout.Rules

/-!
# Layouts persist when a page is given

A page is looked at in two places: where an expression measures an object, and where a group is
declared.  The first fails without a page, but the second gives no objects.  So a compilation
that gives a layout without a page gives the same layout with any, if none of its lines declares
a group.

`Persists` goes through all parts of a compilation.  Which lines are read in the compilation
without a page is said by its `Excerpt`s, and as long as it goes well the other one reads the
same lines with the same progress.
-/

namespace PageLayout

namespace Job

variable {π : Type}

/-- The same compilation for a page. -/
def on (j : Job π) (page : π) : Job π := { j with page := some page }

/-! ## Groups -/

/-- Whether a definition is that of a group. -/
def declaresGroup (j : Job π) (s : Store) (line : Line) : Bool :=
  match j.substitute s none line.place line.text with
  | .error _ => false
  | .ok text =>
      match readDefinition text with
      | .error _ => false
      | .ok (name, _) => (Text.dropSuffix? ['*'] name).isSome

/-- The store that a line is a definition in, if it is one. -/
def definesIn (j : Job π) (p : Progress) (line : Line) : Option Store :=
  if line.indented then
    match p.cursor.pending, p.cursor.defining with
    | .nothing, true => some p.store
    | _, _ => none
  else
    match j.settle p with
    | .error _ => none
    | .ok p =>
        match LineKind.of p.cursor.defining line.text.toList with
        | .definition => some p.store
        | _ => none

end Job

/-- Whether what is read is the definition of a group. -/
def Excerpt.isGroup {π : Type} (j : Job π) : Excerpt → Bool
  | .text _ _ => false
  | .line p l => (j.definesIn p l).any fun s => j.declaresGroup s l

theorem Excerpt.declaresGroup_of_isGroup {π : Type} {j : Job π} {p : Progress} {l : Line}
    {s : Store} (h : isGroup j (.line p l) = false) (hs : j.definesIn p l = some s) :
    j.declaresGroup s l = false := by
  rw [isGroup, hs] at h
  exact h

namespace Persists

variable {α : Type}

theorem attempt {x y : Except LayoutError α} (s : Store) (h : Persists x y) :
    Persists (s.attempt x) (s.attempt y) :=
  h.mapError _

theorem leaving {x y : Except Abort Store} (h : Persists x y) :
    Persists (leaving x) (PageLayout.leaving y) := by
  cases x with
  | error a => exact .of_error _ _
  | ok s =>
      rw [h s rfl]
      exact .refl _

end Persists

namespace Job

variable {π : Type} {j : Job π} {page : π}

/-! ## Object blocks -/

section

variable (hj : j.page = none) (he : j.evaluator.Persistent page)
include hj he

theorem persists_substitute (s : Store) (index : Option Int) (place : Place) (text : String) :
    Persists (j.substitute s index place text) ((j.on page).substitute s index place text) := by
  have hfill : ∀ text, Persists
      (Template.fill (j.evaluator.evaluate (j.scope s index)) text)
      (Template.fill (j.evaluator.evaluate ((j.scope s index).on page)) text) :=
    Template.persists_fill fun source => he.evaluate (j.scope s index) source hj
  cases index with
  | none => exact (hfill _).mapError _
  | some i => exact (Persists.refl _).bind fun text _ => (hfill _).mapError _

theorem persists_ruleOf (s : Store) (index : Option Int) (line : Line) :
    Persists (j.ruleOf s index line) ((j.on page).ruleOf s index line) :=
  (persists_substitute hj he s index line.place line.text).bind fun _ _ => .refl _

theorem persists_objectsOf (s : Store) (block : ObjectBlock) :
    Persists (j.objectsOf s block) ((j.on page).objectsOf s block) := by
  have hrepetition : ∀ index,
      Persists (j.repetitionOf s block index) ((j.on page).repetitionOf s block index) := by
    intro index
    refine (persists_substitute hj he s index block.name.place block.name.text).bind fun _ _ => ?_
    refine (Persists.mapM block.lines fun line _ => ?_).bind fun _ _ => .refl _
    exact persists_ruleOf hj he s index line
  unfold objectsOf
  split
  next => exact (hrepetition none).bind fun _ _ => .refl _
  next indexes _ => exact .mapM indexes fun index _ => hrepetition (some index)

theorem persists_settle (p : Progress) : Persists (j.settle p) ((j.on page).settle p) := by
  unfold settle
  split
  next block _ => exact (persists_objectsOf hj he p.store block).bind fun _ _ => .refl _
  next => exact .refl _

theorem persists_finish (p : Progress) : Persists (j.finish p) ((j.on page).finish p) :=
  (persists_settle hj he p).bind fun _ _ => .refl _

/-! ## Lines -/

theorem persists_loadScript (s : Store) (requested : String) (place : Place) :
    Persists (j.loadScript s requested place) ((j.on page).loadScript s requested place) := by
  rw [loadScript_eq, loadScript_eq]
  have hlead : (j.on page).lead s requested = j.lead s requested := rfl
  rw [hlead]
  split
  next => exact .refl _
  next => exact .refl _
  next text _ =>
    have hdefinitions := he.definitions (s.trail.resolve requested) text
      (j.scope (s.marked (s.trail.resolve requested) text) none) hj
    cases hd : j.evaluator.definitions (s.trail.resolve requested) text
        (j.scope (s.marked (s.trail.resolve requested) text) none) with
    | error cause => exact .of_error _ _
    | ok definitions =>
        have hd' : (j.on page).evaluator.definitions (s.trail.resolve requested) text
            ((j.on page).scope (s.marked (s.trail.resolve requested) text) none) =
              .ok definitions := hdefinitions definitions hd
        rw [hd']
        exact .refl _

theorem persists_directed {load load' : Loader} {p : Progress} {place : Place} {text : String}
    (hload : ∀ requested, Directive.ofText text = .ok (.importFile requested) →
      Persists (load requested place p.store) (load' requested place p.store)) :
    Persists (j.directed load p place text) ((j.on page).directed load' p place text) := by
  refine (Persists.refl _).bind fun d hd => ?_
  rw [attempt_eq_ok_iff, mapError_eq_ok_iff] at hd
  cases d with
  | importFile requested => exact (hload requested hd).bind fun _ _ => .refl _
  | loadScript requested =>
      exact ((persists_loadScript hj he p.store requested place).attempt p.store).bind fun _ _ =>
        .refl _
  | _ => exact .refl _

variable [Page π]

/-- A definition that is not that of a group does not depend on the page. -/
theorem persists_define {s : Store} {line : Line} (hgroup : j.declaresGroup s line = false) :
    Persists (j.define s line) ((j.on page).define s line) := by
  refine (persists_substitute hj he s none line.place line.text).bind fun text ht => ?_
  refine Persists.mapError _ ((Persists.refl _).bind fun (name, locator) hr => ?_)
  rw [declaresGroup, ht] at hgroup
  dsimp only at hgroup
  rw [hr] at hgroup
  have hname : Text.dropSuffix? ['*'] name = none :=
    Option.not_isSome_iff_eq_none.1 (Bool.not_eq_true _ ▸ hgroup)
  dsimp only
  rw [hname]
  exact .refl _

theorem persists_opened {load load' : Loader} {p : Progress} {line : Line}
    (hgroup : LineKind.of p.cursor.defining line.text.toList = .definition →
      j.declaresGroup p.store line = false)
    (hload : ∀ requested, j.openingEffect p line = .imports requested p.store →
      Persists (load requested line.place p.store) (load' requested line.place p.store)) :
    Persists (j.opened load p line) ((j.on page).opened load' p line) := by
  have htext : ∀ text, Persists (p.store.attempt (j.substitute p.store none line.place text))
      (p.store.attempt ((j.on page).substitute p.store none line.place text)) := fun text =>
    (persists_substitute hj he p.store none line.place text).attempt p.store
  rw [opened_eq, opened_eq]
  unfold openingEffect at hload
  cases hk : LineKind.of p.cursor.defining line.text.toList with
  | definitionRuler | ruler | objectName => exact .refl _
  | definition =>
      exact ((persists_define hj he (hgroup hk)).attempt p.store).bind fun _ _ => .refl _
  | directive rest =>
      refine (htext (String.ofList rest)).bind fun text ht => ?_
      rw [attempt_eq_ok_iff] at ht
      refine persists_directed hj he fun requested hd => hload requested ?_
      simp only [hk, ht, hd]
  | header rest => exact (htext (String.ofList rest)).bind fun _ _ => .refl _
  | indexList => exact (htext (String.ofList line.text.toList)).bind fun _ _ => .refl _

theorem persists_continued {p : Progress} {line : Line}
    (hgroup : p.cursor.pending = .nothing → p.cursor.defining = true →
      j.declaresGroup p.store line = false) :
    Persists (j.continued p line) ((j.on page).continued p line) := by
  unfold continued
  split
  next => exact .refl _
  next =>
    exact (persists_substitute hj he p.store none line.place line.text).bind fun _ _ => .refl _
  next hpending =>
    split
    next hdefining =>
      exact (persists_define hj he (hgroup hpending hdefining)).bind fun _ _ => .refl _
    next => exact .refl _

theorem persists_feed {load load' : Loader} {p : Progress} {line : Line}
    (hgroup : ∀ s, j.definesIn p line = some s → j.declaresGroup s line = false)
    (hload : ∀ requested s, j.effectOf p line = .imports requested s →
      Persists (load requested line.place s) (load' requested line.place s)) :
    Persists (j.feed load p line) ((j.on page).feed load' p line) := by
  unfold definesIn at hgroup
  unfold effectOf at hload
  by_cases hindented : line.indented = true
  · rw [feed_indented p hindented, feed_indented p hindented]
    rw [if_pos hindented] at hgroup
    refine (persists_continued hj he fun hpending hdefining => ?_).attempt p.store
    exact hgroup p.store (by rw [hpending, hdefining])
  · rw [if_neg hindented] at hgroup hload
    rw [Bool.not_eq_true] at hindented
    rw [feed_not_indented p hindented, feed_not_indented p hindented]
    refine ((persists_settle hj he p).attempt p.store).bind fun p' hp' => ?_
    rw [attempt_eq_ok_iff] at hp'
    rw [hp'] at hgroup hload
    refine persists_opened hj he (fun hk => hgroup p'.store ?_) fun requested heffect =>
      hload requested p'.store heffect
    simp only [hk]

/-- Lines persist if the files do that they import. -/
theorem persists_lines {load load' : Loader} {inside : String → Store → List Excerpt}
    (hload : ∀ requested place s, (∀ x ∈ inside requested s, x.isGroup j = false) →
      Persists (load requested place s) (load' requested place s))
    {lines : List Line} {p : Progress}
    (hgroups : ∀ x ∈ j.excerptsOfLines load inside p lines, x.isGroup j = false) :
    Persists (lines.foldlM (j.feed load) p) (lines.foldlM ((j.on page).feed load') p) := by
  induction lines generalizing p with
  | nil => exact .refl _
  | cons line lines ih =>
      rw [List.foldlM_cons, List.foldlM_cons]
      obtain ⟨hline, himport, hrest⟩ := forall_mem_excerptsOfLines.1 hgroups
      have hgroup : ∀ s, j.definesIn p line = some s → j.declaresGroup s line = false :=
        fun s hs => Excerpt.declaresGroup_of_isGroup hline hs
      refine (persists_feed hj he hgroup fun requested s heffect => ?_).bind fun p' hp' => ?_
      · exact hload requested line.place s (himport requested s heffect)
      · exact ih (hrest p' hp')

/-! ## Files -/

theorem persists_processText {load load' : Loader} {inside : String → Store → List Excerpt}
    (hload : ∀ requested place s, (∀ x ∈ inside requested s, x.isGroup j = false) →
      Persists (load requested place s) (load' requested place s))
    {s : Store} {path text : String}
    (hgroups : ∀ x ∈ j.excerptsOfText load inside s path text, x.isGroup j = false) :
    Persists (j.processText load (s.marked path text) path text)
      ((j.on page).processText load' (s.marked path text) path text) := by
  rw [processText_eq, processText_eq]
  cases hscan : Line.scan text path 0 with
  | error error => exact .refl _
  | ok lines =>
      have hlines := (forall_mem_excerptsOfText.1 hgroups).2 lines hscan
      refine Persists.leaving ((persists_lines hj he hload hlines).bind fun p _ => ?_)
      exact (persists_finish hj he p).attempt p.store

/-- A file persists if no line declares a group that is read in it, however deep others are
nested in it. -/
theorem persists_processFile (nesting : Nat) (requested : String) (place : Option Place)
    (s : Store) (hgroups : ∀ x ∈ j.excerptsOfFile nesting requested s, x.isGroup j = false) :
    Persists (j.processFile nesting requested place s)
      ((j.on page).processFile nesting requested place s) := by
  induction nesting generalizing requested place s with
  | zero => exact .refl _
  | succ nesting ih =>
      rw [processFile_eq, processFile_eq]
      have hlead : (j.on page).lead s requested = j.lead s requested := rfl
      rw [hlead]
      cases hnew : j.lead s requested with
      | missing reason => exact .refl _
      | known text => exact .refl _
      | new text =>
          exact persists_processText hj he (fun requested place s h => ih requested (some place) s h)
            (forall_mem_excerptsOfFile.1 hgroups text hnew)

end

theorem persists_result {done done' : Except Abort Store} (h : Persists done done') :
    Persists (j.result done) ((j.on page).result done') := by
  cases done with
  | error a => exact .of_error _ _
  | ok s =>
      rw [h s rfl]
      exact .refl _

end Job

namespace Compiler

variable {π : Type} [Page π]

/-- A layout that is compiled without a page is compiled with any page, if no line that is read
declares a group. -/
theorem compile_on_page (c : Compiler π) (hc : c.evaluator = .standard) (page : π) :
    (∀ path l, (∀ x ∈ c.excerpts none path, x.isGroup ⟨c, none⟩ = false) →
      c.compile none path = .ok l → c.compile (some page) path = .ok l) ∧
    ∀ text label l, (∀ x ∈ c.excerptsOfText none text label, x.isGroup ⟨c, none⟩ = false) →
      c.compileText none text label = .ok l → c.compileText (some page) text label = .ok l := by
  have he : c.evaluator.Persistent page := hc ▸ Evaluator.persistent_standard page
  constructor
  · intro path l hgroups h
    have hfile := Job.persists_processFile (j := ⟨c, none⟩) rfl he (c.source.size + 1) path none
      .start hgroups
    exact Job.persists_result hfile l h
  · intro text label l hgroups h
    have hload : ∀ requested place s,
        (∀ x ∈ Job.excerptsOfFile ⟨c, none⟩ (c.source.size + 1) requested s,
          x.isGroup (⟨c, none⟩ : Job π) = false) →
        Persists (Job.loader ⟨c, none⟩ requested place s)
          (Job.loader ⟨c, some page⟩ requested place s) := fun requested place s h =>
      Job.persists_processFile rfl he _ requested (some place) s h
    have htext := Job.persists_processText (j := ⟨c, none⟩) rfl he hload hgroups
    exact Job.persists_result htext l h

/-- A file with a definition, a script, and an import. -/
def pagelessSample : Compiler Snapshot :=
  ⟨⟨2.0, true⟩, .ofList [("kind", "css")], .standard, .memory
    [("home", "===\nlogo $kind .logo\n===\n@@ script go\n@@ import box\n"),
      ("go", "var go = 'on' // label\n"),
      ("box", "[1 to $\x7bcount(\"l*\")\x7d]\nbox@\n text is: $\x7bgo\x7d\n")]⟩

/-- A page with one of the objects that it declares. -/
def pagelessPage : Snapshot := ⟨none, [.mk .css ".logo" ⟨⟨0, 0, 10, 10⟩, none, true⟩ []]⟩

/-- The layout of the file is the same on the page, and so is that of a text. -/
theorem compile_on_page_sample :
    (∃ l, pagelessSample.compile none "home" = .ok l ∧
      (l.objects.names, l.everyRule.map Rule.text) = (["logo"], ["text is: on"]) ∧
      pagelessSample.compile (some pagelessPage) "home" = .ok l) ∧
    ∃ l, pagelessSample.compileText none "===\nbox id b\n===\nbox\n absent" "text" = .ok l ∧
      (l.objects.names, l.everyRule.map Rule.text) = (["box"], ["absent"]) ∧
      pagelessSample.compileText (some pagelessPage) "===\nbox id b\n===\nbox\n absent" "text" =
        .ok l := by
  obtain ⟨hcompile, htext⟩ := compile_on_page pagelessSample rfl pagelessPage
  constructor
  · obtain ⟨l, h, hrules⟩ : ∃ l, pagelessSample.compile none "home" = .ok l ∧
        (l.objects.names, l.everyRule.map Rule.text) = (["logo"], ["text is: on"]) :=
      exists_ok_of_toOption (by decide +kernel)
    exact ⟨l, h, hrules, hcompile "home" l (by decide +kernel) h⟩
  · obtain ⟨l, h, hrules⟩ : ∃ l,
        pagelessSample.compileText none "===\nbox id b\n===\nbox\n absent" "text" = .ok l ∧
          (l.objects.names, l.everyRule.map Rule.text) = (["box"], ["absent"]) :=
      exists_ok_of_toOption (by decide +kernel)
    exact ⟨l, h, hrules, htext _ "text" l (by decide +kernel) h⟩

/-- A group has elements on the page, and none without one. -/
example :
    let c : Compiler Snapshot :=
      ⟨⟨2.0, true⟩, .empty, .standard, .memory [("list.spec", "===\nlogo-* css .logo\n===")]⟩
    (c.excerpts none "list.spec").any (Excerpt.isGroup ⟨c, none⟩) = true ∧
      (c.compile none "list.spec").toOption.map (·.objects.names) = some [] ∧
      (c.compile (some pagelessPage) "list.spec").toOption.map (·.objects.names) =
        some ["logo-1"] := by
  decide +kernel

end Compiler

end PageLayout
