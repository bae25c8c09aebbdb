import PageLayout.Proofs.Compilation.Excerpts
import PageLayout.Proofs.Compilation.Spelling
import PageLayout.Proofs.Layout.Rules

/-!
# Where rules and places come from

A place is copied from its line into rules, sections, open blocks and errors, and a rule goes
from an object block into a section or a conditional that is still open.  A `Provenance` is what
one wants to know of all the places and of all the rules.  For a place it has to be shown where
lines are scanned, and for a rule where it is read from its line.  Nothing else makes either of
them.

`Ends` says of a part of a compilation what its errors and its results are like, and there is
one such lemma for every part.  The lines of a file are sound because every line is, and files
by induction on how deep they are nested.
-/

namespace PageLayout

/-! ## How steps end -/

/-- A step fails with errors of one kind, and gives results of one kind. -/
structure Ends {ε α : Type} (failed : ε → Prop) (done : α → Prop) (x : Except ε α) : Prop where
  error : ∀ e, x = .error e → failed e
  ok : ∀ a, x = .ok a → done a

namespace Ends

variable {ε α β : Type} {failed : ε → Prop} {done : α → Prop} {done' : β → Prop}
  {x : Except ε α}

theorem of_ok {a : α} (h : done a) : Ends failed done (.ok a) :=
  ⟨nofun, fun _ ha => Except.ok.inj ha ▸ h⟩

theorem of_error {e : ε} (h : failed e) : Ends failed done (.error e : Except ε α) :=
  ⟨fun _ he => Except.error.inj he ▸ h, nofun⟩

theorem bind {f : α → Except ε β} (hx : Ends failed done x)
    (hf : ∀ a, done a → Ends failed done' (f a)) : Ends failed done' (x >>= f) := by
  cases x with
  | error e => exact of_error (hx.error e rfl)
  | ok a => exact hf a (hx.ok a rfl)

theorem mapM {f : α → Except ε β} {as : List α} (hf : ∀ a ∈ as, Ends failed done' (f a)) :
    Ends failed (fun bs => ∀ b ∈ bs, done' b) (as.mapM f) := by
  induction as with
  | nil => exact of_ok nofun
  | cons a as ih =>
      rw [List.mapM_cons]
      refine (hf a List.mem_cons_self).bind fun b hb => ?_
      refine (ih fun a ha => hf a (List.mem_cons_of_mem _ ha)).bind fun bs hbs => ?_
      exact of_ok (List.forall_mem_cons.2 ⟨hb, hbs⟩)

end Ends

/-- What holds of the elements of a list holds after a change that keeps it. -/
theorem forall_mem_modify {α : Type} {Q : α → Prop} {l : List α} {index : Nat} {change : α → α}
    (hl : ∀ a ∈ l, Q a) (hchange : ∀ a, Q a → Q (change a)) : ∀ a ∈ l.modify index change, Q a := by
  intro a ha
  obtain ⟨n, hn⟩ := List.mem_iff_getElem?.1 ha
  rw [List.getElem?_modify] at hn
  obtain ⟨b, hb, rfl⟩ := Option.map_eq_some_iff.1 hn
  have hb := hl b (List.mem_of_getElem? hb)
  split
  next => exact hchange b hb
  next => exact hb

/-! ## What is known of places and rules -/

/-- What one wants to know of the places and the rules of a compilation.  A rule that is read in
the directory of the file of its line, and whose line stands at a known place, has to be kept. -/
structure Provenance {π : Type} (j : Job π) where
  /-- What is known of the places. -/
  known : Place → Prop
  /-- What is known of the rules. -/
  kept : Rule → Prop
  kept_of_ruleOf : ∀ {s : Store} {index : Option Int} {line : Line} {rule : Rule},
    known line.place →
      s.trail.directories.head? = some (Path.directory line.place.file) →
        j.ruleOf s index line = .ok rule → kept rule

namespace Provenance

variable {π : Type} {j : Job π} {P : Provenance j}

/-- The place of an error is known. -/
def Blames (P : Provenance j) (error : LayoutError) : Prop :=
  ∃ place, error.place? = some place ∧ P.known place

/-- The place of the error of a compilation that is given up is known. -/
def Stops (P : Provenance j) (a : Abort) : Prop := P.Blames a.error

/-- What is known holds of the rules of some objects. -/
def Keeps (P : Provenance j) (objects : List ObjectRules) : Prop :=
  ∀ o ∈ objects, ∀ rule ∈ o.rules, P.kept rule

/-- What is known holds of a section and its rules. -/
structure Covers (P : Provenance j) (s : Section) : Prop where
  place : P.known s.place
  objects : P.Keeps s.everyObject

/-- What is known holds of the sections of a store. -/
def Within (P : Provenance j) (s : Store) : Prop := ∀ x ∈ s.sections, P.Covers x

/-- The lines of a text that count stand at known places. -/
def Supports (P : Provenance j) : Excerpt → Prop
  | .text path text =>
      ∀ n raw, (Text.lines text.toList)[n]? = some raw → Line.isSilent raw = false →
        P.known ⟨path, n + 1⟩
  | .line _ _ => True

/-- A line stands at a known place in a file. -/
structure Knows (P : Provenance j) (path : String) (line : Line) : Prop where
  place : P.known line.place
  file : line.place.file = path

/-- What is known holds of everything that was read of a file so far. -/
structure Sound (P : Provenance j) (path : String) (p : Progress) : Prop where
  sections : P.Within p.store
  name : ∀ block, p.cursor.pending = .object block → P.known block.name.place
  lines : ∀ block, p.cursor.pending = .object block → ∀ line ∈ block.lines, P.Knows path line
  indexes : ∀ list place, p.cursor.indexes = some (list, place) → P.known place
  opened : ∀ c, p.cursor.conditional = some c → P.known c.place ∧ P.Keeps c.closed.everyObject

/-! ## Rules and sections -/

theorem keeps_append {objects objects' : List ObjectRules} :
    P.Keeps (objects ++ objects') ↔ P.Keeps objects ∧ P.Keeps objects' :=
  List.forall_mem_append

theorem covers_opened {place : Place} (hplace : P.known place) (name : String)
    (tags : List String) : P.Covers (.opened name tags place) :=
  ⟨hplace, nofun⟩

theorem Covers.withObjects {s : Section} {objects : List ObjectRules} (h : P.Covers s)
    (hobjects : P.Keeps objects) : P.Covers { s with objects := s.objects ++ objects } := by
  refine ⟨h.place, ?_⟩
  obtain ⟨hs, hconditionals⟩ := keeps_append.1 h.objects
  exact keeps_append.2 ⟨keeps_append.2 ⟨hs, hobjects⟩, hconditionals⟩

theorem Covers.withConditional {s : Section} {c : Conditional} (h : P.Covers s)
    (hc : P.Keeps c.everyObject) :
    P.Covers { s with conditionals := s.conditionals ++ [c] } := by
  refine ⟨h.place, ?_⟩
  obtain ⟨hs, hconditionals⟩ := keeps_append.1 h.objects
  refine keeps_append.2 ⟨hs, ?_⟩
  rw [List.flatMap_append, List.flatMap_singleton]
  exact keeps_append.2 ⟨hconditionals, hc⟩

/-- The rules of an open conditional are those of its parts. -/
theorem keeps_closed {c : OpenConditional} :
    P.Keeps c.closed.everyObject ↔
      P.Keeps (c.earlier.flatMap Condition.probes) ∧ P.Keeps c.latest.probes ∧
        P.Keeps c.body ∧ P.Keeps c.otherwise := by
  simp only [Conditional.everyObject, OpenConditional.closed, List.flatMap_append,
    List.flatMap_singleton, keeps_append, and_assoc]

theorem keeps_receive {c : OpenConditional} {objects : List ObjectRules}
    (hc : P.Keeps c.closed.everyObject) (hobjects : P.Keeps objects) :
    P.Keeps (c.receive objects).closed.everyObject := by
  obtain ⟨hearlier, hlatest, hbody, hotherwise⟩ := keeps_closed.1 hc
  rw [keeps_closed]
  unfold OpenConditional.receive
  split
  next => exact ⟨hearlier, keeps_append.2 ⟨hlatest, hobjects⟩, hbody, hotherwise⟩
  next => exact ⟨hearlier, hlatest, keeps_append.2 ⟨hbody, hobjects⟩, hotherwise⟩
  next => exact ⟨hearlier, hlatest, hbody, keeps_append.2 ⟨hotherwise, hobjects⟩⟩

theorem keeps_withCondition {c : OpenConditional} (hc : P.Keeps c.closed.everyObject)
    (inverted : Bool) : P.Keeps (c.withCondition inverted).closed.everyObject := by
  obtain ⟨hearlier, hlatest, hbody, hotherwise⟩ := keeps_closed.1 hc
  refine keeps_closed.2 ⟨?_, nofun, hbody, hotherwise⟩
  rw [OpenConditional.withCondition, List.flatMap_append, List.flatMap_singleton]
  exact keeps_append.2 ⟨hearlier, hlatest⟩

/-! ## Progress -/

section Progress

variable {path : String} {p : Progress}

theorem Sound.start {s : Store} (hs : P.Within s) : P.Sound path ⟨s, .start⟩ :=
  ⟨hs, nofun, nofun, nofun, nofun⟩

/-- Another store with the same sections, or with others that are covered. -/
theorem Sound.withStore (h : P.Sound path p) {s : Store} (hs : P.Within s) :
    P.Sound path ⟨s, p.cursor⟩ :=
  ⟨hs, h.name, h.lines, h.indexes, h.opened⟩

theorem Sound.withoutPending (h : P.Sound path p) : P.Sound path p.withoutPending :=
  ⟨h.sections, nofun, nofun, h.indexes, h.opened⟩

theorem Sound.withConditional (h : P.Sound path p) {c : OpenConditional} (hplace : P.known c.place)
    (hc : P.Keeps c.closed.everyObject) :
    P.Sound path { p with cursor := { p.cursor with conditional := some c } } :=
  ⟨h.sections, h.name, h.lines, h.indexes, fun _ hc' => Option.some.inj hc' ▸ ⟨hplace, hc⟩⟩

theorem Sound.put (h : P.Sound path p) {place : Place} (hplace : P.known place)
    {change : Section → Section} (hchange : ∀ s, P.Covers s → P.Covers (change s)) :
    P.Sound path (p.put place change) := by
  cases hc : p.cursor.current with
  | some index =>
      rw [Progress.put_current place change hc]
      exact h.withStore (forall_mem_modify h.sections hchange)
  | none =>
      rw [Progress.put_first place change hc]
      have hnew := hchange _ (covers_opened hplace "" [])
      have hsections := List.forall_mem_append.2 ⟨h.sections, List.forall_mem_singleton.2 hnew⟩
      exact ⟨hsections, h.name, h.lines, h.indexes, h.opened⟩

theorem Sound.attach (h : P.Sound path p) {objects : List ObjectRules} {place : Place}
    (hplace : P.known place) (hobjects : P.Keeps objects) :
    P.Sound path (p.attach objects place) := by
  cases hc : p.cursor.conditional with
  | some c =>
      rw [Progress.attach_conditional objects place hc]
      obtain ⟨hopen, hkeeps⟩ := h.opened c hc
      refine h.withConditional ?_ (keeps_receive hkeeps hobjects)
      have hsame : (c.receive objects).place = c.place := by
        unfold OpenConditional.receive
        split <;> rfl
      rwa [hsame]
  | none =>
      by_cases hnil : objects = []
      · subst hnil
        rwa [Progress.attach_nil place hc]
      · rw [Progress.attach_cons place hc hnil]
        exact h.put hplace fun s hs => hs.withObjects hobjects

theorem Sound.close (h : P.Sound path p) {c : OpenConditional}
    (hc : p.cursor.conditional = some c) : P.Sound path (p.close c) := by
  obtain ⟨hplace, hkeeps⟩ := h.opened c hc
  have hput : P.Sound path (p.put c.place fun s =>
      { s with conditionals := s.conditionals ++ [c.closed] }) :=
    h.put hplace fun s hs => hs.withConditional hkeeps
  rw [Progress.close_eq]
  exact ⟨hput.sections, hput.name, hput.lines, hput.indexes, nofun⟩

theorem Sound.enterSection (h : P.Sound path p) {new : Section} (hnew : P.Covers new) :
    P.Sound path (p.enterSection new) := by
  have hsections := List.forall_mem_append.2 ⟨h.sections, List.forall_mem_singleton.2 hnew⟩
  exact ⟨hsections, h.name, h.lines, h.indexes, h.opened⟩

/-- An error about a line below no object blames the section above it. -/
theorem Sound.sectionPlace (h : P.Sound path p) {line : Line} (hline : P.known line.place) :
    P.known (p.sectionPlace line) := by
  unfold Progress.sectionPlace
  split
  next s hs =>
    obtain ⟨index, _, hs⟩ := Option.bind_eq_some_iff.1 hs
    exact (h.sections s (List.mem_of_getElem? hs)).place
  next => exact hline

end Progress

/-! ## Steps -/

section Steps

variable {ε α : Type} {place : Place}

theorem ends_mapError {x : Except ε α} {f : ε → LayoutError} {done : α → Prop}
    (hplace : P.known place) (hf : ∀ e, (f e).place? = some place)
    (hx : ∀ a, x = .ok a → done a) : Ends P.Blames done (x.mapError f) := by
  cases x with
  | error e => exact .of_error ⟨place, hf e, hplace⟩
  | ok a => exact .of_ok (hx a rfl)

/-- A step that breaks a rule of the language on a known line. -/
theorem ends_fault {x : Except Fault α} {done : α → Prop} (hplace : P.known place)
    (hx : ∀ a, x = .ok a → done a) : Ends P.Blames done (x.mapError (.fault · place)) :=
  ends_mapError hplace (fun _ => rfl) hx

theorem ends_attempt {s : Store} {x : Except LayoutError α} {done : α → Prop}
    (hx : Ends P.Blames done x) : Ends P.Stops done (s.attempt x) := by
  cases x with
  | error e => exact .of_error (hx.error e rfl)
  | ok a => exact .of_ok (hx.ok a rfl)

theorem ends_substitute (s : Store) (index : Option Int) (text : String) (hplace : P.known place) :
    Ends P.Blames (fun _ => True) (j.substitute s index place text) := by
  have hfill : ∀ text, Ends P.Blames (fun _ => True)
      ((Template.fill (j.evaluator.evaluate (j.scope s index))
        (Template.expand j.properties text)).mapError (.evaluation · place)) := fun text =>
    ends_mapError hplace (fun cause => rfl) fun _ _ => trivial
  cases index with
  | none => exact hfill text
  | some i =>
      have hindex : Ends P.Blames (fun _ => True)
          ((Placeholder.fill i text).mapError (.fault · place)) :=
        ends_fault hplace fun _ _ => trivial
      exact hindex.bind fun text _ => hfill text

theorem ends_ruleOf {s : Store} {index : Option Int} {line : Line} {path : String}
    (hdirectory : s.trail.directories.head? = some (Path.directory path))
    (hline : P.Knows path line) : Ends P.Blames P.kept (j.ruleOf s index line) := by
  have herror : Ends P.Blames (fun _ => True) (j.ruleOf s index line) :=
    (ends_substitute s index line.text hline.place).bind fun text _ =>
      (ends_fault hline.place fun _ _ => trivial).bind fun requirement _ => .of_ok trivial
  exact ⟨herror.error, fun rule h =>
    P.kept_of_ruleOf hline.place (hline.file ▸ hdirectory) h⟩

theorem ends_objectsOf {s : Store} {block : ObjectBlock} {path : String}
    (hdirectory : s.trail.directories.head? = some (Path.directory path))
    (hname : P.known block.name.place) (hlines : ∀ line ∈ block.lines, P.Knows path line) :
    Ends P.Blames P.Keeps (j.objectsOf s block) := by
  have hrepetition : ∀ index, Ends P.Blames (fun o => ∀ rule ∈ o.rules, P.kept rule)
      (j.repetitionOf s block index) := by
    intro index
    refine (ends_substitute s index block.name.text hname).bind fun name _ => ?_
    refine (Ends.mapM fun line hline => ends_ruleOf hdirectory (hlines line hline)).bind ?_
    exact fun rules hrules => .of_ok hrules
  unfold Job.objectsOf
  split
  next =>
    exact (hrepetition none).bind fun o ho => .of_ok (List.forall_mem_singleton.2 ho)
  next indexes => exact Ends.mapM fun index _ => hrepetition (some index)

theorem ends_settle {p : Progress} {path : String} (h : P.Sound path p)
    (hdirectory : p.store.trail.directories.head? = some (Path.directory path)) :
    Ends P.Blames (P.Sound path) (j.settle p) := by
  by_cases hb : ∃ block, p.cursor.pending = .object block
  · obtain ⟨block, hb⟩ := hb
    rw [Job.settle_object hb]
    have hname := h.name block hb
    refine (ends_objectsOf hdirectory hname (h.lines block hb)).bind fun objects hobjects => ?_
    exact .of_ok (h.withoutPending.attach hname hobjects)
  · rw [Job.settle_other fun block h => hb ⟨block, h⟩]
    exact .of_ok h.withoutPending

theorem within_extends {s s' : Store} (hs : P.Within s) (h : s.Extends s') : P.Within s' := by
  unfold Within
  rwa [h.sections]

theorem ends_define [Page π] {s : Store} {line : Line} (hs : P.Within s)
    (hplace : P.known line.place) : Ends P.Blames P.Within (j.define s line) := by
  have herror : Ends P.Blames (fun _ => True) (j.define s line) :=
    (ends_substitute s none line.text hplace).bind fun text _ =>
      ends_fault hplace fun _ _ => trivial
  exact ⟨herror.error, fun s' h => within_extends hs (Job.extends_of_define h)⟩

theorem ends_assign {s : Store} {definition : String} (hs : P.Within s)
    (hplace : P.known place) : Ends P.Blames P.Within (Job.assign s place definition) := by
  have herror : Ends P.Blames (fun _ => True) (Job.assign s place definition) :=
    (ends_fault hplace fun _ _ => trivial).bind fun _ _ => .of_ok trivial
  exact ⟨herror.error, fun s' h => within_extends hs (Job.extends_of_assign h)⟩

theorem ends_loadScript {s : Store} {requested : String} (hs : P.Within s)
    (hplace : P.known place) : Ends P.Blames P.Within (j.loadScript s requested place) := by
  refine ⟨fun error h => ?_, fun s' h => ?_⟩
  · rw [Job.loadScript_eq] at h
    refine ⟨place, ?_, hplace⟩
    split at h
    next =>
      cases h
      rfl
    next => cases h
    next =>
      split at h
      next =>
        cases h
        rfl
      next => cases h
  · unfold Within
    rwa [Job.sections_loadScript h]

end Steps

/-! ## Lines -/

section Lines

variable {load : Loader} {path : String} {p : Progress} {line : Line}

/-- A directive that is carried out is sound if a file that it imports is. -/
theorem sound_directs {place : Place} {d : Directive} {p' : Progress} (h : P.Sound path p)
    (hplace : P.known place) (hdirects : j.Directs load p place d p')
    (hload : ∀ requested, d = .importFile requested → ∀ s, load requested place p.store = .ok s →
      P.Within s) : P.Sound path p' := by
  cases hdirects with
  | @importFile requested s hs => exact h.withStore (hload requested rfl s hs)
  | loadScript hs => exact h.withStore ((ends_loadScript h.sections hplace).ok _ hs)
  | setBlock => exact ⟨h.sections, nofun, nofun, h.indexes, h.opened⟩
  | set hs => exact h.withStore ((ends_assign h.sections hplace).ok _ hs)
  | ifHolds => exact h.withConditional hplace nofun
  | orHolds hc =>
      obtain ⟨hopen, hkeeps⟩ := h.opened _ hc
      exact h.withConditional hopen (keeps_withCondition hkeeps _)
  | doRules hc | otherwise hc =>
      obtain ⟨hopen, hkeeps⟩ := h.opened _ hc
      exact h.withConditional hopen hkeeps
  | close hc => exact h.close hc

theorem ends_directed {place : Place} {text : String} (h : P.Sound path p)
    (hplace : P.known place)
    (hload : ∀ requested, Directive.ofText text = .ok (.importFile requested) →
      Ends P.Stops P.Within (load requested place p.store)) :
    Ends P.Stops (P.Sound path) (j.directed load p place text) := by
  have herror : Ends P.Stops (fun _ => True) (j.directed load p place text) := by
    have hd : Ends P.Stops (fun d => Directive.ofText text = .ok d)
        (p.store.attempt ((Directive.ofText text).mapError (.fault · place))) :=
      ends_attempt (ends_fault hplace fun _ => id)
    refine hd.bind fun d hd => ?_
    cases d with
    | importFile requested => exact (hload requested hd).bind fun _ _ => .of_ok trivial
    | loadScript requested =>
        exact (ends_attempt (ends_loadScript h.sections hplace)).bind fun _ _ => .of_ok trivial
    | setBlock => exact .of_ok trivial
    | set definition =>
        exact (ends_attempt (ends_assign h.sections hplace)).bind fun _ _ => .of_ok trivial
    | _ => exact ends_attempt (ends_fault hplace fun _ _ => trivial)
  refine ⟨herror.error, fun p' hp' => ?_⟩
  obtain ⟨d, hd, hdirects⟩ := Job.directed_ok hp'
  exact sound_directs h hplace hdirects fun requested heq s hs =>
    (hload requested (heq ▸ hd)).ok s hs

variable [Page π]

theorem ends_opened (h : P.Sound path p) (hline : P.Knows path line)
    (hload : ∀ requested, j.openingEffect p line = .imports requested p.store →
      Ends P.Stops P.Within (load requested line.place p.store)) :
    Ends P.Stops (P.Sound path) (j.opened load p line) := by
  have hplace := hline.place
  have htext : ∀ text, Ends P.Stops (fun t => j.substitute p.store none line.place text = .ok t)
      (p.store.attempt (j.substitute p.store none line.place text)) := fun text =>
    ends_attempt ⟨(ends_substitute p.store none text hplace).error, fun _ => id⟩
  rw [Job.opened_eq]
  unfold Job.openingEffect at hload
  cases hk : LineKind.of p.cursor.defining line.text.toList with
  | definitionRuler => exact .of_ok ⟨h.sections, h.name, h.lines, h.indexes, h.opened⟩
  | definition =>
      exact (ends_attempt (ends_define h.sections hplace)).bind fun s hs =>
        .of_ok (h.withStore hs)
  | directive rest =>
      refine (htext (String.ofList rest)).bind fun text ht => ?_
      refine ends_directed h hplace fun requested hd => hload requested ?_
      simp only [hk, ht, hd]
  | header rest =>
      refine (htext (String.ofList rest)).bind fun text _ => ?_
      refine ends_attempt (ends_fault hplace fun p' hp' => ?_)
      obtain ⟨_, name, tags, _, rfl⟩ := Job.headed_ok hp'
      exact h.enterSection (covers_opened hplace name tags)
  | ruler => exact .of_ok h
  | indexList =>
      refine (htext (String.ofList line.text.toList)).bind fun text _ => ?_
      refine ends_attempt (ends_fault hplace fun p' hp' => ?_)
      obtain ⟨list, _, hp'⟩ := bind_eq_ok_iff.1 hp'
      cases hp'
      exact ⟨h.sections, h.name, h.lines, fun _ _ heq => by cases heq; exact hplace, h.opened⟩
  | objectName =>
      refine .of_ok ⟨h.sections, fun block hb => ?_, fun block hb => ?_, nofun, h.opened⟩
      · cases hb
        exact hplace
      · cases hb
        exact nofun

theorem ends_continued (h : P.Sound path p) (hline : P.Knows path line) :
    Ends P.Blames (P.Sound path) (j.continued p line) := by
  unfold Job.continued
  split
  next block hb =>
    refine .of_ok ⟨h.sections, fun block' hb' => ?_, fun block' hb' => ?_, h.indexes, h.opened⟩
    · cases hb'
      exact h.name block hb
    · cases hb'
      exact List.forall_mem_append.2 ⟨h.lines block hb, List.forall_mem_singleton.2 hline⟩
  next =>
    refine (ends_substitute p.store none line.text hline.place).bind fun text _ => ?_
    exact (ends_assign h.sections hline.place).bind fun s hs => .of_ok (h.withStore hs)
  next =>
    split
    next =>
      exact (ends_define h.sections hline.place).bind fun s hs => .of_ok (h.withStore hs)
    next => exact .of_error ⟨_, rfl, h.sectionPlace hline.place⟩

theorem ends_feed (h : P.Sound path p) (hline : P.Knows path line)
    (hdirectory : p.store.trail.directories.head? = some (Path.directory path))
    (hload : ∀ requested s, j.effectOf p line = .imports requested s → P.Within s →
      Ends P.Stops P.Within (load requested line.place s)) :
    Ends P.Stops (P.Sound path) (j.feed load p line) := by
  by_cases hindented : line.indented = true
  · rw [Job.feed_indented p hindented]
    exact ends_attempt (ends_continued h hline)
  · rw [Job.feed_not_indented p (Bool.not_eq_true _ ▸ hindented)]
    have hsettle := ends_settle (j := j) h hdirectory
    cases hp : j.settle p with
    | error error => exact .of_error (hsettle.error error hp)
    | ok p' =>
        have h' := hsettle.ok p' hp
        refine ends_opened h' hline fun requested heffect => ?_
        refine hload requested p'.store ?_ h'.sections
        rw [Job.effectOf, if_neg hindented, hp]
        exact heffect

/-- The lines of a file end in the directory of the file, and are sound if the files are that they
import. -/
theorem ends_lines {nesting : Nat}
    (hfile : ∀ requested place s, P.known place → P.Within s →
      (∀ x ∈ j.excerptsOfFile nesting requested s, P.Supports x) →
        Ends P.Stops P.Within (j.importing nesting requested place s))
    {lines : List Line} (h : P.Sound path p)
    (hdirectory : p.store.trail.directories.head? = some (Path.directory path))
    (hlines : ∀ line ∈ lines, P.Knows path line)
    (hexcerpts : ∀ x ∈ j.excerptsOfLines (j.importing nesting) (j.excerptsOfFile nesting) p lines,
      P.Supports x) :
    Ends P.Stops (fun p' => P.Sound path p' ∧
        p'.store.trail.directories.head? = some (Path.directory path))
      (lines.foldlM (j.feed (j.importing nesting)) p) := by
  induction lines generalizing p with
  | nil => exact .of_ok ⟨h, hdirectory⟩
  | cons line lines ih =>
      obtain ⟨hline, hlines⟩ := List.forall_mem_cons.1 hlines
      obtain ⟨_, himport, hrest⟩ := Job.forall_mem_excerptsOfLines.1 hexcerpts
      rw [List.foldlM_cons]
      have hfeed : Ends P.Stops (P.Sound path) (j.feed (j.importing nesting) p line) :=
        ends_feed h hline hdirectory fun requested s heffect hs =>
          hfile requested line.place s hline.place hs (himport requested s heffect)
      cases hp : j.feed (j.importing nesting) p line with
      | error a => exact .of_error (hfeed.error a hp)
      | ok p' =>
          have hstays : Stays (fun p => p.store.trail) p.store.trail
              (j.feed (j.importing nesting) p line) :=
            Job.stays_feed (Job.stays_importing nesting) p line
          rw [hp] at hstays
          have hdirectories : p'.store.trail.directories = p.store.trail.directories := hstays
          exact ih (hfeed.ok p' hp) (hdirectories ▸ hdirectory) hlines (hrest p' hp)

end Lines

/-! ## Files -/

section Files

variable {path : String}

theorem ends_finish {p : Progress} (h : P.Sound path p)
    (hdirectory : p.store.trail.directories.head? = some (Path.directory path)) :
    Ends P.Blames P.Within (j.finish p) := by
  refine (ends_settle h hdirectory).bind fun p' h' => ?_
  split
  next c hc => exact .of_error ⟨c.place, rfl, (h'.opened c hc).1⟩
  next list place _ hi => exact .of_error ⟨place, rfl, h'.indexes list place hi⟩
  next => exact .of_ok h'.sections

/-- The lines of a text stand at known places if the lines do that count. -/
theorem ends_scanFrom {above number : Nat} {rows : List (List Char)}
    (h : ∀ n raw, rows[n]? = some raw → Line.isSilent raw = false → P.known ⟨path, number + n⟩) :
    Ends P.Blames (fun lines => ∀ line ∈ lines, P.Knows path line)
      (Line.scanFrom path above number rows) := by
  induction rows generalizing above number with
  | nil => exact .of_ok nofun
  | cons raw rows ih =>
      have hrows : ∀ n raw, rows[n]? = some raw → Line.isSilent raw = false →
          P.known ⟨path, number + 1 + n⟩ := by
        intro n raw hraw hcounts
        rw [Nat.add_assoc, Nat.add_comm 1 n]
        exact h (n + 1) raw hraw hcounts
      unfold Line.scanFrom
      split
      next => exact ih hrows
      next hcounts =>
        have hplace : P.known ⟨path, number⟩ := h 0 raw rfl (Bool.not_eq_true _ ▸ hcounts)
        dsimp only
        split
        next => exact .of_error ⟨_, rfl, hplace⟩
        next =>
          exact (ih hrows).bind fun lines hlines =>
            .of_ok (List.forall_mem_cons.2 ⟨⟨hplace, rfl⟩, hlines⟩)

/-- The sections are the same outside of a file. -/
theorem ends_leaving {done : Except Abort Store} (h : Ends P.Stops P.Within done) :
    Ends P.Stops P.Within (leaving done) := by
  cases done with
  | error a => exact .of_error (h.error a rfl)
  | ok s => exact .of_ok (h.ok s rfl)

/-- The layout has the sections in the end, or some of them. -/
theorem ends_result {done : Except Abort Store} (h : Ends P.Stops P.Within done) :
    Ends P.Blames (fun l => ∀ s ∈ l.sections, P.Covers s) (j.result done) := by
  cases done with
  | error a => exact .of_error (h.error a rfl)
  | ok s =>
      have hs := h.ok s rfl
      refine .of_ok ?_
      split
      next => exact fun x hx => hs x (List.mem_filter.1 hx).1
      next => exact hs

variable [Page π]

theorem ends_processText {nesting : Nat}
    (hfile : ∀ requested place s, P.known place → P.Within s →
      (∀ x ∈ j.excerptsOfFile nesting requested s, P.Supports x) →
        Ends P.Stops P.Within (j.importing nesting requested place s))
    {s : Store} {text : String} (hs : P.Within s)
    (hexcerpts : ∀ x ∈ j.excerptsOfText (j.importing nesting) (j.excerptsOfFile nesting) s path text,
      P.Supports x) :
    Ends P.Stops P.Within
      (j.processText (j.importing nesting) (s.marked path text) path text) := by
  obtain ⟨htext, hinside⟩ := Job.forall_mem_excerptsOfText.1 hexcerpts
  have hscan : Ends P.Blames (fun lines => ∀ line ∈ lines, P.Knows path line)
      (Line.scan text path 0) := by
    refine ends_scanFrom fun n raw hraw hcounts => ?_
    rw [Nat.add_comm]
    exact htext n raw hraw hcounts
  rw [Job.processText_eq]
  cases hlines : Line.scan text path 0 with
  | error error => exact .of_error (hscan.error error hlines)
  | ok lines =>
      have hread : Ends P.Stops P.Within
          (j.readLines (j.importing nesting) (s.inside path text) lines) := by
        have hstart : P.Sound path ⟨s.inside path text, .start⟩ := .start hs
        have hends := ends_lines hfile hstart rfl (hscan.ok lines hlines) (hinside lines hlines)
        exact hends.bind fun p hp => ends_attempt (ends_finish hp.1 hp.2)
      exact ends_leaving hread

/-- A file that a line asks for is sound if the texts support it that are read in it. -/
theorem ends_importing (nesting : Nat) (requested : String) (place : Place) (s : Store)
    (hplace : P.known place) (hs : P.Within s)
    (hexcerpts : ∀ x ∈ j.excerptsOfFile nesting requested s, P.Supports x) :
    Ends P.Stops P.Within (j.importing nesting requested place s) := by
  induction nesting generalizing requested place s with
  | zero => exact .of_error ⟨place, rfl, hplace⟩
  | succ nesting ih =>
      rw [Job.importing, Job.processFile_eq]
      cases hlead : j.lead s requested with
      | missing reason => exact .of_error ⟨place, rfl, hplace⟩
      | known text => exact .of_ok hs
      | new text =>
          exact ends_processText ih hs (Job.forall_mem_excerptsOfFile.1 hexcerpts text hlead)

end Files

end Provenance

/-! ## Compilations -/

namespace Compiler

variable {π : Type} [Page π] {c : Compiler π} {page : Option π}

/-- What is known holds of the sections and of the errors of the compilation of a text. -/
theorem ends_compileText (P : Provenance (⟨c, page⟩ : Job π)) {text label : String}
    (hexcerpts : ∀ x ∈ c.excerptsOfText page text label, P.Supports x) :
    Ends P.Blames (fun l => ∀ s ∈ l.sections, P.Covers s) (c.compileText page text label) := by
  have htext : Ends P.Stops P.Within (Job.processText ⟨c, page⟩ (Job.loader ⟨c, page⟩)
      (Store.start.marked (Path.normalize label) text) (Path.normalize label) text) :=
    Provenance.ends_processText (Provenance.ends_importing _) nofun hexcerpts
  exact Provenance.ends_result htext

/-- The same of a file.  Only the error about the file itself blames no place. -/
theorem ends_compile (P : Provenance (⟨c, page⟩ : Job π)) {path : String}
    (hexcerpts : ∀ x ∈ c.excerpts page path, P.Supports x) :
    Ends (fun error => P.Blames error ∨ ∃ reason,
        c.source.read (Trail.start.resolve path) = .error reason ∧
          error = .unreadable (Trail.start.resolve path) reason none)
      (fun l => ∀ s ∈ l.sections, P.Covers s) (c.compile page path) := by
  have hstart : P.Within .start := nofun
  unfold compile
  dsimp only
  rw [Job.processFile_eq]
  cases hlead : Job.lead ⟨c, page⟩ .start path with
  | missing reason => exact .of_error (.inr ⟨reason, Job.read_of_lead_missing hlead, rfl⟩)
  | known text =>
      have h : Ends P.Blames _ (Job.result ⟨c, page⟩ (.ok .start)) :=
        Provenance.ends_result (.of_ok hstart)
      exact ⟨fun error he => .inl (h.error error he), h.ok⟩
  | new text =>
      have hinside := Job.forall_mem_excerptsOfFile.1 hexcerpts text hlead
      have h := Provenance.ends_result
        (Provenance.ends_processText (Provenance.ends_importing _) hstart hinside)
      exact ⟨fun error he => .inl (h.error error he), h.ok⟩

end Compiler

end PageLayout
