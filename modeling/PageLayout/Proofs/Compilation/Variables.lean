import PageLayout.Proofs.Compilation.Excerpts

/-!
# Which lines set a variable

`namesSet` tells the names of the variables that a line sets: a directive that sets one, a line
of a block of variables, and a script with its definitions.  No other line changes a value.  A
line that imports a file sets nothing itself, but the lines of that file may.

Whatever file a line stands in, its variables are those that the line right before it has left
behind (`Flows`).  This is an induction on how deep files are nested, which needs both halves at
once: the values at the lines inside an imported file, and the values after that file.

So a variable keeps its value over all lines that do not set it (`Flows.get?_later`).
-/

namespace PageLayout

/-- The name of the variable that a definition sets. -/
def assignedName (definition : String) : String :=
  String.ofList (Text.firstWord definition.toList).1

theorem Table.get?_insertAll_of_notMem {α : Type} {t : Table α} {entries : List (String × α)}
    {name : String} (h : name ∉ entries.map Prod.fst) :
    (t.insertAll entries).get? name = t.get? name := by
  induction entries generalizing t with
  | nil => rfl
  | cons e entries ih =>
      obtain ⟨he, hentries⟩ := not_or.1 (mt List.mem_cons.2 h)
      have hinsert : (t.insert e.1 e.2).get? name = t.get? name := by
        rw [Table.get?_insert, if_neg (Ne.symm he)]
      exact (ih hentries).trans hinsert

namespace Job

variable {π : Type}

/-! ## The names that are set -/

/-- The names that a script defines, if it was not read before. -/
def scriptNames (j : Job π) (s : Store) (requested : String) : List String :=
  match j.lead s requested with
  | .new text =>
      match j.evaluator.definitions (s.trail.resolve requested) text
          (j.scope (s.marked (s.trail.resolve requested) text) none) with
      | .ok definitions => definitions.map Prod.fst
      | .error _ => []
  | _ => []

/-- The names that a directive sets.  What an imported file sets is not among them. -/
def namesOfDirective (j : Job π) (s : Store) : Directive → List String
  | .set definition => [assignedName definition]
  | .loadScript path => j.scriptNames s path
  | _ => []

/-- The names that a line sets that is not indented, if no object block is pending. -/
def namesOpened (j : Job π) (p : Progress) (line : Line) : List String :=
  match LineKind.of p.cursor.defining line.text.toList with
  | .directive rest =>
      match j.substitute p.store none line.place (String.ofList rest) with
      | .error _ => []
      | .ok text =>
          match Directive.ofText (Text.trimmed text) with
          | .error _ => []
          | .ok d => j.namesOfDirective p.store d
  | _ => []

/-- The names that the line sets that is read next. -/
def namesSet (j : Job π) (p : Progress) (line : Line) : List String :=
  if line.indented then
    match p.cursor.pending with
    | .assignments =>
        match j.substitute p.store none line.place line.text with
        | .error _ => []
        | .ok text => [assignedName text]
    | _ => []
  else
    match j.settle p with
    | .error _ => []
    | .ok p => j.namesOpened p line

/-! ## Values after a step -/

variable {j : Job π} {load : Loader} {name : String}

theorem get?_values_assign {s s' : Store} {place : Place} {definition : String}
    (h : assign s place definition = .ok s') (hname : name ≠ assignedName definition) :
    s'.values.get? name = s.values.get? name := by
  obtain ⟨⟨set, value⟩, hset, h⟩ := bind_eq_ok_iff.1 h
  cases h
  rw [mapError_eq_ok_iff] at hset
  unfold readAssignment at hset
  dsimp only at hset
  split at hset
  next => cases hset
  next =>
    cases hset
    exact (Table.get?_insert ..).trans (if_neg (Ne.symm hname))

theorem get?_values_loadScript {s s' : Store} {requested : String} {place : Place}
    (h : j.loadScript s requested place = .ok s') (hname : name ∉ j.scriptNames s requested) :
    s'.values.get? name = s.values.get? name := by
  rw [loadScript_eq] at h
  unfold scriptNames at hname
  cases hlead : j.lead s requested with
  | missing reason =>
      rw [hlead] at h
      cases h
  | known text =>
      rw [hlead] at h
      cases h
      rfl
  | new text =>
      rw [hlead] at h hname
      dsimp only at h hname
      split at h
      next => cases h
      next definitions hdefinitions =>
        cases h
        rw [hdefinitions] at hname
        exact Table.get?_insertAll_of_notMem hname

theorem values_settle {p p' : Progress} (h : j.settle p = .ok p') :
    p'.store.values = p.store.values := by
  obtain ⟨sections, hs⟩ := store_settle h
  rw [hs]

theorem get?_values_directs {p p' : Progress} {place : Place} {d : Directive}
    (h : j.Directs load p place d p') (hname : name ∉ j.namesOfDirective p.store d)
    (himport : ∀ path s, d = .importFile path → load path place p.store = .ok s →
      s.values.get? name = p.store.values.get? name) :
    p'.store.values.get? name = p.store.values.get? name := by
  cases h with
  | @importFile path s hs => exact himport path s rfl hs
  | loadScript hs => exact get?_values_loadScript hs hname
  | set hs => exact get?_values_assign hs fun heq => hname (List.mem_singleton.2 heq)
  | @close c =>
      obtain ⟨sections, hs⟩ := p.store_close c
      rw [hs]
  | _ => rfl

variable [Page π]

theorem values_define {s s' : Store} {line : Line} (h : j.define s line = .ok s') :
    s'.values = s.values := by
  rw [define_eq] at h
  obtain ⟨ds, _, h⟩ := bind_eq_ok_iff.1 h
  unfold Store.declareAll at h
  split at h
  next =>
    cases h
    rfl
  next => cases h

theorem get?_values_continued {p p' : Progress} {line : Line} (hindented : line.indented = true)
    (hname : name ∉ j.namesSet p line) (h : j.continued p line = .ok p') :
    p'.store.values.get? name = p.store.values.get? name := by
  rw [namesSet, if_pos hindented] at hname
  unfold continued at h
  split at h
  next =>
    cases h
    rfl
  next hpending =>
    obtain ⟨text, htext, h⟩ := bind_eq_ok_iff.1 h
    obtain ⟨s, hs, h⟩ := bind_eq_ok_iff.1 h
    cases h
    rw [hpending, htext] at hname
    exact get?_values_assign hs fun heq => hname (List.mem_singleton.2 heq)
  next =>
    split at h
    next =>
      obtain ⟨s, hs, h⟩ := bind_eq_ok_iff.1 h
      cases h
      rw [values_define hs]
    next => cases h

theorem get?_values_opened {p p' : Progress} {line : Line} (hname : name ∉ j.namesOpened p line)
    (hload : ∀ path s, j.openingEffect p line = .imports path p.store →
      load path line.place p.store = .ok s → s.values.get? name = p.store.values.get? name)
    (h : j.opened load p line = .ok p') :
    p'.store.values.get? name = p.store.values.get? name := by
  have hopens := opened_ok h
  unfold namesOpened at hname
  unfold openingEffect at hload
  generalize LineKind.of p.cursor.defining line.text.toList = kind at hopens hname hload
  cases hopens with
  | definition hs => rw [values_define hs]
  | directive htext hd hdirects =>
      dsimp only at hname hload
      rw [htext] at hname hload
      dsimp only at hname hload
      rw [hd] at hname hload
      refine get?_values_directs hdirects hname ?_
      rintro path s rfl hs
      exact hload path s rfl hs
  | _ => rfl

/-- A variable keeps its value over a line that does not set it, if it keeps it over the file that
the line imports. -/
theorem get?_values_feed {p p' : Progress} {line : Line} (hname : name ∉ j.namesSet p line)
    (hload : ∀ path s s', j.effectOf p line = .imports path s →
      s.values.get? name = p.store.values.get? name → load path line.place s = .ok s' →
        s'.values.get? name = s.values.get? name)
    (h : j.feed load p line = .ok p') :
    p'.store.values.get? name = p.store.values.get? name := by
  by_cases hindented : line.indented = true
  · rw [feed_indented p hindented, attempt_eq_ok_iff] at h
    exact get?_values_continued hindented hname h
  · unfold namesSet at hname
    unfold effectOf at hload
    rw [if_neg hindented] at hname hload
    rw [feed_not_indented p (Bool.not_eq_true _ ▸ hindented)] at h
    obtain ⟨p₁, hsettle, h⟩ := bind_eq_ok_iff.1 h
    rw [attempt_eq_ok_iff] at hsettle
    rw [hsettle] at hname hload
    rw [← values_settle hsettle]
    refine get?_values_opened hname (fun path s heffect hs => ?_) h
    exact hload path p₁.store s heffect (by rw [values_settle hsettle]) hs

end Job

/-! ## Values along what is read -/

/-- The names that a line sets. -/
def Excerpt.namesSet {π : Type} (j : Job π) : Excerpt → List String
  | .text _ _ => []
  | .line before l => j.namesSet before l

/-- The variables before a line. -/
def Excerpt.Has (values : Table Value) : Excerpt → Prop
  | .text _ _ => True
  | .line before _ => before.store.values = values

/-- No line sets a variable. -/
def NeverSet {π : Type} (j : Job π) (name : String) (xs : List Excerpt) : Prop :=
  ∀ x ∈ xs, name ∉ x.namesSet j

namespace Job

variable {π : Type} [Page π] {j : Job π} {name : String}

/-- Files are not read. -/
def skip : Loader := fun _ _ s => .ok s

/-- The variables after a line by itself, without the files that it imports. -/
def valuesAfter (j : Job π) (values : Table Value) : Excerpt → Table Value
  | .text _ _ => values
  | .line before l =>
      match j.feed skip before l with
      | .ok p => p.store.values
      | .error _ => values

theorem valuesAfter_of_ok {p p' : Progress} {line : Line} (h : j.feed skip p line = .ok p')
    (values : Table Value) : j.valuesAfter values (.line p line) = p'.store.values := by
  rw [valuesAfter, h]

theorem valuesAfter_of_error {p : Progress} {line : Line} {a : Abort}
    (h : j.feed skip p line = .error a) (values : Table Value) :
    j.valuesAfter values (.line p line) = values := by
  rw [valuesAfter, h]

theorem get?_valuesAfter {values : Table Value} {x : Excerpt} (hx : x.Has values)
    (hname : name ∉ x.namesSet j) : (j.valuesAfter values x).get? name = values.get? name := by
  cases x with
  | text path text => rfl
  | line before l =>
      obtain rfl : before.store.values = values := hx
      cases h : j.feed skip before l with
      | error a => rw [valuesAfter_of_error h]
      | ok p =>
          rw [valuesAfter_of_ok h]
          refine get?_values_feed hname (fun path s s' _ _ hskip => ?_) h
          cases hskip
          rfl

/-- The variables before each line are those that the one before it has left behind. -/
def Flows (j : Job π) : Table Value → List Excerpt → Prop
  | _, [] => True
  | values, x :: xs => x.Has values ∧ j.Flows (j.valuesAfter values x) xs

theorem flows_append {values : Table Value} {xs ys : List Excerpt} :
    j.Flows values (xs ++ ys) ↔
      j.Flows values xs ∧ j.Flows (xs.foldl j.valuesAfter values) ys := by
  induction xs generalizing values with
  | nil => exact ⟨fun h => ⟨trivial, h⟩, And.right⟩
  | cons x xs ih => exact (and_congr_right fun _ => ih).trans and_assoc.symm

/-- A variable keeps its value over lines that do not set it. -/
theorem Flows.get?_eq {values : Table Value} {xs : List Excerpt} (h : j.Flows values xs)
    (hnever : NeverSet j name xs) :
    (xs.foldl j.valuesAfter values).get? name = values.get? name := by
  induction xs generalizing values with
  | nil => rfl
  | cons x xs ih =>
      obtain ⟨hx, hxs⟩ := List.forall_mem_cons.1 hnever
      exact (ih h.2 hxs).trans (get?_valuesAfter h.1 hx)

/-- What a line leaves behind as the value of a variable is there at a later line, if no line
between them sets the variable. -/
theorem Flows.get?_later {values : Table Value} {earlier middle later : List Excerpt}
    {p q : Progress} {line line' : Line}
    (h : j.Flows values (earlier ++ .line p line :: (middle ++ .line q line' :: later)))
    (hnever : NeverSet j name middle) :
    q.store.values.get? name = (j.valuesAfter p.store.values (.line p line)).get? name := by
  obtain ⟨_, hp, hrest⟩ := flows_append.1 h
  have hp : p.store.values = earlier.foldl j.valuesAfter values := hp
  obtain ⟨hmiddle, hq, _⟩ := flows_append.1 hrest
  have hq : q.store.values = _ := hq
  rw [hq, hmiddle.get?_eq hnever, hp]

/-! ## Files -/

/-- The variables of a file flow from line to line, and out of it. -/
def FlowsThrough (j : Job π) (nesting : Nat) : Prop :=
  ∀ requested place s, j.Flows s.values (j.excerptsOfFile nesting requested s) ∧
    ∀ s', j.importing nesting requested place s = .ok s' →
      s'.values = (j.excerptsOfFile nesting requested s).foldl j.valuesAfter s.values

/-- A line that asks for another file than a script imports it. -/
theorem imports_of_asks {p p' : Progress} {line : Line} {path : String} {place : Option Place}
    {s : Store} (h : j.Asks p line p' (.file path place s)) :
    j.effectOf p line = .imports path p'.store := by
  cases h with
  | @intro rest text d _ hindented hsettle hk htext hd htask =>
      cases d with
      | importFile path =>
          cases htask
          rw [effectOf, if_neg (Bool.not_eq_true _ ▸ hindented), hsettle]
          dsimp only
          rw [openingEffect, hk]
          dsimp only
          rw [htext]
          dsimp only
          rw [hd]
      | _ => cases htask

/-- A line that imports no file is read the same, however files are read. -/
theorem feed_of_declares {p : Progress} {line : Line} {ds : List Declaration}
    (h : j.effectOf p line = .declares ds) (load load' : Loader) :
    j.feed load p line = j.feed load' p line := by
  by_cases hasks : ∃ p' t, j.Asks p line p' t
  · obtain ⟨p', t, hasks⟩ := hasks
    obtain ⟨path, rfl, _⟩ | ⟨path, _, hfeed⟩ := (feed_of_asks hasks).2
    · rw [imports_of_asks hasks] at h
      cases h
    · rw [hfeed, hfeed]
  · exact feed_of_not_asks (fun p' t ha => hasks ⟨p', t, ha⟩) load load'

/-- What a line leaves behind flows through the file that it imports. -/
theorem flows_import {nesting : Nat} (hfile : j.FlowsThrough nesting) (p : Progress)
    (line : Line) :
    j.Flows (j.valuesAfter p.store.values (.line p line))
        (j.excerptsOfImport (j.excerptsOfFile nesting) p line) ∧
      ∀ p', j.feed (j.importing nesting) p line = .ok p' →
        p'.store.values = (j.excerptsOfImport (j.excerptsOfFile nesting) p line).foldl j.valuesAfter
          (j.valuesAfter p.store.values (.line p line)) := by
  unfold excerptsOfImport
  cases heffect : j.effectOf p line with
  | declares ds =>
      refine ⟨trivial, fun p' h => ?_⟩
      rw [feed_of_declares heffect (j.importing nesting) skip] at h
      exact (valuesAfter_of_ok h p.store.values).symm
  | imports path s =>
      obtain ⟨_, cursor, hfeed⟩ := feed_of_imports heffect
      obtain ⟨p₁, hsettle, rfl, _⟩ := asks_of_imports heffect
      have hskip : j.feed skip p line = .ok ⟨p₁.store, cursor⟩ := hfeed skip
      rw [valuesAfter_of_ok hskip]
      obtain ⟨hflows, hafter⟩ := hfile path line.place p₁.store
      refine ⟨hflows, fun p' h => ?_⟩
      rw [hfeed] at h
      obtain ⟨s', hs', h⟩ := bind_eq_ok_iff.1 h
      cases h
      exact hafter s' hs'

theorem flows_lines {nesting : Nat} (hfile : j.FlowsThrough nesting) (lines : List Line)
    (p : Progress) :
    j.Flows p.store.values
        (j.excerptsOfLines (j.importing nesting) (j.excerptsOfFile nesting) p lines) ∧
      ∀ p', lines.foldlM (j.feed (j.importing nesting)) p = .ok p' →
        p'.store.values = (j.excerptsOfLines (j.importing nesting) (j.excerptsOfFile nesting) p
          lines).foldl j.valuesAfter p.store.values := by
  induction lines generalizing p with
  | nil =>
      refine ⟨trivial, fun p' h => ?_⟩
      cases h
      rfl
  | cons line lines ih =>
      obtain ⟨himport, hfeed⟩ := flows_import hfile p line
      rw [excerptsOfLines, List.foldlM_cons]
      cases h : j.feed (j.importing nesting) p line with
      | error a =>
          refine ⟨⟨rfl, ?_⟩, fun p' h' => by cases h'⟩
          exact flows_append.2 ⟨himport, trivial⟩
      | ok p₁ =>
          obtain ⟨hrest, hlast⟩ := ih p₁
          rw [hfeed p₁ h] at hrest hlast
          refine ⟨⟨rfl, flows_append.2 ⟨himport, hrest⟩⟩, fun p' h' => ?_⟩
          rw [hlast p' h', List.cons_append, List.foldl_cons, List.foldl_append]

/-- The same of a text. -/
theorem flows_text {nesting : Nat} (hfile : j.FlowsThrough nesting) (s : Store)
    (path text : String) :
    j.Flows s.values
        (j.excerptsOfText (j.importing nesting) (j.excerptsOfFile nesting) s path text) ∧
      ∀ s', j.processText (j.importing nesting) (s.marked path text) path text = .ok s' →
        s'.values = (j.excerptsOfText (j.importing nesting) (j.excerptsOfFile nesting) s path
          text).foldl j.valuesAfter s.values := by
  rw [excerptsOfText, processText_eq]
  cases Line.scan text path 0 with
  | error error => exact ⟨⟨trivial, trivial⟩, fun s' h => by cases h⟩
  | ok lines =>
      dsimp only
      obtain ⟨hflows, hafter⟩ := flows_lines hfile lines ⟨s.inside path text, .start⟩
      refine ⟨⟨trivial, hflows⟩, fun s' h => ?_⟩
      cases hread : j.readLines (j.importing nesting) (s.inside path text) lines with
      | error a =>
          rw [hread] at h
          cases h
      | ok s₁ =>
          rw [hread] at h
          cases h
          obtain ⟨p, hp, hfinish⟩ := bind_eq_ok_iff.1 hread
          rw [attempt_eq_ok_iff] at hfinish
          obtain ⟨p', hsettle, -, rfl⟩ := settle_of_finish hfinish
          have hvalues : p'.store.outside.values = p.store.values := values_settle hsettle
          exact hvalues.trans (hafter p hp)

/-- The variables flow through files, however deep they are nested. -/
theorem flowsThrough (nesting : Nat) : j.FlowsThrough nesting := by
  induction nesting with
  | zero => exact fun requested place s => ⟨trivial, fun s' h => by cases h⟩
  | succ nesting ih =>
      intro requested place s
      rw [importing, processFile_eq, excerptsOfFile]
      cases j.lead s requested with
      | missing reason => exact ⟨trivial, fun s' h => by cases h⟩
      | known text =>
          refine ⟨trivial, fun s' h => ?_⟩
          cases h
          rfl
      | new text => exact flows_text ih s _ text

end Job

namespace Compiler

variable {π : Type} [Page π]

/-- The variables flow through a compilation, from none before its first line. -/
theorem flows_excerpts (c : Compiler π) (page : Option π) (path : String) :
    (⟨c, page⟩ : Job π).Flows .empty (c.excerpts page path) :=
  (Job.flowsThrough (j := ⟨c, page⟩) (c.source.size + 1) path ⟨path, 0⟩ .start).1

theorem flows_excerptsOfText (c : Compiler π) (page : Option π) (text label : String) :
    (⟨c, page⟩ : Job π).Flows .empty (c.excerptsOfText page text label) :=
  (Job.flows_text (j := ⟨c, page⟩) (Job.flowsThrough _) .start (Path.normalize label) text).1

end Compiler

end PageLayout
