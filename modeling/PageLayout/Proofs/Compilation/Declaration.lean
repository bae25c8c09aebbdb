import PageLayout.Proofs.Compilation.Run

/-!
# Declarations

A definition declares an object, or one for every match of a group.  `declareAll` puts
declarations into a table of objects one after another, and fails at the first whose name is
taken.  What it makes of the empty table is `Holds`: no name is declared twice, and the table
has the locators of the declarations and no others.

`effectOf` says which of the lines of a file have to do with objects: definitions, wherever
they stand, and imports.  A line either declares what its effect tells (`declares_feed`) or
leaves everything to the file that it imports (`feed_of_imports`).
-/

namespace PageLayout

/-! ## Tables of declarations -/

/-- An object that is declared, with the line that declares it. -/
structure Declaration where
  /-- The name of the object. -/
  name : String
  /-- Its locator. -/
  locator : Locator
  /-- The line. -/
  place : Place
deriving DecidableEq, Repr

/-- The error about an object whose name is taken. -/
def Declaration.duplicate (d : Declaration) : LayoutError :=
  .fault (.duplicateObject d.name) d.place

namespace Table

/-- Every value of a table is that of another one. -/
def Included {α : Type} (t t' : Table α) : Prop :=
  ∀ name value, t.get? name = some value → t'.get? name = some value

theorem Included.refl {α : Type} (t : Table α) : t.Included t := fun _ _ h => h

theorem Included.trans {α : Type} {t₁ t₂ t₃ : Table α} (h₁ : t₁.Included t₂)
    (h₂ : t₂.Included t₃) : t₁.Included t₃ :=
  fun name value h => h₂ name value (h₁ name value h)

/-- A new name takes nothing away. -/
theorem included_insert {α : Type} {t : Table α} {name : String} (h : t.contains name = false)
    (value : α) : t.Included (t.insert name value) := by
  intro other v hv
  rw [get?_insert]
  split
  next hname =>
    rw [contains, hname, hv] at h
    cases h
  next => exact hv

variable {t t' : Table Locator} {ds es : List Declaration} {d : Declaration}

/-- The table with one more declaration, unless its name is taken. -/
def declare (t : Table Locator) (d : Declaration) : Except Declaration (Table Locator) :=
  if t.contains d.name then .error d else .ok (t.insert d.name d.locator)

/-- The table after some declarations, or the first one whose name is taken. -/
def declareAll (t : Table Locator) (ds : List Declaration) : Except Declaration (Table Locator) :=
  ds.foldlM declare t

theorem declareAll_append (t : Table Locator) (ds es : List Declaration) :
    t.declareAll (ds ++ es) = t.declareAll ds >>= fun t' => t'.declareAll es :=
  List.foldlM_append ..

theorem declare_ok (h : t.declare d = .ok t') :
    t.contains d.name = false ∧ t' = t.insert d.name d.locator := by
  unfold declare at h
  split at h
  next => cases h
  next hd =>
    cases h
    exact ⟨Bool.not_eq_true _ ▸ hd, rfl⟩

/-- Declarations take nothing away. -/
theorem included_of_declareAll (h : t.declareAll ds = .ok t') : t.Included t' := by
  induction ds generalizing t with
  | nil =>
      cases h
      exact .refl _
  | cons d ds ih =>
      rw [declareAll, List.foldlM_cons] at h
      obtain ⟨t₁, h₁, h⟩ := bind_eq_ok_iff.1 h
      obtain ⟨hd, rfl⟩ := declare_ok h₁
      exact (included_insert hd d.locator).trans (ih h)

/-- A table has exactly the names that were declared, each of them with the locator of its one
declaration. -/
structure Holds (t : Table Locator) (ds : List Declaration) : Prop where
  /-- No name was declared twice. -/
  nodup : (ds.map Declaration.name).Nodup
  /-- The locators are those of the declarations. -/
  get?_iff : ∀ name locator,
    t.get? name = some locator ↔ ∃ d ∈ ds, d.name = name ∧ d.locator = locator

theorem holds_empty : (empty : Table Locator).Holds [] :=
  ⟨List.nodup_nil, fun name locator => by simp⟩

theorem Holds.contains_iff (h : t.Holds ds) (name : String) :
    t.contains name = true ↔ name ∈ ds.map Declaration.name := by
  rw [contains, Option.isSome_iff_exists, List.mem_map]
  constructor
  · rintro ⟨locator, hl⟩
    obtain ⟨d, hd, hname, -⟩ := (h.get?_iff name locator).1 hl
    exact ⟨d, hd, hname⟩
  · rintro ⟨d, hd, hname⟩
    exact ⟨d.locator, (h.get?_iff name d.locator).2 ⟨d, hd, hname, rfl⟩⟩

theorem Holds.contains_eq_false (h : t.Holds ds) {name : String}
    (hname : name ∉ ds.map Declaration.name) : t.contains name = false :=
  Bool.eq_false_iff.2 fun hc => hname ((h.contains_iff name).1 hc)

/-- One more declaration of a new name. -/
theorem Holds.insert (h : t.Holds ds) (hname : d.name ∉ ds.map Declaration.name) :
    (t.insert d.name d.locator).Holds (ds ++ [d]) where
  nodup := by
    rw [List.map_append, List.nodup_append]
    refine ⟨h.nodup, List.pairwise_singleton .., fun a ha b hb => ?_⟩
    rw [List.map_singleton, List.mem_singleton] at hb
    rintro rfl
    exact hname (hb ▸ ha)
  get?_iff name locator := by
    rw [get?_insert]
    split
    next heq =>
      subst heq
      constructor
      · intro hl
        exact ⟨d, List.mem_append_right _ (List.mem_singleton_self d), rfl, Option.some.inj hl⟩
      · rintro ⟨e, he, heq, rfl⟩
        rcases List.mem_append.1 he with he | he
        · exact absurd (heq ▸ List.mem_map_of_mem he) hname
        · rw [List.mem_singleton.1 he]
    next hne =>
      rw [h.get?_iff]
      constructor
      · rintro ⟨e, he, heq⟩
        exact ⟨e, List.mem_append_left _ he, heq⟩
      · rintro ⟨e, he, heq, hlocator⟩
        rcases List.mem_append.1 he with he | he
        · exact ⟨e, he, heq, hlocator⟩
        · rw [List.mem_singleton.1 he] at heq
          exact absurd heq hne

/-- What declarations make of a table, if there is one. -/
theorem Holds.declareAll (h : t.Holds es) (hds : t.declareAll ds = .ok t') :
    t'.Holds (es ++ ds) := by
  induction ds generalizing t es with
  | nil =>
      cases hds
      rwa [List.append_nil]
  | cons d ds ih =>
      rw [Table.declareAll, List.foldlM_cons] at hds
      obtain ⟨t₁, h₁, hds⟩ := bind_eq_ok_iff.1 hds
      obtain ⟨hd, rfl⟩ := declare_ok h₁
      have hname : d.name ∉ es.map Declaration.name := by
        rw [← h.contains_iff, hd]
        exact Bool.false_ne_true
      rw [List.append_cons]
      exact ih (h.insert hname) hds

/-- Declarations of different names do not fail. -/
theorem Holds.exists_declareAll (h : t.Holds es)
    (hnodup : ((es ++ ds).map Declaration.name).Nodup) : ∃ t', t.declareAll ds = .ok t' := by
  induction ds generalizing t es with
  | nil => exact ⟨t, rfl⟩
  | cons d ds ih =>
      rw [List.append_cons] at hnodup
      have hname : d.name ∉ es.map Declaration.name := by
        intro hm
        rw [List.map_append, List.map_append, List.nodup_append, List.nodup_append] at hnodup
        exact hnodup.1.2.2 _ hm _ (List.mem_singleton_self _) rfl
      obtain ⟨t', ht'⟩ := ih (h.insert hname) hnodup
      refine ⟨t', ?_⟩
      have hd : t.declare d = .ok (t.insert d.name d.locator) := by
        rw [declare, h.contains_eq_false hname]
        rfl
      rw [Table.declareAll, List.foldlM_cons, hd, ok_bind]
      exact ht'

/-- The first declaration of a name that is taken is reported. -/
theorem Holds.declareAll_eq_error {before : List Declaration} (h : t.Holds es)
    (hnodup : ((es ++ before).map Declaration.name).Nodup)
    (hd : d.name ∈ (es ++ before).map Declaration.name) (after : List Declaration) :
    t.declareAll (before ++ d :: after) = .error d := by
  obtain ⟨t', ht'⟩ := h.exists_declareAll hnodup
  have hcontains : t'.contains d.name = true := ((h.declareAll ht').contains_iff d.name).2 hd
  have hdeclare : t'.declare d = .error d := by
    rw [declare, if_pos hcontains]
  rw [declareAll_append, ht', ok_bind, Table.declareAll, List.foldlM_cons, hdeclare, error_bind]

theorem declareAll_eq_error {before : List Declaration}
    (hnodup : (before.map Declaration.name).Nodup) (hd : d.name ∈ before.map Declaration.name)
    (after : List Declaration) :
    (empty : Table Locator).declareAll (before ++ d :: after) = .error d :=
  holds_empty.declareAll_eq_error hnodup hd after

end Table

/-! ## Definitions -/

/-- The store with the objects of some declarations. -/
def Store.declareAll (s : Store) (ds : List Declaration) : Except LayoutError Store :=
  match s.objects.declareAll ds with
  | .ok objects => .ok { s with objects := objects }
  | .error d => .error d.duplicate

/-- The declarations of the elements of a group, numbered from `index` on. -/
def groupDeclarations (stem : String) (locator : Locator) (place : Place) (index count : Nat) :
    List Declaration :=
  (List.range' index count).map fun i => ⟨stem ++ toString i, locator.withIndex i, place⟩

/-- Declarations one after another. -/
theorem Store.declareAll_cons (s : Store) (d : Declaration) (ds : List Declaration) :
    s.declareAll (d :: ds) =
      (s.declare d.name d.locator).mapError (.fault · d.place) >>= fun s' => s'.declareAll ds := by
  unfold declare declareAll
  rw [Table.declareAll, List.foldlM_cons, Table.declare]
  cases s.objects.contains d.name with
  | true => rfl
  | false => rfl

theorem Store.declareGroup_eq (s : Store) (stem : String) (locator : Locator) (place : Place)
    (index count : Nat) :
    (declareGroup stem locator index count s).mapError (.fault · place) =
      s.declareAll (groupDeclarations stem locator place index count) := by
  induction count generalizing s index with
  | zero => rfl
  | succ count ih =>
      rw [groupDeclarations, List.range'_succ, List.map_cons, declareAll_cons, declareGroup]
      dsimp only
      cases s.declare (stem ++ toString index) (locator.withIndex index) with
      | error fault => rfl
      | ok s' => exact ih s' (index + 1)

namespace Job

variable {π : Type} [Page π]

/-- The declarations that a name in a definition stands for.  The elements of a group are
counted on the page, and without a page there are none. -/
def declarationsFor (j : Job π) (name : List Char) (locator : Locator) (place : Place) :
    List Declaration :=
  match Text.dropSuffix? ['*'] name, j.page with
  | none, _ => [⟨String.ofList name, locator, place⟩]
  | some _, none => []
  | some stem, some page =>
      groupDeclarations (String.ofList stem) locator place 1 (Page.count page locator)

/-- The declarations of a definition. -/
def declarationsOf (j : Job π) (s : Store) (line : Line) :
    Except LayoutError (List Declaration) := do
  let text ← j.substitute s none line.place line.text
  let (name, locator) ← (readDefinition text).mapError (.fault · line.place)
  return j.declarationsFor name locator line.place

/-- A definition does nothing but declare its objects. -/
theorem define_eq (j : Job π) (s : Store) (line : Line) :
    j.define s line = j.declarationsOf s line >>= fun ds => s.declareAll ds := by
  unfold define declarationsOf
  cases j.substitute s none line.place line.text with
  | error error => rfl
  | ok text =>
      rw [ok_bind, ok_bind]
      cases readDefinition text with
      | error fault => rfl
      | ok definition =>
          obtain ⟨name, locator⟩ := definition
          change Except.mapError _ _ = s.declareAll (j.declarationsFor name locator line.place)
          rw [ok_bind, declarationsFor]
          dsimp only
          cases Text.dropSuffix? ['*'] name with
          | none =>
              rw [Store.declareAll_cons]
              exact (bind_pure _).symm
          | some stem =>
              cases j.page with
              | none => rfl
              | some page => exact s.declareGroup_eq ..

/-- The declarations that a definition makes, if it can be read. -/
def declarationsOn (j : Job π) (s : Store) (line : Line) : List Declaration :=
  (j.declarationsOf s line).toOption.getD []

end Job

/-! ## Parts of a compilation -/

/-- The table of objects after a part of a compilation. -/
def tableAfter : Except Abort Store → Except LayoutError (Table Locator)
  | .ok s => .ok s.objects
  | .error a => .error a.error

@[simp] theorem tableAfter_leaving (done : Except Abort Store) :
    tableAfter (leaving done) = tableAfter done := by
  cases done <;> rfl

/-- A part of a compilation makes declarations: the table after it has them, and if the name of
one is taken, this is the error. -/
def Declares (t : Table Locator) (ds : List Declaration)
    (after : Except LayoutError (Table Locator)) : Prop :=
  match t.declareAll ds with
  | .ok t' => ∀ t'', after = .ok t'' → t'' = t'
  | .error d => after = .error d.duplicate

/-- A part of a compilation that leaves the objects alone. -/
theorem declares_nil {t : Table Locator} {done : Except Abort Progress}
    (h : ∀ p, done = .ok p → p.store.objects = t) :
    Declares t [] (tableAfter (done.map Progress.store)) := by
  intro t' ht'
  cases done with
  | error a => cases ht'
  | ok p =>
      cases ht'
      exact h p rfl

namespace Job

variable {π : Type} {j : Job π} {load : Loader}

theorem objects_assign {s s' : Store} {place : Place} {definition : String}
    (h : assign s place definition = .ok s') : s'.objects = s.objects := by
  obtain ⟨⟨name, value⟩, _, h⟩ := bind_eq_ok_iff.1 h
  cases h
  rfl

theorem objects_loadScript {s s' : Store} {requested : String} {place : Place}
    (h : j.loadScript s requested place = .ok s') : s'.objects = s.objects := by
  obtain ⟨trail, values, rfl⟩ := store_loadScript h
  rfl

theorem objects_settle {p p' : Progress} (h : j.settle p = .ok p') :
    p'.store.objects = p.store.objects := by
  obtain ⟨sections, hs⟩ := store_settle h
  rw [hs]

theorem objects_finish {p : Progress} {s : Store} (h : j.finish p = .ok s) :
    s.objects = p.store.objects := by
  obtain ⟨p', hsettle, -, rfl⟩ := settle_of_finish h
  exact objects_settle hsettle

theorem objects_directs {p p' : Progress} {place : Place} {d : Directive}
    (h : j.Directs load p place d p') (himport : ∀ path, d ≠ .importFile path) :
    p'.store.objects = p.store.objects := by
  cases h with
  | @importFile path => exact absurd rfl (himport path)
  | loadScript hs => exact objects_loadScript hs
  | set hs => exact objects_assign hs
  | @close c =>
      obtain ⟨sections, hs⟩ := p.store_close c
      rw [hs]
  | _ => rfl

variable [Page π]

theorem declares_define (s : Store) (line : Line) :
    Declares s.objects (j.declarationsOn s line) (tableAfter (s.attempt (j.define s line))) := by
  rw [define_eq, declarationsOn]
  cases j.declarationsOf s line with
  | error error => exact nofun
  | ok ds =>
      rw [ok_bind, Store.declareAll, Declares]
      dsimp only [Except.toOption, Option.getD]
      cases s.objects.declareAll ds with
      | error d => rfl
      | ok t =>
          intro t' ht'
          cases ht'
          rfl

/-! ## Lines -/

/-- What a line has to do with the objects of a compilation. -/
inductive Effect where
  /-- It declares some of them, or none. -/
  | declares (ds : List Declaration)
  /-- It imports a file.  The store is the one before that file. -/
  | imports (path : String) (s : Store)

/-- The effect of a line that is not indented, if no object block is pending. -/
def openingEffect (j : Job π) (p : Progress) (line : Line) : Effect :=
  match LineKind.of p.cursor.defining line.text.toList with
  | .definition => .declares (j.declarationsOn p.store line)
  | .directive rest =>
      match j.substitute p.store none line.place (String.ofList rest) with
      | .error _ => .declares []
      | .ok text =>
          match Directive.ofText (Text.trimmed text) with
          | .ok (.importFile path) => .imports path p.store
          | _ => .declares []
  | _ => .declares []

/-- The effect of the line that is read next. -/
def effectOf (j : Job π) (p : Progress) (line : Line) : Effect :=
  if line.indented then
    match p.cursor.pending, p.cursor.defining with
    | .nothing, true => .declares (j.declarationsOn p.store line)
    | _, _ => .declares []
  else
    match j.settle p with
    | .error _ => .declares []
    | .ok p => j.openingEffect p line

/-- The objects are the same after an indented line that is no definition. -/
theorem objects_continued {p p' : Progress} {line : Line} (h : j.continued p line = .ok p')
    (hdefinition : p.cursor.pending = .nothing → p.cursor.defining = false) :
    p'.store.objects = p.store.objects := by
  unfold continued at h
  split at h
  next =>
    cases h
    rfl
  next =>
    obtain ⟨text, _, h⟩ := bind_eq_ok_iff.1 h
    obtain ⟨s, hs, h⟩ := bind_eq_ok_iff.1 h
    cases h
    exact objects_assign hs
  next hpending =>
    rw [hdefinition hpending] at h
    cases h

/-- An indented line makes the declarations that its effect tells. -/
theorem declares_continued {p : Progress} {line : Line} {ds : List Declaration}
    (hindented : line.indented = true) (h : j.effectOf p line = .declares ds) :
    Declares p.store.objects ds
      (tableAfter ((p.store.attempt (j.continued p line)).map Progress.store)) := by
  rw [effectOf, if_pos hindented] at h
  split at h
  next hpending hdefining =>
    cases h
    have hcontinued : j.continued p line =
        j.define p.store line >>= fun s => .ok { p with store := s } := by
      unfold continued
      rw [hpending, hdefining]
      rfl
    have hstore : (p.store.attempt (j.continued p line)).map Progress.store =
        p.store.attempt (j.define p.store line) := by
      rw [hcontinued]
      cases j.define p.store line with
      | error error => rfl
      | ok s => rfl
    rw [hstore]
    exact declares_define p.store line
  next hother =>
    -- The line belongs to an object block or sets a variable, or else it cannot stand here.
    cases h
    refine declares_nil fun p' h => objects_continued (attempt_eq_ok_iff.1 h) fun hpending => ?_
    exact Bool.eq_false_iff.2 fun hdefining => hother hpending hdefining

/-- The objects are the same after a line that is neither a definition nor an import. -/
theorem objects_opened {p p' : Progress} {line : Line} (h : j.opened load p line = .ok p')
    (heffect : j.openingEffect p line = .declares [])
    (hdefinition : LineKind.of p.cursor.defining line.text.toList ≠ .definition) :
    p'.store.objects = p.store.objects := by
  have hopens := opened_ok h
  unfold openingEffect at heffect
  generalize LineKind.of p.cursor.defining line.text.toList = kind at *
  cases hopens with
  | definition => exact absurd rfl hdefinition
  | directive ht hd hdirects =>
      refine objects_directs hdirects ?_
      rintro path rfl
      dsimp only at heffect
      rw [ht] at heffect
      dsimp only at heffect
      rw [hd] at heffect
      cases heffect
  | _ => rfl

/-- Only definitions declare anything. -/
theorem eq_nil_of_openingEffect {p : Progress} {line : Line} {ds : List Declaration}
    (h : j.openingEffect p line = .declares ds)
    (hdefinition : LineKind.of p.cursor.defining line.text.toList ≠ .definition) : ds = [] := by
  unfold openingEffect at h
  split at h
  next hd => exact absurd hd hdefinition
  next =>
    split at h
    next =>
      cases h
      rfl
    next =>
      split at h
      next => cases h
      next =>
        cases h
        rfl
  next =>
    cases h
    rfl

/-- A line that is not indented makes the declarations that its effect tells. -/
theorem declares_opened {p : Progress} {line : Line} {ds : List Declaration}
    (h : j.openingEffect p line = .declares ds) :
    Declares p.store.objects ds (tableAfter ((j.opened load p line).map Progress.store)) := by
  by_cases hdefinition : LineKind.of p.cursor.defining line.text.toList = .definition
  · rw [openingEffect, hdefinition] at h
    cases h
    have hstore : (j.opened load p line).map Progress.store =
        p.store.attempt (j.define p.store line) := by
      rw [opened_eq, hdefinition]
      dsimp only
      cases j.define p.store line with
      | error error => rfl
      | ok s => rfl
    rw [hstore]
    exact declares_define p.store line
  · obtain rfl := eq_nil_of_openingEffect h hdefinition
    exact declares_nil fun p' h' => objects_opened h' h hdefinition

/-- A line that imports no file makes the declarations that its effect tells. -/
theorem declares_feed (load : Loader) {p : Progress} {line : Line} {ds : List Declaration}
    (h : j.effectOf p line = .declares ds) :
    Declares p.store.objects ds (tableAfter ((j.feed load p line).map Progress.store)) := by
  by_cases hindented : line.indented = true
  · rw [feed_indented p hindented]
    exact declares_continued hindented h
  · rw [effectOf, if_neg hindented] at h
    rw [feed_not_indented p (Bool.not_eq_true _ ▸ hindented)]
    cases hsettle : j.settle p with
    | error error =>
        rw [hsettle] at h
        cases h
        rw [attempt_error, error_bind]
        exact declares_nil fun p' hp' => by cases hp'
    | ok p₁ =>
        rw [hsettle] at h
        rw [attempt_ok, ok_bind, ← objects_settle hsettle]
        exact declares_opened h

/-- A line whose effect is an import asks for a file. -/
theorem asks_of_imports {p : Progress} {line : Line} {path : String} {s : Store}
    (h : j.effectOf p line = .imports path s) :
    ∃ p', j.settle p = .ok p' ∧ p'.store = s ∧
      j.Asks p line p' (.file path (some line.place) s) := by
  unfold effectOf at h
  split at h
  next => split at h <;> cases h
  next hindented =>
    split at h
    next => cases h
    next p' hsettle =>
      unfold openingEffect at h
      split at h
      next => cases h
      next rest hk =>
        split at h
        next => cases h
        next text ht =>
          split at h
          next hd =>
            cases h
            have hindented : line.indented = false := Bool.not_eq_true _ ▸ hindented
            exact ⟨p', hsettle, rfl, .intro hindented hsettle hk ht hd rfl⟩
          next => cases h
      next => cases h

/-- A line that imports a file leaves everything to that file. -/
theorem feed_of_imports {p : Progress} {line : Line} {path : String} {s : Store}
    (h : j.effectOf p line = .imports path s) :
    s.objects = p.store.objects ∧ ∃ cursor, ∀ load : Loader,
      j.feed load p line = load path line.place s >>= fun s => .ok ⟨s, cursor⟩ := by
  obtain ⟨p', hsettle, rfl, hasks⟩ := asks_of_imports h
  refine ⟨objects_settle hsettle, p'.cursor, ?_⟩
  obtain ⟨_, htask, hfeed⟩ | ⟨_, htask, _⟩ := (feed_of_asks hasks).2
  · cases htask
    exact hfeed
  · cases htask

end Job

end PageLayout
