import PageLayout.Compilation.Compiler

/-!
# What a line opens

A line that is not indented opens something, and `LineKind.of` says what, from its
text alone and from whether it stands between two rulers of definitions.  `opened_eq`
states what is done with a line of each kind.

Most lines change only the variables and the objects that a compilation knows.
`Store.Extends` says that a store comes from another by such changes.
-/

namespace PageLayout

/-! ## Steps that can fail -/

theorem bind_eq_ok_iff {ε α β : Type} {x : Except ε α} {f : α → Except ε β} {b : β} :
    (x >>= f) = .ok b ↔ ∃ a, x = .ok a ∧ f a = .ok b := by
  cases x <;> simp [bind, Except.bind]

theorem bind_eq_error_iff {ε α β : Type} {x : Except ε α} {f : α → Except ε β} {e : ε} :
    (x >>= f) = .error e ↔ x = .error e ∨ ∃ a, x = .ok a ∧ f a = .error e := by
  cases x <;> simp [bind, Except.bind]

theorem map_eq_ok_iff {ε α β : Type} {x : Except ε α} {f : α → β} {b : β} :
    x.map f = .ok b ↔ ∃ a, x = .ok a ∧ f a = b := by
  cases x <;> simp [Except.map]

theorem mapError_eq_ok_iff {ε ε' α : Type} {x : Except ε α} {f : ε → ε'} {a : α} :
    x.mapError f = .ok a ↔ x = .ok a := by
  cases x with
  | error error => constructor <;> intro h <;> cases h
  | ok b => constructor <;> intro h <;> cases h <;> rfl

/-- A step that gives something of its result has a result. -/
theorem exists_ok_of_toOption {ε α β : Type} {x : Except ε α} {f : α → β} {b : β}
    (h : x.toOption.map f = some b) : ∃ a, x = .ok a ∧ f a = b := by
  cases x with
  | error e => cases h
  | ok a => exact ⟨a, rfl, Option.some.inj h⟩

theorem attempt_eq_ok_iff {α : Type} {s : Store} {x : Except LayoutError α} {a : α} :
    s.attempt x = .ok a ↔ x = .ok a :=
  mapError_eq_ok_iff

@[simp] theorem attempt_ok {α : Type} (s : Store) (a : α) : s.attempt (.ok a) = .ok a := rfl

@[simp] theorem attempt_error {α : Type} (s : Store) (error : LayoutError) :
    s.attempt (.error error : Except LayoutError α) = .error ⟨error, s.trail⟩ := rfl

@[simp] theorem ok_bind {ε α β : Type} (a : α) (f : α → Except ε β) :
    ((.ok a : Except ε α) >>= f) = f a := rfl

@[simp] theorem error_bind {ε α β : Type} (e : ε) (f : α → Except ε β) :
    ((.error e : Except ε α) >>= f) = .error e := rfl

/-- Steps one after another fail at the first that fails. -/
theorem exists_of_foldlM_eq_error {ε α β : Type} {f : β → α → Except ε β} {as : List α} {b : β}
    {e : ε} (h : as.foldlM f b = .error e) :
    ∃ before a after b', as = before ++ a :: after ∧ before.foldlM f b = .ok b' ∧
      f b' a = .error e := by
  induction as generalizing b with
  | nil => cases h
  | cons a as ih =>
      rw [List.foldlM_cons] at h
      obtain h | ⟨b₁, h₁, h⟩ := bind_eq_error_iff.1 h
      · exact ⟨[], a, as, b, rfl, rfl, h⟩
      · obtain ⟨before, a', after, b', rfl, hbefore, ha'⟩ := ih h
        exact ⟨a :: before, a', after, b', rfl, by rw [List.foldlM_cons, h₁, ok_bind, hbefore], ha'⟩

/-! ## Kinds of lines -/

/-- What a line that is not indented opens. -/
inductive LineKind where
  /-- It starts or ends a block of definitions. -/
  | definitionRuler
  /-- It is a definition. -/
  | definition
  /-- It is a directive. -/
  | directive (text : List Char)
  /-- It is the header of a section. -/
  | header (text : List Char)
  /-- It is a ruler that says nothing. -/
  | ruler
  /-- It is a list of indexes. -/
  | indexList
  /-- It is the name of an object. -/
  | objectName
deriving DecidableEq, Repr

/-- The kind of a line, which may stand between two rulers of definitions. -/
def LineKind.of (defining : Bool) (text : List Char) : LineKind :=
  if isRuler '=' text then .definitionRuler
  else if defining then .definition
  else
    match text with
    | '@' :: '@' :: rest => .directive rest
    | '@' :: rest => .header rest
    | text =>
        if isRuler '-' text then .ruler
        else if bracketed? text then .indexList
        else .objectName

/-- Other lines than definitions and their rulers stand outside definitions. -/
theorem LineKind.defining_eq_false {defining : Bool} {text : List Char} {kind : LineKind}
    (h : LineKind.of defining text = kind) (hruler : kind ≠ .definitionRuler)
    (hdefinition : kind ≠ .definition) : defining = false := by
  cases defining with
  | false => rfl
  | true =>
      unfold LineKind.of at h
      split at h
      next => exact absurd h.symm hruler
      next => exact absurd h.symm hdefinition

/-! ## What changes -/

/-- A store that knows other variables or objects, and nothing else. -/
structure Store.Extends (s s' : Store) : Prop where
  trail : s'.trail = s.trail
  sections : s'.sections = s.sections

namespace Store.Extends

theorem refl (s : Store) : s.Extends s := ⟨rfl, rfl⟩

theorem trans {s₁ s₂ s₃ : Store} (h₁ : s₁.Extends s₂) (h₂ : s₂.Extends s₃) : s₁.Extends s₃ :=
  ⟨h₂.trail.trans h₁.trail, h₂.sections.trans h₁.sections⟩

end Store.Extends

/-- The store after the identity of a file was marked. -/
def Store.marked (s : Store) (path text : String) : Store :=
  { s with trail := s.trail.mark (fileIdentity path text) }

/-- The store inside a file that was not read before. -/
def Store.inside (s : Store) (path text : String) : Store :=
  { s with trail := (s.trail.mark (fileIdentity path text)).enter path }

/-- The store after a file. -/
def Store.outside (s : Store) : Store := { s with trail := s.trail.leave }

theorem Store.extends_of_declare {s s' : Store} {name : String} {locator : Locator}
    (h : s.declare name locator = .ok s') : s.Extends s' := by
  unfold declare at h
  split at h
  next => cases h
  next =>
    cases h
    exact ⟨rfl, rfl⟩

theorem Store.extends_of_declareGroup {stem : String} {locator : Locator} {index count : Nat}
    {s s' : Store} (h : Store.declareGroup stem locator index count s = .ok s') :
    s.Extends s' := by
  induction count generalizing index s with
  | zero =>
      cases h
      exact .refl _
  | succ count ih =>
      obtain ⟨s₁, h₁, h₂⟩ := bind_eq_ok_iff.1 h
      exact (extends_of_declare h₁).trans (ih h₂)

namespace Job

variable {π : Type} {j : Job π} {load : Loader}

theorem extends_of_define [Page π] {s s' : Store} {line : Line} (h : j.define s line = .ok s') :
    s.Extends s' := by
  obtain ⟨text, _, h⟩ := bind_eq_ok_iff.1 h
  rw [mapError_eq_ok_iff] at h
  obtain ⟨⟨name, locator⟩, _, h⟩ := bind_eq_ok_iff.1 h
  dsimp only at h
  split at h
  next => exact Store.extends_of_declare h
  next =>
    cases h
    exact .refl s
  next => exact Store.extends_of_declareGroup h

theorem extends_of_assign {s s' : Store} {place : Place} {definition : String}
    (h : assign s place definition = .ok s') : s.Extends s' := by
  obtain ⟨⟨name, value⟩, _, h⟩ := bind_eq_ok_iff.1 h
  cases h
  exact ⟨rfl, rfl⟩

/-- A script changes the trail and the values of variables, and nothing else. -/
theorem store_loadScript {s s' : Store} {requested : String} {place : Place}
    (h : j.loadScript s requested place = .ok s') :
    ∃ trail values, s' = ⟨trail, values, s.objects, s.sections⟩ := by
  unfold loadScript at h
  dsimp only at h
  split at h
  next => cases h
  next =>
    split at h
    next =>
      cases h
      exact ⟨s.trail, s.values, rfl⟩
    next =>
      split at h
      next => cases h
      next =>
        cases h
        exact ⟨_, _, rfl⟩

theorem sections_loadScript {s s' : Store} {requested : String} {place : Place}
    (h : j.loadScript s requested place = .ok s') : s'.sections = s.sections := by
  obtain ⟨trail, values, rfl⟩ := store_loadScript h
  rfl

/-! ## Indented lines -/

variable [Page π]

/-- A line below the name of an object joins the object block. -/
theorem continued_object {p : Progress} {block : ObjectBlock} (line : Line)
    (h : p.cursor.pending = .object block) :
    j.continued p line =
      .ok { p with cursor := { p.cursor with pending := .object (block.withLine line) } } := by
  unfold continued
  rw [h]

/-- A line below anything else is a variable or a definition. -/
theorem continued_ok {p p' : Progress} {line : Line} (h : j.continued p line = .ok p')
    (hpending : ∀ block, p.cursor.pending ≠ .object block) :
    p.store.Extends p'.store ∧ p'.cursor = p.cursor ∧
      (p.cursor.pending = .nothing → p.cursor.defining = true) := by
  unfold continued at h
  split at h
  next block hb => exact absurd hb (hpending block)
  next ha =>
    obtain ⟨text, _, h⟩ := bind_eq_ok_iff.1 h
    obtain ⟨s, hs, h⟩ := bind_eq_ok_iff.1 h
    cases h
    exact ⟨extends_of_assign hs, rfl, fun hn => by rw [ha] at hn; cases hn⟩
  next hn =>
    split at h
    next hd =>
      obtain ⟨s, hs, h⟩ := bind_eq_ok_iff.1 h
      cases h
      exact ⟨extends_of_define hs, rfl, fun _ => hd⟩
    next => cases h

/-! ## Lines that are not indented -/

/-- What is done with a line that is not indented, by its kind. -/
theorem opened_eq (j : Job π) (load : Loader) (p : Progress) (line : Line) :
    j.opened load p line =
      match LineKind.of p.cursor.defining line.text.toList with
      | .definitionRuler =>
          .ok { p with cursor := { p.cursor with defining := !p.cursor.defining } }
      | .definition => do return { p with store := ← p.store.attempt (j.define p.store line) }
      | .directive rest => do
          let text ← p.store.attempt (j.substitute p.store none line.place (String.ofList rest))
          j.directed load p line.place (Text.trimmed text)
      | .header rest => do
          let text ← p.store.attempt (j.substitute p.store none line.place (String.ofList rest))
          p.store.attempt
            ((headed p line.place (Text.trimmed text)).mapError (.fault · line.place))
      | .ruler => .ok p
      | .indexList => do
          let text ← p.store.attempt
            (j.substitute p.store none line.place (String.ofList line.text.toList))
          p.store.attempt ((indexed p line.place text).mapError (.fault · line.place))
      | .objectName =>
          .ok { p with
            cursor := { p.cursor with
              pending := .object ⟨line, p.cursor.indexes.map (·.1), []⟩
              indexes := none } } := by
  unfold opened LineKind.of
  dsimp only
  generalize line.text.toList = cs
  split
  next => rfl
  next =>
    split
    next => rfl
    next =>
      split
      next => rfl
      next => simp only
      next =>
        by_cases hr : isRuler '-' cs = true
        · simp only [hr, if_true]
        · by_cases hb : bracketed? cs = true
          · simp only [hr, hb, if_true, Bool.false_eq_true, if_false]
          · simp only [hr, hb, Bool.false_eq_true, if_false]

end Job

end PageLayout
