import PageLayout.Proofs.Compilation.Directories

/-!
# The same compilation somewhere else

A compilation would do the same if its lines stood somewhere else, and if there were more
sections than there are.  A `Shift` says where the lines stand instead, and which sections
there are besides, at which index.  It carries over to all that a compilation works with:
the places of lines, rules, sections and errors, and the index of the current section.

`inserted` is a list with more elements in the middle, and `skipping` where an element of the
list is found in it.
-/

namespace PageLayout

/-! ## Lists with more elements in the middle -/

section Inserted

variable {α : Type}

/-- A list with more elements at an index. -/
def inserted (index : Nat) (added xs : List α) : List α :=
  xs.take index ++ added ++ xs.drop index

/-- Where an element of a list is found, once there are some more at an index. -/
def skipping (index count i : Nat) : Nat := if i < index then i else i + count

theorem inserted_nil (index : Nat) (xs : List α) : inserted index [] xs = xs := by
  simp [inserted]

theorem length_inserted (index : Nat) (added xs : List α) :
    (inserted index added xs).length = xs.length + added.length := by
  simp only [inserted, List.length_append, List.length_take, List.length_drop]
  omega

theorem inserted_length (added xs : List α) : inserted xs.length added xs = xs ++ added := by
  simp [inserted]

variable {index : Nat} (added : List α) {xs : List α}

/-- What is added at the end stays at the end. -/
theorem inserted_append (h : index ≤ xs.length) (ys : List α) :
    inserted index added (xs ++ ys) = inserted index added xs ++ ys := by
  unfold inserted
  rw [List.take_append_of_le_length h, List.drop_append_of_le_length h]
  simp only [List.append_assoc]

/-- The element right after the end of the list is right after the end of the longer list. -/
theorem skipping_length (h : index ≤ xs.length) :
    skipping index added.length xs.length = (inserted index added xs).length := by
  rw [length_inserted, skipping, if_neg (Nat.not_lt.2 h)]

theorem skipping_succ (index count i : Nat) :
    skipping (index + 1) count (i + 1) = skipping index count i + 1 := by
  unfold skipping
  split <;> split <;> omega

theorem getElem?_inserted (h : index ≤ xs.length) (i : Nat) :
    (inserted index added xs)[skipping index added.length i]? = xs[i]? := by
  induction index generalizing xs i with
  | zero =>
      show (added ++ xs)[i + added.length]? = xs[i]?
      rw [List.getElem?_append_right (Nat.le_add_left ..), Nat.add_sub_cancel]
  | succ index ih =>
      obtain ⟨x, xs, rfl⟩ := List.exists_cons_of_length_pos (Nat.zero_lt_of_lt h)
      cases i with
      | zero => rfl
      | succ i =>
          rw [skipping_succ]
          exact ih (Nat.le_of_succ_le_succ h) i

theorem modify_inserted (h : index ≤ xs.length) (i : Nat) (change : α → α) :
    (inserted index added xs).modify (skipping index added.length i) change =
      inserted index added (xs.modify i change) := by
  induction index generalizing xs i with
  | zero =>
      show (added ++ xs).modify (i + added.length) change = added ++ xs.modify i change
      rw [Nat.add_comm]
      exact List.modifyTailIdx_add ..
  | succ index ih =>
      obtain ⟨x, xs, rfl⟩ := List.exists_cons_of_length_pos (Nat.zero_lt_of_lt h)
      cases i with
      | zero => rfl
      | succ i =>
          rw [skipping_succ]
          exact congrArg (x :: ·) (ih (Nat.le_of_succ_le_succ h) i)

end Inserted

/-! ## Results of both kinds -/

section Both

variable {ε ε' α α' β β' : Type}

/-- A result with other words for its error and for its value. -/
def both (f : ε → ε') (g : α → α') : Except ε α → Except ε' α'
  | .error e => .error (f e)
  | .ok a => .ok (g a)

@[simp] theorem both_ok (f : ε → ε') (g : α → α') (a : α) : both f g (.ok a) = .ok (g a) := rfl

theorem both_id (x : Except ε α) : both id id x = x := by
  cases x <;> rfl

theorem both_congr {f f' : ε → ε'} {g g' : α → α'} (hf : ∀ e, f e = f' e) (hg : ∀ a, g a = g' a)
    (x : Except ε α) : both f g x = both f' g' x := by
  rw [funext hf, funext hg]

variable {f : ε → ε'} {g : α → α'} {h : β → β'}

theorem both_eq_ok_iff {x : Except ε α} {a' : α'} :
    both f g x = .ok a' ↔ ∃ a, x = .ok a ∧ g a = a' := by
  cases x <;> simp [both]

/-- Steps that correspond still do, one after another. -/
theorem bind_both {x : Except ε α} {x' : Except ε' α'} {k : α → Except ε β}
    {k' : α' → Except ε' β'} (hx : x' = both f g x)
    (hk : ∀ a, x = .ok a → k' (g a) = both f h (k a)) : (x' >>= k') = both f h (x >>= k) := by
  subst hx
  cases x with
  | error e => rfl
  | ok a => exact hk a rfl

/-- A step that is the same on both sides does not stand in the way. -/
theorem bind_both_same {x : Except ε α} {x' : Except ε' α} {k : α → Except ε β}
    {k' : α → Except ε' β'} (hx : x' = both f id x)
    (hk : ∀ a, x = .ok a → k' a = both f h (k a)) : (x' >>= k') = both f h (x >>= k) :=
  bind_both hx hk

theorem mapError_both {δ δ' : Type} {x : Except ε α} {x' : Except ε' α'} {c : ε → δ}
    {c' : ε' → δ'} {d : δ → δ'} (hx : x' = both f g x) (hc : ∀ e, c' (f e) = d (c e)) :
    x'.mapError c' = both d g (x.mapError c) := by
  subst hx
  cases x with
  | error e => exact congrArg Except.error (hc e)
  | ok a => rfl

theorem mapM_both {k : α → Except ε β} {k' : α' → Except ε' β'}
    (hk : ∀ a, k' (g a) = both f h (k a)) (xs : List α) :
    (xs.map g).mapM k' = both f (List.map h) (xs.mapM k) := by
  induction xs with
  | nil => rfl
  | cons x xs ih =>
      rw [List.map_cons, List.mapM_cons, List.mapM_cons]
      exact bind_both (hk x) fun b _ => bind_both ih fun bs _ => rfl

theorem mapM_both_same {k : α → Except ε β} {k' : α → Except ε' β'}
    (hk : ∀ a, k' a = both f h (k a)) (xs : List α) :
    xs.mapM k' = both f (List.map h) (xs.mapM k) := by
  have hid := mapM_both (g := id) hk xs
  rwa [List.map_id] at hid

end Both

/-! ## Other places -/

/-- Where a line stands instead. -/
def Line.moved (f : Place → Place) (l : Line) : Line := { l with place := f l.place }

/-- A rule whose line stands somewhere else. -/
def Rule.moved (f : Place → Place) (r : Rule) : Rule := { r with place := f r.place }

/-- The rules of an object whose lines stand somewhere else. -/
def ObjectRules.moved (f : Place → Place) (o : ObjectRules) : ObjectRules :=
  { o with rules := o.rules.map (Rule.moved f) }

/-- A condition whose lines stand somewhere else. -/
def Condition.moved (f : Place → Place) (c : Condition) : Condition :=
  { c with probes := c.probes.map (ObjectRules.moved f) }

/-- A conditional whose lines stand somewhere else. -/
def Conditional.moved (f : Place → Place) (c : Conditional) : Conditional :=
  ⟨c.conditions.map (Condition.moved f), c.body.map (ObjectRules.moved f),
    c.otherwise.map (ObjectRules.moved f)⟩

/-- A section whose lines stand somewhere else. -/
def Section.moved (f : Place → Place) (s : Section) : Section :=
  { s with
    objects := s.objects.map (ObjectRules.moved f)
    conditionals := s.conditionals.map (Conditional.moved f)
    place := f s.place }

/-- A layout whose lines stand somewhere else. -/
def Layout.moved (f : Place → Place) (l : Layout) : Layout :=
  { l with sections := l.sections.map (Section.moved f) }

/-- An error in a line that stands somewhere else. -/
def LayoutError.moved (f : Place → Place) : LayoutError → LayoutError
  | .fault cause place => .fault cause (f place)
  | .indentation cause place => .indentation cause (f place)
  | .unreadable path reason place => .unreadable path reason (place.map f)
  | .evaluation cause place => .evaluation cause (f place)

/-- An object block whose lines stand somewhere else. -/
def ObjectBlock.moved (f : Place → Place) (b : ObjectBlock) : ObjectBlock :=
  { b with name := b.name.moved f, lines := b.lines.map (Line.moved f) }

/-- An open conditional whose lines stand somewhere else. -/
def OpenConditional.moved (f : Place → Place) (c : OpenConditional) : OpenConditional :=
  { c with
    earlier := c.earlier.map (Condition.moved f)
    latest := c.latest.moved f
    body := c.body.map (ObjectRules.moved f)
    otherwise := c.otherwise.map (ObjectRules.moved f)
    place := f c.place }

/-- What is pending, if its lines stand somewhere else. -/
def Pending.moved (f : Place → Place) : Pending → Pending
  | .nothing => .nothing
  | .object block => .object (block.moved f)
  | .assignments => .assignments

/-! Nothing changes if every line stays where it is. -/

@[simp] theorem Line.moved_id : Line.moved id = id := rfl

@[simp] theorem Rule.moved_id : Rule.moved id = id := rfl

@[simp] theorem ObjectRules.moved_id : ObjectRules.moved id = id := by
  funext o
  simp [moved]

@[simp] theorem Condition.moved_id : Condition.moved id = id := by
  funext c
  simp [moved]

@[simp] theorem Conditional.moved_id : Conditional.moved id = id := by
  funext c
  simp [moved]

@[simp] theorem Section.moved_id : Section.moved id = id := by
  funext s
  simp [moved]

@[simp] theorem LayoutError.moved_id : LayoutError.moved id = id := by
  funext e
  cases e <;> simp [moved]

@[simp] theorem ObjectBlock.moved_id : ObjectBlock.moved id = id := by
  funext b
  simp [moved]

@[simp] theorem OpenConditional.moved_id : OpenConditional.moved id = id := by
  funext c
  simp [moved]

@[simp] theorem Pending.moved_id : Pending.moved id = id := by
  funext p
  cases p <;> simp [moved]

/-! ## Shifts -/

/-- What is different about a compilation that does the same somewhere else. -/
structure Shift where
  /-- Where a line stands instead. -/
  place : Place → Place
  /-- The index of the sections that there are besides. -/
  index : Nat
  /-- The sections that there are besides. -/
  added : List Section
  /-- The files that were read instead. -/
  loaded : List String → List String

/-- What a shifted compilation has found out. -/
def Store.shift (σ : Shift) (s : Store) : Store :=
  { s with
    trail := { s.trail with loaded := σ.loaded s.trail.loaded }
    sections := inserted σ.index σ.added (s.sections.map (Section.moved σ.place)) }

/-- How far a file has been read in a shifted compilation. -/
def Cursor.shift (σ : Shift) (c : Cursor) : Cursor :=
  ⟨c.current.map (skipping σ.index σ.added.length), c.pending.moved σ.place,
    c.indexes.map fun indexes => (indexes.1, σ.place indexes.2),
    c.conditional.map (OpenConditional.moved σ.place), c.defining⟩

/-- How far a shifted compilation is. -/
def Progress.shift (σ : Shift) (p : Progress) : Progress := ⟨p.store.shift σ, p.cursor.shift σ⟩

/-- Why a shifted compilation was given up. -/
def Abort.shift (σ : Shift) (a : Abort) : Abort :=
  ⟨a.error.moved σ.place, { a.trail with loaded := σ.loaded a.trail.loaded }⟩

/-- A step that leaves the trail alone does so in a shifted compilation. -/
theorem attempt_shift {α α' : Type} {σ : Shift} {s : Store} {x : Except LayoutError α}
    {x' : Except LayoutError α'} {g : α → α'} (hx : x' = both (LayoutError.moved σ.place) g x) :
    (s.shift σ).attempt x' = both (Abort.shift σ) g (s.attempt x) :=
  mapError_both hx fun _ => rfl

/-- A fault in a line is a fault where the line stands. -/
theorem fault_shift {α α' : Type} {σ : Shift} {place : Place} {x : Except Fault α}
    {x' : Except Fault α'} {g : α → α'} (hx : x' = both id g x) :
    x'.mapError (LayoutError.fault · (σ.place place)) =
      both (LayoutError.moved σ.place) g (x.mapError (LayoutError.fault · place)) :=
  mapError_both hx fun _ => rfl

end PageLayout
