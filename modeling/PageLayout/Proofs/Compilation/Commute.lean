import PageLayout.Proofs.Compilation.Current
import PageLayout.Proofs.Compilation.Shift

/-!
# Reading commutes with shifts

A shifted compilation does what the other does, and ends as the other ends, with the places
and the index of the current section shifted.  Every function that reads a part of a file
comes with a lemma that says so, and `feed_shift` says it of a whole line.  What a line asks
for has to commute as well (`Commutes`), which is left to those who know what that is.
-/

namespace PageLayout

/-- A change of one element commutes with a change of all elements. -/
theorem map_modify {α β : Type} {f : α → β} {change : α → α} {change' : β → β}
    (h : ∀ a, change' (f a) = f (change a)) (xs : List α) (i : Nat) :
    (xs.map f).modify i change' = (xs.modify i change).map f := by
  induction xs generalizing i with
  | nil => simp
  | cons x xs ih => cases i <;> simp [h, ih]

variable {σ : Shift}

/-! ## Sections -/

theorem Store.openSection_shift {s : Store} (h : σ.index ≤ s.sections.length) (new : Section) :
    (s.shift σ).openSection (new.moved σ.place) =
      ((s.openSection new).1.shift σ,
        skipping σ.index σ.added.length (s.openSection new).2) := by
  have h' : σ.index ≤ (s.sections.map (Section.moved σ.place)).length := by rwa [List.length_map]
  have hindex := skipping_length σ.added h'
  rw [List.length_map] at hindex
  simp only [openSection, Store.shift, List.map_append, List.map_cons, List.map_nil,
    inserted_append σ.added h', hindex]

theorem Store.modifySection_shift {s : Store} (h : σ.index ≤ s.sections.length) (index : Nat)
    {change change' : Section → Section}
    (hchange : ∀ own : Section, change' (own.moved σ.place) = (change own).moved σ.place) :
    (s.shift σ).modifySection (skipping σ.index σ.added.length index) change' =
      (s.modifySection index change).shift σ := by
  have h' : σ.index ≤ (s.sections.map (Section.moved σ.place)).length := by rwa [List.length_map]
  simp only [modifySection, Store.shift, modify_inserted σ.added h', map_modify hchange]

namespace OpenConditional

theorem receive_moved (f : Place → Place) (c : OpenConditional) (objects : List ObjectRules) :
    (c.moved f).receive (objects.map (ObjectRules.moved f)) = (c.receive objects).moved f := by
  obtain ⟨earlier, latest, body, otherwise, branch, place⟩ := c
  cases branch <;> simp [receive, moved, Condition.moved]

theorem closed_moved (f : Place → Place) (c : OpenConditional) :
    (c.moved f).closed = c.closed.moved f := by
  simp [closed, moved, Conditional.moved]

theorem withCondition_moved (f : Place → Place) (c : OpenConditional) (inverted : Bool) :
    (c.moved f).withCondition inverted = (c.withCondition inverted).moved f := by
  simp [withCondition, moved, Condition.moved]

theorem expect_moved (f : Place → Place) (c : Option OpenConditional) (word : String)
    (allowed : List Branch) :
    expect (c.map (moved f)) word allowed = both id (moved f) (expect c word allowed) := by
  unfold expect
  cases c with
  | none => rfl
  | some c =>
      show (if allowed.contains c.branch then _ else _) =
        both _ _ (if allowed.contains c.branch then _ else _)
      split <;> rfl

end OpenConditional

namespace Progress

variable {p : Progress}

theorem put_shift (h : σ.index ≤ p.store.sections.length) (place : Place)
    {change change' : Section → Section}
    (hchange : ∀ own : Section, change' (own.moved σ.place) = (change own).moved σ.place) :
    (p.shift σ).put (σ.place place) change' = (p.put place change).shift σ := by
  cases hc : p.cursor.current with
  | some index =>
      have hc' : (p.shift σ).cursor.current = some (skipping σ.index σ.added.length index) :=
        congrArg (Option.map _) hc
      rw [put_current place change hc, put_current _ _ hc']
      exact congrArg (Progress.mk · _) (Store.modifySection_shift h index hchange)
  | none =>
      have hc' : (p.shift σ).cursor.current = none := congrArg (Option.map _) hc
      rw [put_first place change hc, put_first _ _ hc']
      have hnew : change' (.opened "" [] (σ.place place)) =
          (change (.opened "" [] place)).moved σ.place := hchange (.opened "" [] place)
      have hopened := Store.openSection_shift h (change (.opened "" [] place))
      have hcursor : ∀ index index', index = skipping σ.index σ.added.length index' →
          { (p.shift σ).cursor with current := some index } =
            { p.cursor with current := some index' }.shift σ := by
        rintro index index' rfl
        rfl
      rw [hnew]
      exact congrArg₂ Progress.mk (congrArg Prod.fst hopened)
        (hcursor _ _ (congrArg Prod.snd hopened))

theorem attach_shift (h : σ.index ≤ p.store.sections.length) (objects : List ObjectRules)
    (place : Place) :
    (p.shift σ).attach (objects.map (ObjectRules.moved σ.place)) (σ.place place) =
      (p.attach objects place).shift σ := by
  cases hc : p.cursor.conditional with
  | some c =>
      have hc' : (p.shift σ).cursor.conditional = some (c.moved σ.place) :=
        congrArg (Option.map _) hc
      rw [attach_conditional objects place hc, attach_conditional _ _ hc', OpenConditional.receive_moved]
      rfl
  | none =>
      have hc' : (p.shift σ).cursor.conditional = none := congrArg (Option.map _) hc
      by_cases hobjects : objects = []
      · subst hobjects
        rw [List.map_nil, attach_nil _ hc, attach_nil _ hc']
      · rw [attach_cons place hc hobjects, attach_cons _ hc' (by simpa using hobjects)]
        refine put_shift h place fun own => ?_
        simp [Section.moved]

theorem close_shift (h : σ.index ≤ p.store.sections.length) (c : OpenConditional) :
    (p.shift σ).close (c.moved σ.place) = (p.close c).shift σ := by
  have hput : (p.shift σ).put (σ.place c.place) (fun s =>
      { s with conditionals := s.conditionals ++ [(c.moved σ.place).closed] }) =
        (p.put c.place fun s => { s with conditionals := s.conditionals ++ [c.closed] }).shift σ :=
    put_shift h c.place fun own => by simp [Section.moved, OpenConditional.closed_moved]
  have hplace : (c.moved σ.place).place = σ.place c.place := rfl
  rw [close_eq, close_eq, hplace, hput]
  rfl

theorem enterSection_shift (h : σ.index ≤ p.store.sections.length) (new : Section) :
    (p.shift σ).enterSection (new.moved σ.place) = (p.enterSection new).shift σ := by
  unfold enterSection
  rw [show (p.shift σ).store = p.store.shift σ from rfl, Store.openSection_shift h]
  rfl

theorem sectionPlace_shift (h : σ.index ≤ p.store.sections.length) (line : Line) :
    (p.shift σ).sectionPlace (line.moved σ.place) = σ.place (p.sectionPlace line) := by
  have h' : σ.index ≤ (p.store.sections.map (Section.moved σ.place)).length := by
    rwa [List.length_map]
  have hsections : ∀ index : Nat,
      (p.shift σ).store.sections[skipping σ.index σ.added.length index]? =
        p.store.sections[index]?.map (Section.moved σ.place) := by
    intro index
    rw [← List.getElem?_map]
    exact getElem?_inserted σ.added h' index
  unfold sectionPlace
  cases hc : p.cursor.current with
  | none =>
      rw [show (p.shift σ).cursor.current = none from congrArg (Option.map _) hc]
      rfl
  | some index =>
      rw [show (p.shift σ).cursor.current = some (skipping σ.index σ.added.length index) from
        congrArg (Option.map _) hc]
      simp only [Option.bind_some, hsections]
      cases p.store.sections[index]? <;> rfl

end Progress

/-! ## Object blocks -/

namespace Job

variable {π : Type} (j : Job π)

theorem substitute_shift (s : Store) (index : Option Int) (place : Place) (text : String) :
    j.substitute (s.shift σ) index (σ.place place) text =
      both (LayoutError.moved σ.place) id (j.substitute s index place text) := by
  have hfill : ∀ text, (Template.fill (j.evaluator.evaluate (j.scope (s.shift σ) index))
      (Template.expand j.properties text)).mapError (LayoutError.evaluation · (σ.place place)) =
        both (LayoutError.moved σ.place) id ((Template.fill (j.evaluator.evaluate (j.scope s index))
          (Template.expand j.properties text)).mapError (LayoutError.evaluation · place)) :=
    fun text => mapError_both (both_id _).symm fun _ => rfl
  cases index with
  | none => exact hfill text
  | some i => exact bind_both_same (fault_shift (both_id _).symm) fun text _ => hfill text

theorem ruleOf_shift (s : Store) (index : Option Int) (line : Line) :
    j.ruleOf (s.shift σ) index (line.moved σ.place) =
      both (LayoutError.moved σ.place) (Rule.moved σ.place) (j.ruleOf s index line) := by
  unfold ruleOf
  refine bind_both_same (j.substitute_shift s index line.place line.text) fun text _ => ?_
  dsimp only
  exact bind_both_same (fault_shift (both_id _).symm) fun r _ => rfl

theorem repetitionOf_shift (s : Store) (b : ObjectBlock) (index : Option Int) :
    j.repetitionOf (s.shift σ) (b.moved σ.place) index =
      both (LayoutError.moved σ.place) (ObjectRules.moved σ.place) (j.repetitionOf s b index) := by
  unfold repetitionOf
  refine bind_both_same (j.substitute_shift s index b.name.place b.name.text) fun name _ => ?_
  exact bind_both (mapM_both (j.ruleOf_shift s index) b.lines) fun rules _ => rfl

theorem objectsOf_shift (s : Store) (b : ObjectBlock) :
    j.objectsOf (s.shift σ) (b.moved σ.place) =
      both (LayoutError.moved σ.place) (List.map (ObjectRules.moved σ.place))
        (j.objectsOf s b) := by
  unfold objectsOf
  rw [show (b.moved σ.place).indexes = b.indexes from rfl]
  cases b.indexes with
  | none =>
      dsimp only
      exact bind_both (j.repetitionOf_shift s b none) fun o _ => rfl
  | some indexes => exact mapM_both_same (fun index => j.repetitionOf_shift s b (some index)) indexes

/-- What completes a pending object block commutes with shifts. -/
theorem settle_shift {p : Progress} (h : σ.index ≤ p.store.sections.length) :
    j.settle (p.shift σ) = both (LayoutError.moved σ.place) (Progress.shift σ) (j.settle p) := by
  by_cases hb : ∃ block, p.cursor.pending = .object block
  · obtain ⟨block, hb⟩ := hb
    have hb' : (p.shift σ).cursor.pending = .object (block.moved σ.place) :=
      congrArg (Pending.moved σ.place) hb
    rw [settle_object hb, settle_object hb']
    refine bind_both (j.objectsOf_shift p.store block) fun objects _ => ?_
    exact congrArg Except.ok (p.withoutPending.attach_shift h objects block.name.place)
  · have hn : ∀ block, p.cursor.pending ≠ .object block := fun block h => hb ⟨block, h⟩
    have hn' : ∀ block, (p.shift σ).cursor.pending ≠ .object block := by
      intro block h
      have h : p.cursor.pending.moved σ.place = .object block := h
      cases hp : p.cursor.pending with
      | object b => exact hn b hp
      | nothing | assignments => rw [hp] at h; cases h
    rw [settle_other hn, settle_other hn']
    rfl

/-! ## Variables, definitions and scripts -/

theorem declare_shift (s : Store) (name : String) (locator : Locator) :
    (s.shift σ).declare name locator = both id (Store.shift σ) (s.declare name locator) := by
  unfold Store.declare
  show (if s.objects.contains name then _ else _) = _
  split <;> rfl

theorem declareGroup_shift (stem : String) (locator : Locator) (index count : Nat) (s : Store) :
    Store.declareGroup stem locator index count (s.shift σ) =
      both id (Store.shift σ) (Store.declareGroup stem locator index count s) := by
  induction count generalizing index s with
  | zero => rfl
  | succ count ih => exact bind_both (declare_shift s _ _) fun s _ => ih (index + 1) s

theorem define_shift [Page π] (s : Store) (line : Line) :
    j.define (s.shift σ) (line.moved σ.place) =
      both (LayoutError.moved σ.place) (Store.shift σ) (j.define s line) := by
  unfold define
  refine bind_both_same (j.substitute_shift s none line.place line.text) fun text _ => ?_
  refine fault_shift (bind_both_same (both_id _).symm fun definition _ => ?_)
  obtain ⟨name, locator⟩ := definition
  dsimp only
  split
  next => exact declare_shift ..
  next => rfl
  next => exact declareGroup_shift ..

theorem assign_shift (s : Store) (place : Place) (definition : String) :
    assign (s.shift σ) (σ.place place) definition =
      both (LayoutError.moved σ.place) (Store.shift σ) (assign s place definition) := by
  unfold assign
  exact bind_both_same (fault_shift (both_id _).symm) fun assignment _ => rfl

/-! ## Lines -/

theorem controlled_shift {p : Progress} (h : σ.index ≤ p.store.sections.length) (place : Place)
    (d : Directive) :
    controlled (p.shift σ) (σ.place place) d =
      both id (Progress.shift σ) (controlled p place d) := by
  have hexpect := OpenConditional.expect_moved σ.place p.cursor.conditional
  cases d with
  | ifHolds argument =>
      simp only [controlled]
      show (if (p.cursor.conditional.map _).isSome then _ else _) = _
      rw [Option.isSome_map]
      split
      · rfl
      · exact bind_both_same (both_id _).symm fun inverted _ => rfl
  | orHolds argument =>
      refine bind_both_same (both_id _).symm fun inverted _ => ?_
      refine bind_both (hexpect _ _) fun c _ => ?_
      rw [OpenConditional.withCondition_moved]
      rfl
  | doRules => exact bind_both (hexpect _ _) fun c _ => rfl
  | otherwise => exact bind_both (hexpect _ _) fun c _ => rfl
  | close => exact bind_both (hexpect _ _) fun c _ => congrArg Except.ok (p.close_shift h c)
  | _ => rfl

theorem headed_shift {p : Progress} (h : σ.index ≤ p.store.sections.length) (place : Place)
    (text : String) :
    headed (p.shift σ) (σ.place place) text = both id (Progress.shift σ) (headed p place text) := by
  unfold headed
  show (if (p.cursor.conditional.map _).isSome then _ else _) = _
  rw [Option.isSome_map]
  split
  · rfl
  · exact congrArg Except.ok (p.enterSection_shift h (.opened _ _ place))

theorem indexed_shift (p : Progress) (place : Place) (text : String) :
    indexed (p.shift σ) (σ.place place) text = both id (Progress.shift σ) (indexed p place text) :=
  bind_both_same (both_id _).symm fun _ _ => rfl

theorem continued_shift [Page π] {p : Progress} (h : σ.index ≤ p.store.sections.length)
    (line : Line) :
    j.continued (p.shift σ) (line.moved σ.place) =
      both (LayoutError.moved σ.place) (Progress.shift σ) (j.continued p line) := by
  have hpending : ∀ pending, p.cursor.pending = pending →
      (p.shift σ).cursor.pending = pending.moved σ.place :=
    fun _ => congrArg (Pending.moved σ.place)
  unfold continued
  cases hp : p.cursor.pending with
  | object block =>
      rw [hpending _ hp]
      simp [Pending.moved, ObjectBlock.moved, ObjectBlock.withLine, Progress.shift, Cursor.shift]
  | assignments =>
      rw [hpending _ hp]
      refine bind_both_same (j.substitute_shift p.store none line.place line.text) fun text _ => ?_
      exact bind_both (assign_shift p.store line.place text) fun s _ => rfl
  | nothing =>
      rw [hpending _ hp]
      show (if p.cursor.defining then _ else _) = both _ _ (if p.cursor.defining then _ else _)
      split
      · exact bind_both (j.define_shift p.store line) fun s _ => rfl
      · rw [p.sectionPlace_shift h]
        rfl

/-- What comes of a task commutes with a shift. -/
def Commutes (j : Job π) (load : Loader) (σ : Shift) : Task → Prop
  | .file requested (some place) s =>
      load requested (σ.place place) (s.shift σ) =
        both (Abort.shift σ) (Store.shift σ) (load requested place s)
  | .script requested place s =>
      j.loadScript (s.shift σ) requested (σ.place place) =
        both (LayoutError.moved σ.place) (Store.shift σ) (j.loadScript s requested place)
  | _ => True

variable {j} {load : Loader}

theorem directed_shift {p : Progress} (h : σ.index ≤ p.store.sections.length) {place : Place}
    {text : String}
    (hasks : ∀ d t, Directive.ofText text = .ok d → d.task? place p.store = some t →
      j.Commutes load σ t) :
    j.directed load (p.shift σ) (σ.place place) text =
      both (Abort.shift σ) (Progress.shift σ) (j.directed load p place text) := by
  have hdirective : (Directive.ofText text).mapError (LayoutError.fault · (σ.place place)) =
      both (LayoutError.moved σ.place) id
        ((Directive.ofText text).mapError (LayoutError.fault · place)) :=
    fault_shift (both_id _).symm
  refine bind_both_same (attempt_shift hdirective) fun d hd => ?_
  rw [attempt_eq_ok_iff, mapError_eq_ok_iff] at hd
  cases d with
  | importFile path => exact bind_both (hasks _ _ hd rfl) fun s _ => rfl
  | loadScript path => exact bind_both (attempt_shift (hasks _ _ hd rfl)) fun s _ => rfl
  | setBlock => rfl
  | set definition =>
      exact bind_both (attempt_shift (assign_shift p.store place definition)) fun s _ => rfl
  | _ => exact attempt_shift (fault_shift (controlled_shift h place _))

variable [Page π]

theorem opened_shift {p : Progress} (h : σ.index ≤ p.store.sections.length) {line : Line}
    (hasks : ∀ rest text d t,
      LineKind.of p.cursor.defining line.text.toList = .directive rest →
        j.substitute p.store none line.place (String.ofList rest) = .ok text →
          Directive.ofText (Text.trimmed text) = .ok d → d.task? line.place p.store = some t →
            j.Commutes load σ t) :
    j.opened load (p.shift σ) (line.moved σ.place) =
      both (Abort.shift σ) (Progress.shift σ) (j.opened load p line) := by
  have hsubstitute : ∀ text, (p.store.shift σ).attempt
      (j.substitute (p.store.shift σ) none (σ.place line.place) text) =
        both (Abort.shift σ) id (p.store.attempt (j.substitute p.store none line.place text)) :=
    fun text => attempt_shift (j.substitute_shift p.store none line.place text)
  have hkind : LineKind.of (p.shift σ).cursor.defining (line.moved σ.place).text.toList =
      LineKind.of p.cursor.defining line.text.toList := rfl
  rw [opened_eq, opened_eq, hkind]
  cases hk : LineKind.of p.cursor.defining line.text.toList with
  | definitionRuler | ruler => rfl
  | definition => exact bind_both (attempt_shift (j.define_shift p.store line)) fun s _ => rfl
  | directive rest =>
      refine bind_both_same (hsubstitute _) fun text ht => ?_
      exact directed_shift h fun d t hd htask =>
        hasks rest text d t hk (attempt_eq_ok_iff.1 ht) hd htask
  | header rest =>
      refine bind_both_same (hsubstitute _) fun text _ => ?_
      exact attempt_shift (fault_shift (headed_shift h line.place _))
  | indexList =>
      refine bind_both_same (hsubstitute _) fun text _ => ?_
      exact attempt_shift (fault_shift (indexed_shift p line.place text))
  | objectName =>
      cases hi : p.cursor.indexes <;>
        simp [Progress.shift, Cursor.shift, Pending.moved, ObjectBlock.moved, Line.moved, hi]

/-- Reading a line commutes with shifts if what it asks for does. -/
theorem feed_shift {p : Progress} (h : σ.index ≤ p.store.sections.length) {line : Line}
    (hasks : ∀ p' t, j.Asks p line p' t → j.Commutes load σ t) :
    j.feed load (p.shift σ) (line.moved σ.place) =
      both (Abort.shift σ) (Progress.shift σ) (j.feed load p line) := by
  by_cases hindented : line.indented = true
  · have hmoved : (line.moved σ.place).indented = true := hindented
    rw [feed_indented p hindented, feed_indented _ hmoved]
    exact attempt_shift (j.continued_shift h line)
  · rw [Bool.not_eq_true] at hindented
    have hmoved : (line.moved σ.place).indented = false := hindented
    rw [feed_not_indented p hindented, feed_not_indented _ hmoved]
    refine bind_both (attempt_shift (j.settle_shift h)) fun p' hsettle => ?_
    rw [attempt_eq_ok_iff] at hsettle
    exact opened_shift (h.trans (changes_settle hsettle).length_le) fun rest text d t hk ht hd htask =>
      hasks p' t (.intro hindented hsettle hk ht hd htask)

omit [Page π] in
/-- The end of a file commutes with shifts. -/
theorem finish_shift {p : Progress} (h : σ.index ≤ p.store.sections.length) :
    (p.shift σ).store.attempt (j.finish (p.shift σ)) =
      both (Abort.shift σ) (Store.shift σ) (p.store.attempt (j.finish p)) := by
  refine attempt_shift (bind_both (j.settle_shift h) fun p' _ => ?_)
  obtain ⟨store, current, pending, indexes, conditional, defining⟩ := p'
  cases conditional with
  | some c => rfl
  | none => cases indexes <;> rfl

end Job

end PageLayout
