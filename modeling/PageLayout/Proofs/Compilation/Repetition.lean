import PageLayout.Proofs.Compilation.Alone
import PageLayout.Proofs.Compilation.Filled
import PageLayout.Proofs.Compilation.Parts

/-!
# A repeated block is as good as its copies

An object block below a list of indexes is read once for each of them.  Copies of the block,
with the indexes written in place of the placeholders, are blocks of their own, and they are
read one after another.  Each of them gives the rules that the block gives for its index
(`repetitionOf_copy`), and putting rules one after another is the same as putting them all at
once (`attach_attach`).  So copies can stand in place of the list and the block
(`readTo_copies`), as long as there is no `$` in the block: the values of expressions in it
could depend on the index.
-/

namespace PageLayout

/-! ## Where rules are put -/

theorem OpenConditional.receive_receive (c : OpenConditional) (xs ys : List ObjectRules) :
    (c.receive xs).receive ys = c.receive (xs ++ ys) := by
  obtain ⟨earlier, latest, body, otherwise, branch, place⟩ := c
  cases branch <;> simp [receive]

namespace Progress

theorem put_put (p : Progress) (place : Place) (f g : Section → Section) :
    (p.put place f).put place g = p.put place (g ∘ f) := by
  cases hc : p.cursor.current with
  | some index =>
      rw [put_current place f hc, put_current place g (by exact hc), put_current place _ hc]
      simp [Store.modifySection, List.modify_modify_eq]
  | none =>
      rw [put_first place f hc, put_first place _ hc, put_current place g rfl]
      simp [Store.modifySection, modify_length]

/-- Rules can be put one after another. -/
theorem attach_attach (p : Progress) (xs ys : List ObjectRules) (place : Place) :
    (p.attach xs place).attach ys place = p.attach (xs ++ ys) place := by
  cases hc : p.cursor.conditional with
  | some c =>
      rw [attach_conditional xs place hc, attach_conditional _ place hc,
        attach_conditional ys place rfl, OpenConditional.receive_receive]
  | none =>
      by_cases hxs : xs = []
      · rw [hxs, attach_nil place hc, List.nil_append]
      · by_cases hys : ys = []
        · rw [hys, List.append_nil, attach_cons place hc hxs, attach_nil place]
          rw [(p.keeps_put place _).2, hc]
        · rw [attach_cons place hc hxs, attach_cons place hc (by simp [hxs]), attach_cons place _ hys,
            put_put]
          · congr 1
            funext s
            simp
          · rw [(p.keeps_put place _).2, hc]

end Progress

theorem Progress.attach_empty (p : Progress) (place : Place) : p.attach [] place = p := by
  cases hc : p.cursor.conditional with
  | some c =>
      obtain ⟨store, current, pending, indexes, conditional, defining⟩ := p
      cases hc
      rw [attach_conditional [] place rfl, OpenConditional.receive_nil]
  | none => exact attach_nil place hc

/-! ## Copies -/

/-- A line stands where another one stands, with an index in place of its placeholders. -/
structure Line.CopyOf (index : Int) (line copy : Line) : Prop where
  place : copy.place = line.place
  indented : copy.indented = line.indented
  text : Placeholder.fill index line.text = .ok copy.text

/-- A paragraph stands where another one stands, with an index in place of its placeholders. -/
structure Paragraph.CopyOf (index : Int) (q copy : Paragraph) : Prop where
  head : Line.CopyOf index q.head copy.head
  below : List.Forall₂ (Line.CopyOf index) q.below copy.below

/-- A text without a dollar sign has none with an index in it. -/
theorem Placeholder.dollar_notMem_of_fill {i : Int} {text filled : String}
    (hdollar : '$' ∉ text.toList) (h : fill i text = .ok filled) : '$' ∉ filled.toList := by
  obtain ⟨ds, hds, rfl⟩ := map_eq_ok_iff.1 h
  rw [String.toList_ofList]
  intro hmem
  obtain hmem | hpart := (filled_of_fillChars hds).mem hmem
  · exact hdollar hmem
  · cases hpart

/-- Lists whose elements give the same give the same. -/
theorem mapM_eq_of_forall₂ {ε α α' β : Type} {f : α → Except ε β} {g : α' → Except ε β}
    {xs : List α} {ys : List α'} (h : List.Forall₂ (fun x y => f x = g y) xs ys) :
    xs.mapM f = ys.mapM g := by
  induction h with
  | nil => rfl
  | cons hxy _ ih => rw [List.mapM_cons, List.mapM_cons, hxy, ih]

theorem exists_of_mem_right {α β : Type} {r : α → β → Prop} {xs : List α} {ys : List β}
    (h : List.Forall₂ r xs ys) {y : β} (hy : y ∈ ys) : ∃ x ∈ xs, r x y := by
  induction h with
  | nil => cases hy
  | @cons x y' xs ys hxy _ ih =>
      obtain rfl | hy := List.mem_cons.1 hy
      · exact ⟨x, List.mem_cons_self, hxy⟩
      · obtain ⟨x', hx', hr⟩ := ih hy
        exact ⟨x', List.mem_cons_of_mem _ hx', hr⟩

namespace Job

variable {π : Type} {j : Job π} {index : Int}

/-- A copy stands for what the line says with the index.  The index is a variable of the
expressions in the line, but there are none. -/
theorem substitute_copy (j : Job π) (s : Store) {line copy : Line} (h : Line.CopyOf index line copy)
    (hdollar : '$' ∉ line.text.toList) :
    j.substitute s (some index) line.place line.text = j.substitute s none copy.place copy.text := by
  have hcopy : '$' ∉ copy.text.toList := Placeholder.dollar_notMem_of_fill hdollar h.text
  rw [j.substitute_of_notMem s copy.place hcopy]
  unfold substitute
  dsimp only
  rw [h.text]
  show (Template.fill _ (Template.expand j.properties copy.text)).mapError _ = _
  rw [Template.fill_of_notMem hcopy]
  rfl

theorem ruleOf_copy (j : Job π) (s : Store) {line copy : Line} (h : Line.CopyOf index line copy)
    (hdollar : '$' ∉ line.text.toList) :
    j.ruleOf s (some index) line = j.ruleOf s none copy := by
  unfold ruleOf
  rw [j.substitute_copy s h hdollar, h.place]

/-- A copy of a block says what the block says with the index. -/
theorem repetitionOf_copy (j : Job π) (s : Store) {q copy : Paragraph} {indexes : Option (List Int)}
    (h : Paragraph.CopyOf index q copy) (hdollar : ∀ line ∈ q.lines, '$' ∉ line.text.toList) :
    j.repetitionOf s ⟨q.head, indexes, q.below⟩ (some index) =
      j.repetitionOf s ⟨copy.head, none, copy.below⟩ none := by
  have hbelow : q.below.mapM (j.ruleOf s (some index)) = copy.below.mapM (j.ruleOf s none) := by
    refine mapM_eq_of_forall₂ ?_
    have hlines : ∀ line ∈ q.below, '$' ∉ line.text.toList := fun line hline =>
      hdollar line (List.mem_cons_of_mem _ hline)
    exact (List.forall₂_and_left _ _ |>.2 ⟨hlines, h.below⟩).imp fun line copy h =>
      j.ruleOf_copy s h.2 h.1
  unfold repetitionOf
  dsimp only
  rw [j.substitute_copy s h.head (hdollar q.head List.mem_cons_self), hbelow]

end Job

/-! ## Object blocks -/

/-- A paragraph is an object block, wherever definitions do not stand. -/
structure Paragraph.IsBlock (q : Paragraph) : Prop where
  indented : q.Indented
  name : LineKind.of false q.head.text.toList = .objectName

/-- A copy of an object block is one. -/
theorem Paragraph.CopyOf.isBlock {index : Int} {q copy : Paragraph} (h : CopyOf index q copy)
    (hq : q.IsBlock) : copy.IsBlock where
  indented := by
    refine ⟨h.head.indented.trans hq.indented.1, fun line hline => ?_⟩
    obtain ⟨original, hmem, hcopy⟩ := exists_of_mem_right h.below hline
    exact hcopy.indented.trans (hq.indented.2 original hmem)
  name := by
    obtain ⟨ds, hds, htext⟩ := map_eq_ok_iff.1 h.head.text
    rw [← htext, String.toList_ofList]
    exact Placeholder.objectName_of_fillChars hds hq.name

namespace Job

variable {π : Type} {j : Job π}

/-- What a block says does not depend on the sections. -/
theorem repetitionOf_attach (p : Progress) (objects : List ObjectRules) (place : Place)
    (b : ObjectBlock) (index : Option Int) :
    j.repetitionOf (p.attach objects place).store b index = j.repetitionOf p.store b index := by
  obtain ⟨sections, hs⟩ := p.store_attach objects place
  rw [hs]
  rfl

variable [Page π] {load : Loader} {p : Progress}

theorem startFlush_flatMap_lines {qs : List Paragraph} (h : ∀ q ∈ qs, q.IsBlock) :
    Line.StartFlush (qs.flatMap Paragraph.lines) := by
  have hhead : Line.StartFlush (qs.flatMap Paragraph.lines ++ []) :=
    Paragraph.head?_flatMap_lines (fun q hq => (h q hq).indented) nofun
  rwa [List.append_nil] at hhead

/-- A block below no list of indexes gives the rules of one object. -/
theorem readTo_block (load : Loader) {q : Paragraph} (hpending : p.cursor.pending = .nothing)
    (hdefining : p.cursor.defining = false) (hindexes : p.cursor.indexes = none) (hq : q.IsBlock) :
    j.readTo load p q.lines =
      p.store.attempt (j.repetitionOf p.store ⟨q.head, none, q.below⟩ none) >>= fun o =>
        .ok (p.attach [o] q.head.place) := by
  have hread : j.readTo load p q.lines = _ :=
    readParagraph_object hpending hq.indented (hdefining ▸ hq.name)
  obtain ⟨store, current, pending, indexes, conditional, defining⟩ := p
  cases hindexes
  rw [hread]
  show store.attempt ((j.repetitionOf store ⟨q.head, none, q.below⟩ none >>= fun o => .ok [o]) >>=
    _) = _
  cases j.repetitionOf store ⟨q.head, none, q.below⟩ none <;> rfl

/-- Blocks that stand at one place give their rules one after another. -/
theorem readTo_blocks (load : Loader) {qs : List Paragraph} {place : Place}
    (hpending : p.cursor.pending = .nothing) (hdefining : p.cursor.defining = false)
    (hindexes : p.cursor.indexes = none) (hqs : ∀ q ∈ qs, q.IsBlock)
    (hplace : ∀ q ∈ qs, q.head.place = place) :
    j.readTo load p (qs.flatMap Paragraph.lines) =
      p.store.attempt (qs.mapM fun q => j.repetitionOf p.store ⟨q.head, none, q.below⟩ none) >>=
        fun objects => .ok (p.attach objects place) := by
  induction qs generalizing p with
  | nil =>
      show p.store.attempt (j.settle p) = .ok (p.attach [] place)
      rw [settle_nothing hpending, p.attach_empty]
      rfl
  | cons q qs ih =>
      have hrest : ∀ q ∈ qs, q.IsBlock := fun q hq => hqs q (List.mem_cons_of_mem _ hq)
      rw [List.flatMap_cons, readTo_append (startFlush_flatMap_lines hrest),
        readTo_block load hpending hdefining hindexes (hqs q List.mem_cons_self), List.mapM_cons]
      cases ho : j.repetitionOf p.store ⟨q.head, none, q.below⟩ none with
      | error e => rfl
      | ok o =>
          have hkeeps := p.keeps_attach [o] q.head.place
          have hih := ih (hkeeps.pending.trans hpending) (hkeeps.defining.trans hdefining)
            (hkeeps.indexes.trans hindexes) hrest fun q hq => hplace q (List.mem_cons_of_mem _ hq)
          rw [hplace q List.mem_cons_self] at hih hkeeps ⊢
          simp only [repetitionOf_attach] at hih
          rw [attempt_ok, ok_bind, ok_bind, ok_bind, hih, Store.attempt, Store.attempt, hkeeps.trail]
          cases qs.mapM fun q => j.repetitionOf p.store ⟨q.head, none, q.below⟩ none with
          | error e => rfl
          | ok objects => exact congrArg Except.ok (p.attach_attach [o] objects place)

/-- The block below a list of indexes is read with them. -/
theorem readTo_indexList (load : Loader) {line : Line} {text : String} {indexes : List Int}
    {q : Paragraph} (hpending : p.cursor.pending = .nothing)
    (hindexes : p.cursor.indexes = none) (hindented : line.indented = false)
    (hk : LineKind.of p.cursor.defining line.text.toList = .indexList)
    (htext : j.substitute p.store none line.place line.text = .ok text)
    (hlist : IndexList.read (String.ofList (dropBrackets text.toList)) = .ok indexes)
    (hq : q.IsBlock) :
    j.readTo load p (line :: q.lines) =
      p.store.attempt (j.objectsOf p.store ⟨q.head, some indexes, q.below⟩) >>= fun objects =>
        .ok (p.attach objects q.head.place) := by
  obtain ⟨store, current, pending, _, conditional, defining⟩ := p
  cases hpending
  cases hindexes
  obtain rfl : defining = false := LineKind.defining_eq_false hk nofun nofun
  let p₁ : Progress :=
    ⟨store, ⟨current, .nothing, some (indexes, line.place), conditional, false⟩⟩
  have hfeed : j.feed load ⟨store, current, .nothing, none, conditional, false⟩ line = .ok p₁ := by
    rw [feed_not_indented _ hindented, settle_nothing rfl, attempt_ok, ok_bind, opened_eq, hk]
    dsimp only
    rw [String.ofList_toList, htext, attempt_ok, ok_bind, indexed, hlist]
    rfl
  have hread : j.readTo load p₁ q.lines = _ :=
    readParagraph_object rfl hq.indented hq.name
  have hfirst : j.readTo load ⟨store, current, .nothing, none, conditional, false⟩
      (line :: q.lines) = j.readTo load p₁ q.lines := by
    unfold readTo
    rw [List.foldlM_cons, hfeed, ok_bind]
  rw [hfirst, hread]
  show store.attempt (j.objectsOf store ⟨q.head, some indexes, q.below⟩ >>= _) = _
  cases j.objectsOf store ⟨q.head, some indexes, q.below⟩ <;> rfl

/-- Copies of a block can stand in place of a list of indexes and the block. -/
theorem readTo_copies (load : Loader) {line : Line} {text : String} {indexes : List Int}
    {q : Paragraph} {copies : List Paragraph} (hpending : p.cursor.pending = .nothing)
    (hindexes : p.cursor.indexes = none) (hindented : line.indented = false)
    (hk : LineKind.of p.cursor.defining line.text.toList = .indexList)
    (htext : j.substitute p.store none line.place line.text = .ok text)
    (hlist : IndexList.read (String.ofList (dropBrackets text.toList)) = .ok indexes)
    (hq : q.IsBlock) (hdollar : ∀ line ∈ q.lines, '$' ∉ line.text.toList)
    (hcopies : List.Forall₂ (fun i copy => Paragraph.CopyOf i q copy) indexes copies) :
    j.readTo load p (line :: q.lines) = j.readTo load p (copies.flatMap Paragraph.lines) := by
  have hblocks : ∀ copy ∈ copies, copy.IsBlock ∧ copy.head.place = q.head.place := by
    intro copy hcopy
    obtain ⟨i, _, h⟩ := exists_of_mem_right hcopies hcopy
    exact ⟨h.isBlock hq, h.head.place⟩
  have hobjects : j.objectsOf p.store ⟨q.head, some indexes, q.below⟩ =
      copies.mapM fun copy => j.repetitionOf p.store ⟨copy.head, none, copy.below⟩ none :=
    mapM_eq_of_forall₂ <| hcopies.imp fun i copy h => j.repetitionOf_copy p.store h hdollar
  rw [readTo_indexList load hpending hindexes hindented hk htext hlist hq,
    readTo_blocks load hpending (LineKind.defining_eq_false hk nofun nofun) hindexes
      (fun copy h => (hblocks copy h).1) (fun copy h => (hblocks copy h).2), hobjects]

end Job

end PageLayout
