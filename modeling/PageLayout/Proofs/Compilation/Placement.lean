import PageLayout.Proofs.Compilation.Advance

/-!
# Rules stand where the document has them

While a file is read, its document grows by one passage for every paragraph.  A
`Draft` is a document with a conditional whose end is not reached.  `Draft.Lays` says
that the sections, the current section and the open conditional of a compilation are
those of a draft, and `lays_of_advances` that every paragraph keeps it so.
-/

namespace PageLayout

/-! ## Drafts -/

namespace Conditions

/-- The conditions before the last one. -/
def earlier : Conditions → List Condition
  | .first _ => []
  | .more before _ => before.list

/-- The last condition. -/
def latest : Conditions → Condition
  | .first k | .more _ k => ⟨k.objects, k.opening.meaning⟩

theorem list_eq (cs : Conditions) : cs.list = cs.earlier ++ [cs.latest] := by
  cases cs <;> rfl

end Conditions

namespace Opened

/-- The open conditional while a file is read. -/
def state : Opened → OpenConditional
  | .conditions cs => ⟨cs.earlier, cs.latest, [], [], .conditions, cs.place⟩
  | .branches cs body none => ⟨cs.earlier, cs.latest, body.objects, [], .body, cs.place⟩
  | .branches cs body (some k) =>
      ⟨cs.earlier, cs.latest, body.objects, k.objects, .otherwise, cs.place⟩

/-- The conditional with one more passage in the part that was started last. -/
def add (x : Passage Content) : Opened → Opened
  | .conditions cs => .conditions (cs.add x)
  | .branches cs body none => .branches cs (body.add x) none
  | .branches cs body (some k) => .branches cs body (some (k.add x))

end Opened

theorem Opened.place_state (o : Opened) : o.state.place = o.place := by
  cases o with
  | conditions cs => rfl
  | branches cs body otherwise => cases otherwise <;> rfl

/-- A conditional of which only conditions were read. -/
theorem Opened.of_branch_conditions {o : Opened} (h : o.state.branch = .conditions) :
    ∃ cs, o = .conditions cs := by
  cases o with
  | conditions cs => exact ⟨cs, rfl⟩
  | branches cs body k? => cases k? <;> cases h

/-- A conditional that is in its body. -/
theorem Opened.of_branch_body {o : Opened} (h : o.state.branch = .body) :
    ∃ cs body, o = .branches cs body none := by
  cases o with
  | conditions cs => cases h
  | branches cs body k? =>
      cases k? with
      | none => exact ⟨cs, body, rfl⟩
      | some k => cases h

/-- A conditional that is past its conditions. -/
theorem Opened.of_branch_ne_conditions {o : Opened}
    (h : o.state.branch = .body ∨ o.state.branch = .otherwise) :
    ∃ cs body k?, o = .branches cs body k? := by
  cases o with
  | conditions cs => rcases h with h | h <;> cases h
  | branches cs body k? => exact ⟨cs, body, k?, rfl⟩

/-- A document, and a conditional after it whose end is not reached. -/
structure Draft where
  /-- The document. -/
  document : Document
  /-- The conditional. -/
  opened : Option Opened

namespace Draft

/-- The draft of a file before its first line. -/
def start : Draft := ⟨.unnamed [], none⟩

/-- The sections of the files that the open conditional imports. -/
def imported (D : Draft) : List Section := D.opened.toList.flatMap (·.imported)

/-- The passages, in order. -/
def passages (D : Draft) : List (Passage Meaning) :=
  D.document.passages ++ D.opened.toList.flatMap (·.passages)

/-- The draft with one more passage that stands in a section. -/
def add (D : Draft) (x : Passage Content) : Draft :=
  match D.opened with
  | none => ⟨D.document.add (.passage x), none⟩
  | some o => ⟨D.document, some (o.add x)⟩

end Draft

/-! ## One more passage -/

section Add

variable (x : Passage Content)

theorem Clause.passages_add {α : Type} (f : α → Meaning) (k : Clause α) :
    (k.add x).passages f = k.passages f ++ [x.map .content] := by
  simp [passages, add]

theorem Clause.imported_add {α : Type} (k : Clause α) :
    (k.add x).imported = k.imported ++ x.meaning.imported := by
  simp [imported, add]

theorem Clause.objects_add {α : Type} (k : Clause α) :
    (k.add x).objects = k.objects ++ x.meaning.objects := by
  simp [objects, add]

theorem Clause.opening_add {α : Type} (k : Clause α) : (k.add x).opening = k.opening := rfl

theorem Opened.passages_add (o : Opened) :
    (o.add x).passages = o.passages ++ [x.map .content] := by
  cases o with
  | conditions cs =>
      cases cs <;>
        simp [add, passages, Conditions.add, Conditions.passages, Clause.passages_add]
  | branches cs body otherwise =>
      cases otherwise <;> simp [add, passages, Clause.passages_add]

theorem Opened.imported_add (o : Opened) :
    (o.add x).imported = o.imported ++ x.meaning.imported := by
  cases o with
  | conditions cs =>
      cases cs <;>
        simp [add, imported, Conditions.add, Conditions.imported, Clause.imported_add]
  | branches cs body otherwise =>
      cases otherwise <;> simp [add, imported, Clause.imported_add]

/-- The rules of a passage go to the part that was started last. -/
theorem Opened.state_add (o : Opened) : (o.add x).state = o.state.receive x.meaning.objects := by
  cases o with
  | conditions cs =>
      cases cs <;>
        simp [add, state, OpenConditional.receive, Conditions.add, Conditions.earlier,
          Conditions.latest, Conditions.place, Clause.objects_add, Clause.opening_add]
  | branches cs body otherwise =>
      cases otherwise <;> simp [add, state, OpenConditional.receive, Clause.objects_add]

theorem Draft.passages_add (D : Draft) : (D.add x).passages = D.passages ++ [x.map .content] := by
  obtain ⟨d, o⟩ := D
  cases o with
  | none => simp [add, passages, Document.passages_add, Item.passages]
  | some o => simp [add, passages, Opened.passages_add]

end Add

/-! ## What a draft lays out -/

/-- The sections, the current section and the open conditional are those of the draft
of a file, which was started with some sections. -/
structure Draft.Lays (D : Draft) (base : List Section) (p : Progress) : Prop where
  sections : p.store.sections = base ++ (D.document.sections ++ D.imported)
  current : p.cursor.current = D.document.current.map (base.length + ·)
  conditional : p.cursor.conditional = D.opened.map (·.state)

theorem OpenConditional.receive_nil (c : OpenConditional) : c.receive [] = c := by
  unfold receive
  split <;> simp

/-- An item that is put into the section which was opened last becomes a part of the
document. -/
theorem Document.put_item {d : Document} {e : Item} {base : List Section} {p : Progress}
    (he : e.isQuiet = false)
    (hs : p.store.sections = base ++ (d.sections ++ e.imported))
    (hc : p.cursor.current = d.current.map (base.length + ·)) :
    (p.put e.place (·.withItem e)).store.sections = base ++ (d.add e).sections ∧
      (p.put e.place (·.withItem e)).cursor.current =
        (d.add e).current.map (base.length + ·) := by
  cases hd : d.current with
  | some index =>
      obtain ⟨before, own, after, rfl, hsections, hadd⟩ := sections_add_of_some hd
      rw [hd] at hc
      rw [Progress.put_current _ _ hc, (hadd e).1, (hadd e).2]
      refine ⟨?_, hc⟩
      have hmodify := modify_length (base ++ before) own (after ++ e.imported) (·.withItem e)
      rw [List.length_append] at hmodify
      simpa [Store.modifySection, hs, hsections] using hmodify
  | none =>
      obtain ⟨hsections, hcurrent⟩ := (sections_add_of_none hd e).2 he
      rw [hd] at hc
      rw [Progress.put_first _ _ hc, hsections, hcurrent]
      constructor
      · simp [hs, sectionOf, Section.withItem, Section.opened]
      · simp [hs]

namespace Draft.Lays

variable {D : Draft} {base : List Section} {p p' : Progress}

/-- A passage that demands nothing only adds the sections of a file. -/
theorem add {x : Passage Content} (h : D.Lays base p) (hquiet : x.meaning.objects = [])
    (hsections : p'.store.sections = p.store.sections ++ x.meaning.imported)
    (hcurrent : p'.cursor.current = p.cursor.current)
    (hconditional : p'.cursor.conditional = p.cursor.conditional) : (D.add x).Lays base p' := by
  obtain ⟨d, o⟩ := D
  obtain ⟨hs, hc, ho⟩ := h
  cases o with
  | none =>
      have he : (Item.passage x).isQuiet = true := by
        simp [Item.isQuiet, hquiet]
      obtain ⟨hs', hc'⟩ := d.sections_add_of_isQuiet he
      constructor
      · simp [hsections, hs, Draft.add, hs', imported]
      · rw [hcurrent, hc, Draft.add, hc']
      · rw [hconditional, ho, Draft.add]
  | some o =>
      constructor
      · simp [hsections, hs, Draft.add, imported, Opened.imported_add]
      · rw [hcurrent, hc, Draft.add]
      · simp [hconditional, ho, Draft.add, Opened.state_add, hquiet, OpenConditional.receive_nil]

/-- The rules of an object block are put where the draft has them. -/
theorem attach {s : Store} {q : Paragraph} (objects : List ObjectRules) (h : D.Lays base p) :
    (D.add ⟨s, q, .block objects⟩).Lays base (p.attach objects q.head.place) := by
  obtain ⟨d, o⟩ := D
  cases o with
  | some o =>
      rw [Progress.attach_conditional objects _ h.conditional]
      obtain ⟨hs, hc, ho⟩ := h
      constructor
      · simp [hs, Draft.add, imported, Opened.imported_add]
      · exact hc
      · simp [Draft.add, Opened.state_add]
  | none =>
      by_cases hobjects : objects = []
      · subst hobjects
        rw [Progress.attach_nil _ h.conditional]
        exact h.add rfl (List.append_nil _).symm rfl rfl
      · let e : Item := .passage ⟨s, q, .block objects⟩
        have he : e.isQuiet = false := by simp [e, Item.isQuiet, hobjects]
        have hwith : (fun own : Section => { own with objects := own.objects ++ objects }) =
            (·.withItem e) := by
          funext own
          simp [e, Section.withItem]
        have hplace : q.head.place = e.place := rfl
        have hkeeps := (p.keeps_put e.place (·.withItem e)).2
        rw [Progress.attach_cons _ h.conditional hobjects, hwith, hplace]
        obtain ⟨hs, hc⟩ := Document.put_item he (by simpa [e, imported] using h.sections) h.current
        constructor
        · simpa [e, Draft.add, imported] using hs
        · exact hc
        · rw [hkeeps]
          exact h.conditional

/-- A conditional is put where the draft has it. -/
theorem close {cs : Conditions} {body : Clause Unit} {k? : Option (Clause Unit)}
    (x : Passage Unit) (h : D.Lays base p) (ho : D.opened = some (.branches cs body k?)) :
    Draft.Lays ⟨D.document.add (.choice ⟨cs, body, k?, x⟩), none⟩ base
      (p.close (Opened.branches cs body k?).state) := by
  let e : Item := .choice ⟨cs, body, k?, x⟩
  have he : e.isQuiet = false := by simp [e, Item.isQuiet]
  have hclosed : (Opened.branches cs body k?).state.closed =
      Choice.conditional ⟨cs, body, k?, x⟩ := by
    cases k? <;> simp [Opened.state, OpenConditional.closed, Choice.conditional, Conditions.list_eq]
  have hplace : (Opened.branches cs body k?).state.place = e.place := by cases k? <;> rfl
  have hwith : (fun own : Section => { own with conditionals := own.conditionals ++
      [(Opened.branches cs body k?).state.closed] }) = (·.withItem e) := by
    funext own
    simp [e, Section.withItem, hclosed]
  rw [Progress.close_eq, hwith, hplace]
  obtain ⟨hs, hc⟩ :=
    Document.put_item he (by simpa [e, imported, ho, Choice.opened] using h.sections) h.current
  constructor
  · simpa [imported] using hs
  · exact hc
  · rfl

/-- No conditional is open. -/
theorem opened_of_none (h : D.Lays base p) (hc : p.cursor.conditional = none) :
    D.opened = none := by
  have ho := h.conditional
  rw [hc] at ho
  exact Option.map_eq_none_iff.1 ho.symm

/-- A conditional is open. -/
theorem opened_of_some {c : OpenConditional} (h : D.Lays base p)
    (hc : p.cursor.conditional = some c) : ∃ o, D.opened = some o ∧ o.state = c := by
  have ho := h.conditional
  rw [hc] at ho
  exact Option.map_eq_some_iff.1 ho.symm

/-- Another part of a conditional starts. -/
theorem reopen {o : Opened} (h : D.Lays base p) (himported : o.imported = D.imported) :
    Draft.Lays ⟨D.document, some o⟩ base
      ⟨p.store, { p.cursor with conditional := some o.state }⟩ := by
  constructor
  · simpa [Draft.imported, himported] using h.sections
  · exact h.current
  · rfl

/-- A header starts a section. -/
theorem heading (x : Passage Heading) (h : D.Lays base p) (ho : p.cursor.conditional = none) :
    ∃ D' : Draft, D'.passages = D.passages ++ [x.map .heading] ∧
      D'.Lays base (p.enterSection (.opened x.meaning.name x.meaning.tags x.place)) := by
  have ho' := h.opened_of_none ho
  refine ⟨⟨.headed D.document x [], none⟩, ?_, ?_, ?_, ?_⟩
  · simp [passages, ho', Document.passages]
  · simp [Progress.enterSection, Store.openSection, h.sections, imported, ho',
      Document.sections, sectionOf, Section.opened]
  · simp [Progress.enterSection, Store.openSection, h.sections, imported, ho', Document.current]
  · exact ho

end Draft.Lays

/-! ## Every paragraph keeps to the draft -/

namespace Job

variable {π : Type} [Page π] {j : Job π} {D : Draft} {base : List Section} {p p' : Progress}
  (before : Store)

/-- A paragraph that demands nothing and imports nothing moves the draft on. -/
theorem lays_silent {q : Paragraph} {c : Content} (h : D.Lays base p) (hobjects : c.objects = [])
    (himported : c.imported = []) (hs : p'.store.sections = p.store.sections)
    (hcurrent : p'.cursor.current = p.cursor.current)
    (hconditional : p'.cursor.conditional = p.cursor.conditional) :
    ∃ D' : Draft, D'.passages = D.passages ++ [⟨before, q, .content c⟩] ∧ D'.Lays base p' := by
  refine ⟨_, D.passages_add ⟨before, q, c⟩, h.add hobjects ?_ hcurrent hconditional⟩
  rw [hs, himported, List.append_nil]

/-- A directive moves the draft on. -/
theorem lays_of_enacts {q : Paragraph} {d : Directive} {m : Meaning} (h : D.Lays base p)
    (hd : j.Enacts p q.head.place d m p') :
    ∃ D' : Draft, D'.passages = D.passages ++ [⟨before, q, m⟩] ∧ D'.Lays base p' := by
  cases hd with
  | @importFile _ c s hi hr =>
      obtain ⟨hquiet, hs⟩ := sections_of_imports hi hr
      exact ⟨_, D.passages_add ⟨before, q, c⟩, h.add hquiet hs rfl rfl⟩
  | loadScript hs | setBlock hs | set hs => exact lays_silent before h rfl rfl hs rfl rfl
  | @ifHolds _ inverted hc hi =>
      have ho : D.opened = none := h.opened_of_none hc
      refine ⟨⟨D.document, some (.conditions (.first ⟨⟨before, q, inverted⟩, []⟩))⟩, ?_, ?_⟩
      · simp [Draft.passages, ho, Opened.passages, Conditions.passages, Clause.passages,
          Passage.map]
      · refine h.reopen ?_
        simp [Draft.imported, ho, Opened.imported, Conditions.imported, Clause.imported]
  | @orHolds _ inverted c hc hb hi =>
      obtain ⟨o, ho, rfl⟩ := h.opened_of_some hc
      obtain ⟨cs, rfl⟩ := Opened.of_branch_conditions hb
      let k : Clause Bool := ⟨⟨before, q, inverted⟩, []⟩
      refine ⟨⟨D.document, some (.conditions (.more cs k))⟩, ?_, ?_⟩
      · simp [k, Draft.passages, ho, Opened.passages, Conditions.passages, Clause.passages,
          Passage.map]
      · have hstate : (Opened.conditions cs).state.withCondition inverted =
            (Opened.conditions (.more cs k)).state := by
          rw [Opened.state, Opened.state, OpenConditional.withCondition, Conditions.earlier,
            Conditions.list_eq]
          rfl
        rw [hstate]
        refine h.reopen ?_
        simp [k, Draft.imported, ho, Opened.imported, Conditions.imported, Clause.imported]
  | @doRules c hc hb =>
      obtain ⟨o, ho, rfl⟩ := h.opened_of_some hc
      obtain ⟨cs, rfl⟩ := Opened.of_branch_conditions hb
      let k : Clause Unit := ⟨⟨before, q, ()⟩, []⟩
      refine ⟨⟨D.document, some (.branches cs k none)⟩, ?_, ?_⟩
      · simp [k, Draft.passages, ho, Opened.passages, Clause.passages, Passage.map]
      · refine h.reopen ?_
        simp [k, Draft.imported, ho, Opened.imported, Clause.imported]
  | @otherwise c hc hb =>
      obtain ⟨o, ho, rfl⟩ := h.opened_of_some hc
      obtain ⟨cs, body, rfl⟩ := Opened.of_branch_body hb
      let k : Clause Unit := ⟨⟨before, q, ()⟩, []⟩
      refine ⟨⟨D.document, some (.branches cs body (some k))⟩, ?_, ?_⟩
      · simp [k, Draft.passages, ho, Opened.passages, Clause.passages, Passage.map]
      · refine h.reopen ?_
        simp [k, Draft.imported, ho, Opened.imported, Clause.imported]
  | @close c hc hb =>
      obtain ⟨o, ho, rfl⟩ := h.opened_of_some hc
      obtain ⟨cs, body, k?, rfl⟩ := Opened.of_branch_ne_conditions hb
      refine ⟨_, ?_, h.close ⟨before, q, ()⟩ ho⟩
      simp [Draft.passages, ho, Document.passages_add, Item.passages, Choice.opened, Passage.map]

/-- A paragraph moves the draft on. -/
theorem lays_of_advances {q : Paragraph} {m : Meaning} (h : D.Lays base p)
    (hp : j.Advances p q m p') :
    ∃ D' : Draft, D'.passages = D.passages ++ [⟨before, q, m⟩] ∧ D'.Lays base p' := by
  cases hp with
  | definitionRuler _ hs | definition _ hs => exact lays_silent before h rfl rfl hs rfl rfl
  | ruler | indexes => exact lays_silent before h rfl rfl rfl rfl rfl
  | @heading _ _ header _ _ _ hc => exact h.heading ⟨before, q, header⟩ hc
  | directive _ _ _ hd => exact lays_of_enacts before h hd
  | @block objects =>
      have h' : D.Lays base ⟨p.store, { p.cursor with indexes := none }⟩ :=
        ⟨h.sections, h.current, h.conditional⟩
      exact ⟨_, D.passages_add ⟨before, q, .block objects⟩, h'.attach objects⟩

end Job

end PageLayout
