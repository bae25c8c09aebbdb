import PageLayout.Proofs.Compilation.Placement

/-!
# Drafts grow passage by passage

`Draft.next` is the draft with one more passage, if such a passage can stand there.
It adds the passage at the end (`passages_next`), and every draft comes from the empty
one by its own passages (`foldlM_next_passages`).  So passages are those of a draft if and
only if they can be added one after another, and then there is no other such draft
(`foldlM_next_iff`).
-/

namespace PageLayout

namespace Draft

/-- The draft with one more passage, if it can stand there.  What stands in a section can
stand anywhere, but a header or the start of a conditional only outside conditionals, and
the other parts of a conditional only in their order. -/
def next (D : Draft) (x : Passage Meaning) : Option Draft :=
  match x.meaning, D.opened with
  | .content c, _ => some (D.add (x.map fun _ => c))
  | .heading h, none => some ⟨.headed D.document (x.map fun _ => h) [], none⟩
  | .ifHolds inverted, none =>
      some ⟨D.document, some (.conditions (.first ⟨x.map fun _ => inverted, []⟩))⟩
  | .orHolds inverted, some (.conditions cs) =>
      some ⟨D.document, some (.conditions (.more cs ⟨x.map fun _ => inverted, []⟩))⟩
  | .doRules, some (.conditions cs) =>
      some ⟨D.document, some (.branches cs ⟨x.map fun _ => (), []⟩ none)⟩
  | .otherwise, some (.branches cs body none) =>
      some ⟨D.document, some (.branches cs body (some ⟨x.map fun _ => (), []⟩))⟩
  | .close, some (.branches cs body otherwise) =>
      some ⟨D.document.add (.choice ⟨cs, body, otherwise, x.map fun _ => ()⟩), none⟩
  | _, _ => none

/-! ## A passage is added at the end -/

theorem passages_next {D D' : Draft} {x : Passage Meaning} (h : D.next x = some D') :
    D'.passages = D.passages ++ [x] := by
  obtain ⟨d, o⟩ := D
  obtain ⟨before, q, m⟩ := x
  unfold next at h
  dsimp only at h
  split at h
  next =>
    cases h
    exact passages_add _ _
  next =>
    cases h
    simp [passages, Document.passages, Passage.map]
  next =>
    cases h
    simp [passages, Opened.passages, Conditions.passages, Clause.passages, Passage.map]
  next =>
    cases h
    simp [passages, Opened.passages, Conditions.passages, Clause.passages, Passage.map]
  next =>
    cases h
    simp [passages, Opened.passages, Clause.passages, Passage.map]
  next =>
    cases h
    simp [passages, Opened.passages, Clause.passages, Passage.map]
  next =>
    cases h
    simp [passages, Document.passages_add, Item.passages, Choice.opened, Passage.map]
  next => cases h

/-- Passages that are added one after another stand at the end in their order. -/
theorem passages_foldlM_next {D D' : Draft} {xs : List (Passage Meaning)}
    (h : xs.foldlM next D = some D') : D'.passages = D.passages ++ xs := by
  induction xs generalizing D with
  | nil =>
      cases h
      exact (List.append_nil _).symm
  | cons x xs ih =>
      rw [List.foldlM_cons] at h
      obtain ⟨D₁, h₁, h⟩ := Option.bind_eq_some_iff.1 h
      rw [ih h, passages_next h₁, List.append_assoc, List.singleton_append]

/-! ## Drafts come from their passages -/

theorem next_content (D : Draft) (x : Passage Content) :
    D.next (x.map .content) = some (D.add x) := rfl

/-- A part of a conditional comes from its passages, if its first line can stand there and
what follows is added to it. -/
theorem foldlM_next_clause {α : Type} {f : α → Meaning} {D : Draft} (make : Clause α → Draft)
    (hopening : ∀ opening, D.next (opening.map f) = some (make ⟨opening, []⟩))
    (hadd : ∀ k x, (make k).add x = make (k.add x)) (k : Clause α) :
    (k.passages f).foldlM next D = some (make k) := by
  obtain ⟨opening, contents⟩ := k
  -- The part grows at its end while the passages are taken from the front.
  have hcontents : ∀ earlier,
      (contents.map (·.map .content)).foldlM next (make ⟨opening, earlier⟩) =
        some (make ⟨opening, earlier ++ contents⟩) := by
    induction contents with
    | nil => simp
    | cons x contents ih =>
        intro earlier
        rw [List.map_cons, List.foldlM_cons, next_content, hadd]
        exact (ih (earlier ++ [x])).trans (by rw [List.append_assoc, List.singleton_append])
  rw [Clause.passages, List.foldlM_cons, hopening]
  exact hcontents []

theorem foldlM_next_conditions (d : Document) (cs : Conditions) :
    cs.passages.foldlM next ⟨d, none⟩ = some ⟨d, some (.conditions cs)⟩ := by
  induction cs with
  | first k =>
      exact foldlM_next_clause (fun k => ⟨d, some (.conditions (.first k))⟩)
        (fun _ => rfl) (fun _ _ => rfl) k
  | more before k ih =>
      rw [Conditions.passages, List.foldlM_append, ih, Option.bind_eq_bind, Option.bind_some]
      exact foldlM_next_clause (fun k => ⟨d, some (.conditions (.more before k))⟩)
        (fun _ => rfl) (fun _ _ => rfl) k

theorem foldlM_next_opened (d : Document) (o : Opened) :
    o.passages.foldlM next ⟨d, none⟩ = some ⟨d, some o⟩ := by
  cases o with
  | conditions cs => exact foldlM_next_conditions d cs
  | branches cs body otherwise =>
      have hbody : (cs.passages ++ body.passages fun _ => .doRules).foldlM next ⟨d, none⟩ =
          some ⟨d, some (.branches cs body none)⟩ := by
        rw [List.foldlM_append, foldlM_next_conditions, Option.bind_eq_bind, Option.bind_some]
        exact foldlM_next_clause (fun k => ⟨d, some (.branches cs k none)⟩)
          (fun _ => rfl) (fun _ _ => rfl) body
      rw [Opened.passages, List.foldlM_append, hbody, Option.bind_eq_bind, Option.bind_some]
      cases otherwise with
      | none => rfl
      | some k =>
          rw [Option.toList_some, List.flatMap_singleton]
          exact foldlM_next_clause (fun k => ⟨d, some (.branches cs body (some k))⟩)
            (fun _ => rfl) (fun _ _ => rfl) k

theorem foldlM_next_item (d : Document) (e : Item) :
    e.passages.foldlM next ⟨d, none⟩ = some ⟨d.add e, none⟩ := by
  cases e with
  | passage x => rfl
  | choice c =>
      rw [Item.passages, List.foldlM_append, foldlM_next_opened]
      rfl

/-- The items of a section come from their passages. -/
theorem foldlM_next_items (make : List Item → Document)
    (hadd : ∀ es e, (make es).add e = make (es ++ [e])) (es : List Item) :
    (es.flatMap (·.passages)).foldlM next ⟨make [], none⟩ = some ⟨make es, none⟩ := by
  have hitems : ∀ earlier, (es.flatMap (·.passages)).foldlM next ⟨make earlier, none⟩ =
      some ⟨make (earlier ++ es), none⟩ := by
    induction es with
    | nil => simp
    | cons e es ih =>
        intro earlier
        rw [List.flatMap_cons, List.foldlM_append, foldlM_next_item, hadd]
        exact (ih (earlier ++ [e])).trans (by rw [List.append_assoc, List.singleton_append])
  exact hitems []

theorem foldlM_next_document (d : Document) : d.passages.foldlM next start = some ⟨d, none⟩ := by
  induction d with
  | unnamed es => exact foldlM_next_items .unnamed (fun _ _ => rfl) es
  | headed before heading es ih =>
      rw [Document.passages, List.foldlM_append, ih]
      exact foldlM_next_items (.headed before heading) (fun _ _ => rfl) es

/-- A draft comes from its passages. -/
theorem foldlM_next_passages (D : Draft) : D.passages.foldlM next start = some D := by
  obtain ⟨d, o⟩ := D
  rw [passages, List.foldlM_append, foldlM_next_document]
  cases o with
  | none => rfl
  | some o =>
      rw [Option.toList_some, List.flatMap_singleton]
      exact foldlM_next_opened d o

/-- Passages can be added one after another if and only if they are those of a draft. -/
theorem foldlM_next_iff {D : Draft} {xs : List (Passage Meaning)} :
    xs.foldlM next start = some D ↔ D.passages = xs := by
  constructor
  · intro h
    exact passages_foldlM_next h
  · rintro rfl
    exact foldlM_next_passages D

/-- A draft with one more passage at its end is the draft that this passage makes. -/
theorem next_of_passages {D D' : Draft} {x : Passage Meaning}
    (h : D'.passages = D.passages ++ [x]) : D.next x = some D' := by
  have hD' := foldlM_next_iff.2 h
  rw [List.foldlM_append, foldlM_next_passages, Option.bind_eq_bind, Option.bind_some,
    List.foldlM_cons] at hD'
  obtain ⟨D₁, hnext, hD₁⟩ := Option.bind_eq_some_iff.1 hD'
  cases hD₁
  exact hnext

end Draft

end PageLayout
