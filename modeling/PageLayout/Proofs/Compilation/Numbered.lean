import PageLayout.Check.Layout
import PageLayout.Proofs.Compilation.Group

/-!
# Elements by number

There are three ways from a locator to the elements that it matches: the list of them, finding
the one with an index, and counting.  On a page that `Answers` with a list they agree.  The
index is the place in the list, counted from one, and a count by asking for one index after
another finds them all, up to the limit (`probeCount_eq`).

So a definition of a group declares one name for each element of the list, with its number, and
fails at the first of these names that is taken (`Job.exists_define_of_free`,
`Job.define_of_taken`).  A snapshot answers with its matches (`Snapshot.answers`), and so the
number in a name is that of the match which the name leads to.
-/

namespace PageLayout

/-! ## Asking for one index after another -/

/-- Asking finds as much as there is, if the answers are those of a list. -/
theorem countFrom_eq {α : Type} {found : Nat → Bool} {index : Nat} {xs : List α}
    (h : ∀ i, found (index + i) = (xs[i]?).isSome) (left : Nat) :
    countFrom found index left = min xs.length left := by
  induction left generalizing index xs with
  | zero => rw [countFrom, Nat.min_zero]
  | succ left ih =>
      have hfirst := h 0
      rw [Nat.add_zero] at hfirst
      rw [countFrom, hfirst]
      cases xs with
      | nil => rw [List.length_nil, Nat.zero_min]; rfl
      | cons x xs =>
          have hrest : ∀ i, found (index + 1 + i) = (xs[i]?).isSome := fun i => by
            rw [Nat.add_assoc, Nat.add_comm 1 i, h, List.getElem?_cons_succ]
          rw [ih hrest, List.length_cons, Nat.succ_min_succ]
          rfl

/-- What a page answers about a locator, whatever its index, comes from a list of elements. -/
structure Answers {π : Type} [Page π] (page : π) (l : Locator) (elements : List Element) :
    Prop where
  /-- Without an index the first element is found. -/
  first : Page.find page l.unindexed = elements.head?
  /-- With an index the element is found that has it, counted from one. -/
  indexed : ∀ i, 1 ≤ i → i ≤ elements.length → ∃ e, elements[i - 1]? = some e ∧
    Page.find page (l.withIndex i) = some e
  /-- With another index nothing is found. -/
  outside : ∀ i, i = 0 ∨ elements.length < i → Page.find page (l.withIndex i) = none
  /-- The elements are counted. -/
  counted : Page.count page l = elements.length
  /-- They are counted up to the limit by asking for one index after another. -/
  probed : probeCount (Page.find page) l = min elements.length probeLimit

theorem probeCount_eq {find : Locator → Option Element} {l : Locator} {elements : List Element}
    (h : ∀ i, find (l.withIndex (i + 1)) = elements[i]?) :
    probeCount find l = min elements.length probeLimit := by
  refine countFrom_eq (fun i => ?_) probeLimit
  rw [Nat.add_comm 1 i, ← h]
  rfl

/-- A snapshot answers with the elements that a locator matches, in their order. -/
theorem Snapshot.answers (v : Snapshot) (l : Locator) :
    Answers v l ((v.matching l).map Node.element) := by
  have hfind : ∀ i, Page.find v (l.withIndex (i + 1)) = ((v.matching l).map Node.element)[i]? :=
    fun i => (v.find_withIndex l (Nat.le_add_left 1 i)).trans List.getElem?_map.symm
  refine ⟨?_, fun i hfirst hlast => ?_, fun i hi => ?_, (List.length_map _).symm,
    probeCount_eq hfind⟩
  · exact (hfind 0).trans List.head?_eq_getElem?.symm
  · obtain ⟨i, rfl⟩ := Nat.exists_eq_add_of_le' hfirst
    exact ⟨_, List.getElem?_eq_getElem hlast, (hfind i).trans (List.getElem?_eq_getElem hlast)⟩
  · obtain rfl | hlast := hi
    · rfl
    · obtain ⟨i, rfl⟩ := Nat.exists_eq_add_of_lt (Nat.zero_lt_of_lt hlast)
      rw [Nat.zero_add] at hlast ⊢
      exact (hfind i).trans (List.getElem?_eq_none (Nat.le_of_lt_succ hlast))

/-! ## Declarations of a group -/

/-- A text that defines a group: a stem with a star, the word of a kind and a selector, with blanks
between them. -/
structure DefinesGroup (text : String) (stem : List Char) (l : Locator) : Prop where
  ink : ∀ c ∈ stem, isBlank c = false
  trimmed : Text.Trimmed l.selector.toList
  nonempty : l.selector.toList ≠ []
  unindexed : l.index = none
  spelled : ∃ blanks gap, Text.AllBlank blanks ∧ blanks ≠ [] ∧ Text.AllBlank gap ∧ gap ≠ [] ∧
    text.toList =
      (stem ++ ['*']) ++ (blanks ++ (l.kind.word.toList ++ (gap ++ l.selector.toList)))

theorem DefinesGroup.readDefinition {text : String} {stem : List Char} {l : Locator}
    (h : DefinesGroup text stem l) : readDefinition text = .ok (stem ++ ['*'], l) := by
  obtain ⟨kind, selector, index⟩ := l
  obtain rfl : index = none := h.unindexed
  obtain ⟨blanks, gap, hblanks, hblanksNe, hgap, hgapNe, htext⟩ := h.spelled
  have hname : Text.Word (stem ++ ['*']) := by
    refine ⟨List.append_ne_nil_of_right_ne_nil _ (List.cons_ne_nil _ _), fun c hc => ?_⟩
    obtain hc | hc := List.mem_append.1 hc
    · exact h.ink c hc
    · cases List.mem_singleton.1 hc
      rfl
  have hread := readDefinition_spaced kind hname hblanks hblanksNe hgap hgapNe h.trimmed h.nonempty
  rw [← htext, String.ofList_toList, String.ofList_toList] at hread
  exact hread

namespace Table

variable {t : Table Locator}

/-- Names that are free are not those of earlier declarations. -/
theorem Holds.nodup_append {es ds : List Declaration} (h : t.Holds es)
    (hnodup : (ds.map Declaration.name).Nodup) (hfree : ∀ d ∈ ds, t.contains d.name = false) :
    ((es ++ ds).map Declaration.name).Nodup := by
  rw [List.map_append, List.nodup_append]
  refine ⟨h.nodup, hnodup, fun name hname name' hname' heq => ?_⟩
  subst heq
  obtain ⟨d, hd, hd'⟩ := List.mem_map.1 hname'
  rw [← h.contains_iff, ← hd', hfree d hd] at hname
  cases hname

/-- Names that are free are declared, and nothing else changes. -/
theorem exists_declareAll_of_free {ds : List Declaration}
    (hnodup : (ds.map Declaration.name).Nodup) (hfree : ∀ d ∈ ds, t.contains d.name = false) :
    ∃ t', t.declareAll ds = .ok t' ∧ ∀ name locator, t'.get? name = some locator ↔
      t.get? name = some locator ∨ ∃ d ∈ ds, d.name = name ∧ d.locator = locator := by
  obtain ⟨es, hholds⟩ := t.exists_holds
  obtain ⟨t', ht'⟩ := hholds.exists_declareAll (hholds.nodup_append hnodup hfree)
  refine ⟨t', ht', fun name locator => ?_⟩
  rw [(hholds.declareAll ht').get?_iff, hholds.get?_iff]
  simp only [List.mem_append, or_and_right, exists_or]

/-- The first declaration of a name that is taken ends the list. -/
theorem declareAll_of_taken {before : List Declaration} {d : Declaration}
    (hnodup : (before.map Declaration.name).Nodup)
    (hfree : ∀ e ∈ before, t.contains e.name = false) (hd : t.contains d.name = true)
    (after : List Declaration) : t.declareAll (before ++ d :: after) = .error d := by
  obtain ⟨es, hholds⟩ := t.exists_holds
  refine hholds.declareAll_eq_error (hholds.nodup_append hnodup hfree) ?_ after
  rw [List.map_append]
  exact List.mem_append_left _ ((hholds.contains_iff _).1 hd)

end Table

/-- The elements of a group before one of them, that one, and those after it. -/
theorem exists_groupDeclarations_eq (stem : String) (l : Locator) (place : Place) {k count : Nat}
    (hfirst : 1 ≤ k) (hlast : k ≤ count) :
    ∃ after, groupDeclarations stem l place 1 count =
      groupDeclarations stem l place 1 (k - 1) ++
        ⟨stem ++ toString k, l.withIndex k, place⟩ :: after := by
  have hcount : count = (k - 1) + (1 + (count - k)) := by omega
  have hk : 1 + (k - 1) = k := by omega
  refine ⟨groupDeclarations stem l place (k + 1) (count - k), ?_⟩
  unfold groupDeclarations
  conv_lhs => rw [hcount, ← List.range'_append_1, hk, ← List.range'_append_1]
  rw [List.map_append, List.map_append]
  rfl

namespace Job

variable {π : Type} [Page π] {j : Job π} {page : π} {s : Store} {line : Line} {text : String}
  {stem : List Char} {l : Locator} {count : Nat}

/-- A definition of a group declares the elements that are counted on the page. -/
theorem define_definesGroup (hpage : j.page = some page)
    (htext : j.substitute s none line.place line.text = .ok text) (h : DefinesGroup text stem l) :
    j.define s line = s.declareAll
      (groupDeclarations (String.ofList stem) l line.place 1 (Page.count page l)) := by
  rw [define_eq, declarationsOf, htext, ok_bind, h.readDefinition]
  show s.declareAll (j.declarationsFor (stem ++ ['*']) _ _) = _
  rw [declarationsFor, Text.dropSuffix?_append, hpage]

/-- If no name of the group is taken, each of them gets the locator with its number. -/
theorem exists_define_of_free (hpage : j.page = some page)
    (htext : j.substitute s none line.place line.text = .ok text) (h : DefinesGroup text stem l)
    (hcount : Page.count page l = count)
    (hfree : ∀ i, 1 ≤ i → i ≤ count →
      s.objects.contains (String.ofList stem ++ toString i) = false) :
    ∃ t, j.define s line = .ok { s with objects := t } ∧
      ∀ name locator, t.get? name = some locator ↔ s.objects.get? name = some locator ∨
        ∃ i : Nat, 1 ≤ i ∧ i ≤ count ∧ name = String.ofList stem ++ toString i ∧
          locator = l.withIndex i := by
  obtain ⟨t, ht, hget⟩ := Table.exists_declareAll_of_free
    (nodup_groupDeclarations (String.ofList stem) l line.place 1 count) fun d hd => by
      obtain ⟨i, hfirst, hlast, rfl⟩ := mem_groupDeclarations.1 hd
      exact hfree i hfirst hlast
  refine ⟨t, ?_, fun name locator => ?_⟩
  · rw [define_definesGroup hpage htext h, hcount, Store.declareAll, ht]
  · rw [hget]
    refine or_congr Iff.rfl ⟨?_, ?_⟩
    · rintro ⟨d, hd, rfl, rfl⟩
      obtain ⟨i, hfirst, hlast, rfl⟩ := mem_groupDeclarations.1 hd
      exact ⟨i, hfirst, hlast, rfl, rfl⟩
    · rintro ⟨i, hfirst, hlast, rfl, rfl⟩
      exact ⟨_, mem_groupDeclarations.2 ⟨i, hfirst, hlast, rfl⟩, rfl, rfl⟩

/-- The first name of the group that is taken is the error. -/
theorem define_of_taken (hpage : j.page = some page)
    (htext : j.substitute s none line.place line.text = .ok text) (h : DefinesGroup text stem l)
    (hcount : Page.count page l = count) {k : Nat} (hfirst : 1 ≤ k) (hlast : k ≤ count)
    (htaken : s.objects.contains (String.ofList stem ++ toString k) = true)
    (hfree : ∀ i, 1 ≤ i → i < k →
      s.objects.contains (String.ofList stem ++ toString i) = false) :
    j.define s line =
      .error (.fault (.duplicateObject (String.ofList stem ++ toString k)) line.place) := by
  obtain ⟨after, hgroup⟩ :=
    exists_groupDeclarations_eq (String.ofList stem) l line.place hfirst hlast
  have hdeclared := Table.declareAll_of_taken
    (nodup_groupDeclarations (String.ofList stem) l line.place 1 (k - 1))
    (fun d hd => by
      obtain ⟨i, hi, hik, rfl⟩ := mem_groupDeclarations.1 hd
      exact hfree i hi (by omega))
    (d := ⟨String.ofList stem ++ toString k, l.withIndex k, line.place⟩) htaken after
  rw [define_definesGroup hpage htext h, hcount, hgroup, Store.declareAll, hdeclared]
  rfl

end Job

/-- On a snapshot, finding by index and both ways of counting agree with the list of matches, and
a definition of a group declares one object for each match: the one with its number.  It fails
if the name of one of them is taken.  What is inside an element of a snapshot is a snapshot
again, so this holds there as well. -/
theorem Snapshot.answers_and_define (v : Snapshot) :
    (∀ l, Answers v l ((v.matching l).map Node.element)) ∧
    ∀ (j : Job Snapshot) (s : Store) (line : Line) (text : String) (stem : List Char)
      (l : Locator), j.page = some v → j.substitute s none line.place line.text = .ok text →
        DefinesGroup text stem l →
      let name : Nat → String := fun i => String.ofList stem ++ toString i
      let count := (v.matching l).length
      ((∀ i, 1 ≤ i → i ≤ count → s.objects.contains (name i) = false) →
        ∃ t, j.define s line = .ok { s with objects := t } ∧
          (∀ object locator, t.get? object = some locator ↔
            s.objects.get? object = some locator ∨
              ∃ i, 1 ≤ i ∧ i ≤ count ∧ object = name i ∧ locator = l.withIndex i) ∧
          ∀ i, 1 ≤ i → i ≤ count → ∃ node, (v.matching l)[i - 1]? = some node ∧
            (Layout.mk t s.sections).lookup v (name i) = .found node.element) ∧
      ∀ k, 1 ≤ k → k ≤ count → s.objects.contains (name k) = true →
        (∀ i, 1 ≤ i → i < k → s.objects.contains (name i) = false) →
          j.define s line = .error (.fault (.duplicateObject (name k)) line.place) := by
  refine ⟨v.answers, fun j s line text stem l hpage htext hgroup => ⟨fun hfree => ?_, ?_⟩⟩
  · obtain ⟨t, ht, hget⟩ := Job.exists_define_of_free hpage htext hgroup rfl hfree
    refine ⟨t, ht, hget, fun i hfirst hlast => ?_⟩
    have hindex : i - 1 < (v.matching l).length := by omega
    refine ⟨(v.matching l)[i - 1], List.getElem?_eq_getElem hindex, ?_⟩
    have hlocator : (Layout.mk t s.sections).locator? (String.ofList stem ++ toString i) =
        some (l.withIndex i) := (hget _ _).2 (.inr ⟨i, hfirst, hlast, rfl, rfl⟩)
    rw [Layout.lookup, hlocator]
    dsimp only
    rw [v.find_withIndex l hfirst, List.getElem?_eq_getElem hindex]
    rfl
  · intro k hfirst hlast htaken hfree
    exact Job.define_of_taken hpage htext hgroup rfl hfirst hlast htaken hfree

/-- The two cards are declared from the definition, and the second one is found by its name.  Where
that name is taken, the definition fails with it. -/
theorem Snapshot.answers_and_define_cards :
    let j : Job Snapshot := ⟨Compiler.bare, some Compiler.cardPage⟩
    let line : Line := ⟨"card-*  css .card", ⟨"cards", 2⟩, false⟩
    let taken : Store := { Store.start with objects := .ofList [("card-2", ⟨.id, "last", none⟩)] }
    probeCount (Page.find Compiler.cardPage) ⟨.css, ".card", none⟩ = 2 ∧
      (∃ t, j.define .start line = .ok { Store.start with objects := t } ∧
        t.get? "card-2" = some ⟨.css, ".card", some 2⟩ ∧
          (Layout.mk t []).lookup Compiler.cardPage "card-2" =
            .found ⟨⟨200, 0, 100, 50⟩, some "Card 2", true⟩) ∧
      j.define taken line = .error (.fault (.duplicateObject "card-2") ⟨"cards", 2⟩) := by
  intro j line taken
  let l : Locator := ⟨.css, ".card", none⟩
  have hstem : Text.Word "card-".toList := .of_all (by decide) (by decide)
  have hselector : Text.Word ".card".toList := .of_all (by decide) (by decide)
  have hgroup : DefinesGroup line.text "card-".toList l :=
    ⟨hstem.ink, hselector.trimmed, hselector.ne_nil, rfl, [' ', ' '], [' '],
      List.all_eq_true.mp rfl, List.cons_ne_nil _ _, List.all_eq_true.mp rfl, List.cons_ne_nil _ _,
      by decide⟩
  obtain ⟨hanswers, hdefine⟩ := Snapshot.answers_and_define Compiler.cardPage
  have htext : ∀ s : Store, j.substitute s none line.place line.text = .ok line.text :=
    fun s => j.substitute_of_notMem s line.place (by decide)
  obtain ⟨t, ht, hget, hfound⟩ :=
    (hdefine j .start line _ _ l rfl (htext _) hgroup).1 fun i _ _ => rfl
  obtain ⟨node, hnode, hlookup⟩ := hfound 2 (by decide) (by decide)
  have hsecond : ((Compiler.cardPage.matching l)[2 - 1]?).map Node.element =
      some ⟨⟨200, 0, 100, 50⟩, some "Card 2", true⟩ := rfl
  rw [hnode] at hsecond
  refine ⟨(hanswers l).probed, ⟨t, ht, (hget _ _).2 (.inr ⟨2, by decide, by decide, rfl, rfl⟩), ?_⟩, ?_⟩
  · exact hlookup.trans (congrArg Lookup.found (Option.some.inj hsecond))
  · refine (hdefine j taken line _ _ l rfl (htext _) hgroup).2 2 (by decide) (by decide)
      (by decide) fun i hfirst hlast => ?_
    obtain rfl : i = 1 := by omega
    decide

end PageLayout
