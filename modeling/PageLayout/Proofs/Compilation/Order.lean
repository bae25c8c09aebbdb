import PageLayout.Proofs.Compilation.Faithful
import PageLayout.Proofs.Compilation.Parts

/-!
# Where the parts of a conditional can stand

While a file with headers, object blocks and the parts of conditionals is read, the
progress stays that of a draft (`Tracks`).  A paragraph can be read exactly if `Draft.next`
has a place for what it says.  So such a file is read if and only if it is a document: its
conditionals have their parts in order, they are not nested, and no header stands inside of
one.  A file that is no document is given up with the first line that no document goes on
with, or, if there is none, with the first line of the conditional that is still open at its
end.
-/

namespace PageLayout

/-! ## Progress stays that of a draft -/

/-- What a file has been read so far is a draft, its sections come after those of a store,
and nothing else of the store was changed. -/
structure Draft.Tracks (D : Draft) (s : Store) (p : Progress) : Prop where
  lays : D.Lays s.sections p
  store : p.store = { s with sections := p.store.sections }
  pending : p.cursor.pending = .nothing
  indexes : p.cursor.indexes = none
  defining : p.cursor.defining = false

namespace Draft.Tracks

variable {π : Type} {j : Job π} {load : Loader} {s : Store} {D D' : Draft} {p p' : Progress}

theorem start (s : Store) : Draft.start.Tracks s ⟨s, .start⟩ :=
  ⟨⟨(List.append_nil _).symm, rfl, rfl⟩, rfl, rfl, rfl, rfl⟩

theorem step (h : D.Tracks s p) (hlays : D'.Lays s.sections p') (hkeeps : p.Keeps p')
    (hstore : ∃ sections, p'.store = { p.store with sections := sections }) : D'.Tracks s p' where
  lays := hlays
  store := by
    obtain ⟨sections, hstore⟩ := hstore
    rw [hstore, h.store]
  pending := hkeeps.pending.trans h.pending
  indexes := hkeeps.indexes.trans h.indexes
  defining := hkeeps.defining.trans h.defining

/-- Lines are read with the values that there were before the file. -/
theorem substitute (h : D.Tracks s p) : j.substitute p.store = j.substitute s := by
  rw [h.store]
  rfl

theorem objectsOf (h : D.Tracks s p) : j.objectsOf p.store = j.objectsOf s := by
  rw [h.store]
  rfl

end Draft.Tracks

namespace Job

variable {π : Type} [Page π] {j : Job π} {load : Loader} {s : Store} {D D' : Draft}
  {p p' : Progress}

/-! ## What can stand somewhere is read -/

/-- A part of a conditional that can stand somewhere does what it says. -/
theorem enacts_of_next {base : List Section} {d : Directive} {before s₁ s₂ : Store} {q : Paragraph}
    {m : Meaning} (h : D.Lays base p) (hd : d.isPart = true) (hm : j.Orders s₁ s₂ d m)
    (hnext : D.next ⟨before, q, m⟩ = some D') : ∃ p', j.Enacts p q.head.place d m p' := by
  obtain ⟨document, o⟩ := D
  have hc := h.conditional
  cases hm with
  | importFile | loadScript | setBlock | set => cases hd
  | ifHolds hi =>
      match o with
      | none => exact ⟨_, .ifHolds hc hi⟩
      | some _ => cases hnext
  | orHolds hi =>
      match o with
      | some (.conditions _) => exact ⟨_, .orHolds hc rfl hi⟩
      | none | some (.branches ..) => cases hnext
  | doRules =>
      match o with
      | some (.conditions _) => exact ⟨_, .doRules hc rfl⟩
      | none | some (.branches ..) => cases hnext
  | otherwise =>
      match o with
      | some (.branches _ _ none) => exact ⟨_, .otherwise hc rfl⟩
      | none | some (.conditions _) | some (.branches _ _ (some _)) => cases hnext
  | close =>
      match o with
      | some (.branches _ _ none) => exact ⟨_, .close hc (.inl rfl)⟩
      | some (.branches _ _ (some _)) => exact ⟨_, .close hc (.inr rfl)⟩
      | none | some (.conditions _) => cases hnext

/-- A part of a conditional that does what it says is carried out. -/
theorem controlled_of_enacts {d : Directive} {place : Place} {m : Meaning}
    (hd : d.isPart = true) (h : j.Enacts p place d m p') : controlled p place d = .ok p' := by
  cases h with
  | importFile | loadScript | setBlock | set => cases hd
  | ifHolds hc hi => simp [controlled, hc, hi]
  | orHolds hc hb hi => simp [controlled, OpenConditional.expect, hc, hb, hi]
  | doRules hc hb | otherwise hc hb => simp [controlled, OpenConditional.expect, hc, hb]
  | close hc hb => simp [controlled, OpenConditional.expect, hc, hb]

theorem keeps_of_part {d : Directive} {place : Place} {m : Meaning} (hd : d.isPart = true)
    (h : j.Enacts p place d m p') :
    p.Keeps p' ∧ ∃ sections, p'.store = { p.store with sections := sections } := by
  cases h with
  | importFile | loadScript | setBlock | set => cases hd
  | ifHolds | orHolds | doRules | otherwise => exact ⟨⟨rfl, rfl, rfl, rfl⟩, _, rfl⟩
  | close => exact ⟨p.keeps_close _, p.store_close _⟩

section Heads

variable {q : Paragraph} {rest : List Char}

theorem opened_header (load : Loader) (h : D.Tracks s p)
    (hk : LineKind.of false q.head.text.toList = .header rest) :
    j.opened load p q.head =
      p.store.attempt (j.substitute s none q.head.place (String.ofList rest)) >>= fun text =>
        p.store.attempt
          ((headed p q.head.place (Text.trimmed text)).mapError (.fault · q.head.place)) := by
  rw [opened_eq, h.defining, hk, ← h.substitute]

theorem opened_directive (load : Loader) (h : D.Tracks s p)
    (hk : LineKind.of false q.head.text.toList = .directive rest) :
    j.opened load p q.head =
      p.store.attempt (j.substitute s none q.head.place (String.ofList rest)) >>= fun text =>
        j.directed load p q.head.place (Text.trimmed text) := by
  rw [opened_eq, h.defining, hk, ← h.substitute]

/-- A paragraph of one line ends like its line, since nothing pends after it. -/
theorem readParagraph_of_opened (h : D.Tracks s p) (hq : q.Indented) (hbelow : q.below = [])
    (hopened : j.opened load p q.head = .ok p') (hkeeps : p.Keeps p') :
    j.readParagraph load p q = .ok p' := by
  rw [readParagraph, Paragraph.lines, hbelow, List.foldlM_cons, feed_not_indented p hq.1,
    settle_nothing h.pending, attempt_ok, ok_bind, hopened, ok_bind, List.foldlM_nil]
  exact congrArg p'.store.attempt (settle_nothing (hkeeps.pending.trans h.pending))

theorem readParagraph_of_opened_error {a : Abort} (h : D.Tracks s p) (hq : q.Indented)
    (hopened : j.opened load p q.head = .error a) : j.readParagraph load p q = .error a := by
  rw [readParagraph, Paragraph.lines, List.foldlM_cons, feed_not_indented p hq.1,
    settle_nothing h.pending, attempt_ok, ok_bind, hopened]
  rfl

end Heads

/-- A paragraph is read and says something, and nothing but the sections and the conditional
changes. -/
structure Takes (j : Job π) (load : Loader) (p : Progress) (q : Paragraph) (m : Meaning)
    (p' : Progress) : Prop where
  read : j.readParagraph load p q = .ok p'
  advances : j.Advances p q m p'
  keeps : p.Keeps p'
  store : ∃ sections, p'.store = { p.store with sections := sections }

section Takes

variable {before : Store} {q : Paragraph} {rest : List Char} {text : String}

/-- A header is read outside conditionals. -/
theorem takes_heading {header : Heading} (load : Loader) (h : D.Tracks s p) (hq : q.Indented)
    (hk : LineKind.of false q.head.text.toList = .header rest) (hbelow : q.below = [])
    (ht : j.substitute s none q.head.place (String.ofList rest) = .ok text)
    (hheader : readHeader (Text.trimmed text) = (header.name, header.tags))
    (hnext : D.next ⟨before, q, .heading header⟩ = some D') :
    j.Takes load p q (.heading header)
      (p.enterSection (.opened header.name header.tags q.head.place)) := by
  have hc : p.cursor.conditional = none := by
    obtain ⟨document, o⟩ := D
    match o with
    | none => exact h.lays.conditional
    | some _ => cases hnext
  have hkeeps : p.Keeps (p.enterSection (.opened header.name header.tags q.head.place)) :=
    ⟨rfl, rfl, rfl, rfl⟩
  have hopened : j.opened load p q.head =
      .ok (p.enterSection (.opened header.name header.tags q.head.place)) := by
    rw [opened_header load h hk, ht, attempt_ok, ok_bind, headed, hc, hheader]
    rfl
  have ht' : j.substitute p.store none q.head.place (String.ofList rest) = .ok text := by
    rw [h.substitute, ht]
  exact ⟨readParagraph_of_opened h hq hbelow hopened hkeeps,
    .heading (h.defining ▸ hk) ht' hheader hc, hkeeps, _, rfl⟩

/-- A part of a conditional is read where it can stand. -/
theorem takes_part {word argument : String} {m : Meaning} (load : Loader) (h : D.Tracks s p)
    (hq : q.Indented) (hk : LineKind.of false q.head.text.toList = .directive rest)
    (hbelow : q.below = [])
    (ht : j.substitute s none q.head.place (String.ofList rest) = .ok text)
    (hwords : Text.firstWord (Text.trimmed text).toList = (word.toList, argument.toList))
    (hworded : m.Worded word argument) (hnext : D.next ⟨before, q, m⟩ = some D') :
    ∃ p', j.Takes load p q m p' := by
  obtain ⟨d, hd, hpart, horders⟩ := orders_of_worded (j := j) p.store p.store hwords hworded
  obtain ⟨p', henacts⟩ := enacts_of_next h.lays hpart horders hnext
  obtain ⟨hkeeps, hstore⟩ := keeps_of_part hpart henacts
  have hopened : j.opened load p q.head = .ok p' := by
    rw [opened_directive load h hk, ht, attempt_ok, ok_bind, directed_part hd hpart,
      controlled_of_enacts hpart henacts]
    rfl
  have ht' : j.substitute p.store none q.head.place (String.ofList rest) = .ok text := by
    rw [h.substitute, ht]
  exact ⟨p', readParagraph_of_opened h hq hbelow hopened hkeeps,
    .directive (h.defining ▸ hk) ht' hd henacts, hkeeps, hstore⟩

theorem takes_block {objects : List ObjectRules} (load : Loader) (h : D.Tracks s p)
    (hq : q.Indented) (hk : LineKind.of false q.head.text.toList = .objectName)
    (ho : j.objectsOf s ⟨q.head, none, q.below⟩ = .ok objects) :
    j.Takes load p q (.content (.block objects)) (p.attach objects q.head.place) := by
  have hk : LineKind.of p.cursor.defining q.head.text.toList = .objectName := h.defining ▸ hk
  have ho : j.objectsOf p.store ⟨q.head, p.cursor.indexes.map (·.1), q.below⟩ = .ok objects := by
    rw [h.indexes, h.objectsOf]
    exact ho
  have hp : (⟨p.store, { p.cursor with indexes := none }⟩ : Progress) = p := by
    rw [← h.indexes]
  have hread : j.readParagraph load p q = .ok (p.attach objects q.head.place) := by
    rw [readParagraph_object h.pending hq hk, ho, ok_bind, attempt_ok, hp]
  have hadvances := Advances.block (p := p) hk (repeats_of_objectsOf ho)
  rw [hp] at hadvances
  exact ⟨hread, hadvances, p.keeps_attach objects _, p.store_attach objects _⟩

/-- A paragraph that can stand somewhere is read. -/
theorem takes_of_next {m : Meaning} (load : Loader) (h : D.Tracks s p) (hq : q.Indented)
    (hm : j.Says s q m) (hnext : D.next ⟨before, q, m⟩ = some D') :
    ∃ p', j.Takes load p q m p' := by
  cases hm with
  | heading hk hbelow ht hheader => exact ⟨_, takes_heading load h hq hk hbelow ht hheader hnext⟩
  | part hk hbelow ht hwords hworded => exact takes_part load h hq hk hbelow ht hwords hworded hnext
  | block hk ho => exact ⟨_, takes_block load h hq hk ho⟩

end Takes

/-- The draft gets the paragraph that is read. -/
theorem readParagraph_of_next {x : Passage Meaning} (load : Loader) (h : D.Tracks s p)
    (hq : x.paragraph.Indented) (hm : j.Says s x.paragraph x.meaning)
    (hnext : D.next x = some D') :
    ∃ p', j.readParagraph load p x.paragraph = .ok p' ∧ D'.Tracks s p' := by
  obtain ⟨p', htakes⟩ := takes_of_next load h hq hm hnext
  -- Drafts with the same passages are the same, so what is laid out is what `next` makes.
  obtain ⟨D'', hpassages, hlays⟩ := lays_of_advances x.before h.lays htakes.advances
  cases hnext.symm.trans (Draft.next_of_passages hpassages)
  exact ⟨p', htakes.read, h.step hlays htakes.keeps htakes.store⟩

/-- Passages that can stand one after another are read. -/
theorem foldlM_of_next {xs : List (Passage Meaning)} (load : Loader) (h : D.Tracks s p)
    (hindented : ∀ x ∈ xs, x.paragraph.Indented)
    (hmeaning : ∀ x ∈ xs, j.Says s x.paragraph x.meaning)
    (hnext : xs.foldlM Draft.next D = some D') :
    ∃ p', (xs.map (·.paragraph)).foldlM (j.readParagraph load) p = .ok p' ∧ D'.Tracks s p' := by
  induction xs generalizing D p with
  | nil =>
      cases hnext
      exact ⟨p, rfl, h⟩
  | cons x xs ih =>
      rw [List.foldlM_cons] at hnext
      obtain ⟨D₁, h₁, hnext⟩ := Option.bind_eq_some_iff.1 hnext
      obtain ⟨p₁, hread, htracks⟩ := readParagraph_of_next load h (hindented x List.mem_cons_self)
        (hmeaning x List.mem_cons_self) h₁
      rw [List.map_cons, List.foldlM_cons, hread, ok_bind]
      exact ih htracks (fun y hy => hindented y (List.mem_cons_of_mem _ hy))
        (fun y hy => hmeaning y (List.mem_cons_of_mem _ hy)) hnext

/-! ## What cannot stand somewhere is not read -/

omit [Page π] in
theorem place_of_attempt_mapError {α : Type} {place : Place} {x : Except Fault α} {a : Abort}
    (h : s.attempt (x.mapError (.fault · place)) = .error a) : a.error.place? = some place := by
  cases x with
  | error cause =>
      cases h
      rfl
  | ok b => cases h

theorem enacts_of_part {d : Directive} {place : Place} (hd : d.isPart = true)
    (h : j.Directs load p place d p') : ∃ m, j.Enacts p place d m p' := by
  cases h with
  | importFile | loadScript | setBlock | set => cases hd
  | ifHolds hc hi => exact ⟨_, .ifHolds hc hi⟩
  | orHolds hc hb hi => exact ⟨_, .orHolds hc hb hi⟩
  | doRules hc hb => exact ⟨_, .doRules hc hb⟩
  | otherwise hc hb => exact ⟨_, .otherwise hc hb⟩
  | close hc hb => exact ⟨_, .close hc hb⟩

/-- A paragraph of one line is not read, and the error is that of the line. -/
structure Fails (j : Job π) (load : Loader) (p : Progress) (q : Paragraph) : Prop where
  kind : LineKind.of false q.head.text.toList ≠ .objectName
  below : q.below = []
  error : ∃ a, j.readParagraph load p q = .error a ∧ a.error.place? = some q.head.place

section Fails

variable {q : Paragraph} {rest : List Char}

theorem fails_of_opened {a : Abort} (h : D.Tracks s p) (hq : q.Indented)
    (hk : LineKind.of false q.head.text.toList ≠ .objectName) (hbelow : q.below = [])
    (hopened : j.opened load p q.head = .error a) (hplace : a.error.place? = some q.head.place) :
    j.Fails load p q :=
  ⟨hk, hbelow, a, readParagraph_of_opened_error h hq hopened, hplace⟩

theorem says_or_fails_header (load : Loader) (h : D.Tracks s p) (hq : q.Indented)
    (hk : LineKind.of false q.head.text.toList = .header rest) (hbelow : q.below = []) :
    (∃ m D', j.Says s q m ∧ D.next ⟨p.store, q, m⟩ = some D') ∨ j.Fails load p q := by
  have hkind : LineKind.of false q.head.text.toList ≠ .objectName := hk ▸ nofun
  have hopened := opened_header (j := j) load h hk
  cases ht : j.substitute s none q.head.place (String.ofList rest) with
  | error error =>
      rw [ht] at hopened
      exact .inr (fails_of_opened h hq hkind hbelow hopened (place_of_substitute ht))
  | ok text =>
      obtain ⟨document, o⟩ := D
      cases o with
      | none =>
          obtain ⟨⟨name, tags⟩, hheader⟩ : ∃ header, readHeader (Text.trimmed text) = header :=
            ⟨_, rfl⟩
          exact .inl ⟨_, _, .heading (h := ⟨name, tags⟩) hk hbelow ht hheader, rfl⟩
      | some o =>
          have hc : p.cursor.conditional = some o.state := h.lays.conditional
          have hheaded : headed p q.head.place (Text.trimmed text) = .error .sectionInBlock := by
            rw [headed, hc]
            rfl
          rw [ht, attempt_ok, ok_bind, hheaded] at hopened
          exact .inr (fails_of_opened h hq hkind hbelow hopened rfl)

theorem says_or_fails_part (load : Loader) (h : D.Tracks s p) (hq : q.Indented)
    (hk : LineKind.of false q.head.text.toList = .directive rest) (hbelow : q.below = [])
    (hword : ∀ text, j.substitute s none q.head.place (String.ofList rest) = .ok text →
      String.ofList (Text.firstWord (Text.trimmed text).toList).1 ∈ Meaning.words) :
    (∃ m D', j.Says s q m ∧ D.next ⟨p.store, q, m⟩ = some D') ∨ j.Fails load p q := by
  have hkind : LineKind.of false q.head.text.toList ≠ .objectName := hk ▸ nofun
  have hopened := opened_directive (j := j) load h hk
  cases ht : j.substitute s none q.head.place (String.ofList rest) with
  | error error =>
      rw [ht] at hopened
      exact .inr (fails_of_opened h hq hkind hbelow hopened (place_of_substitute ht))
  | ok text =>
      rw [ht, attempt_ok, ok_bind] at hopened
      have hword := hword text ht
      obtain ⟨word, argument, hwords⟩ := Text.exists_words (Text.trimmed text).toList
      rw [hwords, String.ofList_toList] at hword
      obtain ⟨d, hd, hpart⟩ := Directive.exists_part_of_words hwords hword
      cases hdirected : j.directed load p q.head.place (Text.trimmed text) with
      | error a =>
          rw [hdirected] at hopened
          rw [directed_part hd hpart] at hdirected
          have hplace := place_of_attempt_mapError hdirected
          exact .inr (fails_of_opened h hq hkind hbelow hopened hplace)
      | ok p' =>
          obtain ⟨d', hd', hdirects⟩ := directed_ok hdirected
          obtain rfl := Except.ok.inj (hd.symm.trans hd')
          obtain ⟨m, henacts⟩ := enacts_of_part hpart hdirects
          obtain ⟨D', hpassages, _⟩ := lays_of_enacts p.store h.lays henacts
          have hworded := worded_of_orders hwords hword hd (orders_of_enacts henacts).1
          exact .inl ⟨m, D', .part hk hbelow ht hwords hworded, Draft.next_of_passages hpassages⟩

/-- A regular paragraph says something that can stand where it stands, or else it is not
read. -/
theorem says_or_fails (load : Loader) (h : D.Tracks s p) (hq : q.Indented)
    (hregular : j.Regular s q) :
    (∃ m D', j.Says s q m ∧ D.next ⟨p.store, q, m⟩ = some D') ∨ j.Fails load p q := by
  cases hregular with
  | header hk hbelow => exact says_or_fails_header load h hq hk hbelow
  | part hk hbelow hword => exact says_or_fails_part load h hq hk hbelow hword
  | block hk ho => exact .inl ⟨_, _, .block hk ho, rfl⟩

end Fails

/-- Regular paragraphs that are read become a draft. -/
theorem tells_of_foldlM {read : List Line} {qs : List Paragraph}
    (htells : j.Tells s read D.passages) (h : D.Tracks s p) (hindented : ∀ q ∈ qs, q.Indented)
    (hregular : ∀ q ∈ qs, j.Regular s q) (hread : qs.foldlM (j.readParagraph load) p = .ok p') :
    ∃ D' : Draft, j.Tells s (read ++ qs.flatMap Paragraph.lines) D'.passages ∧ D'.Tracks s p' := by
  induction qs generalizing D p read with
  | nil =>
      cases hread
      exact ⟨D, by rwa [List.flatMap_nil, List.append_nil], h⟩
  | cons q qs ih =>
      have hq := hindented q List.mem_cons_self
      rw [List.foldlM_cons] at hread
      obtain ⟨p₁, hq₁, hread⟩ := bind_eq_ok_iff.1 hread
      obtain ⟨m, D₁, hmeaning, hnext⟩ | hfails :=
        says_or_fails load h hq (hregular q List.mem_cons_self)
      · obtain ⟨p₁', hq₁', h₁⟩ := readParagraph_of_next load h hq hmeaning hnext
        cases hq₁.symm.trans hq₁'
        rw [List.flatMap_cons, ← List.append_assoc]
        exact ih (htells.next p.store hq hmeaning hnext) h₁
          (fun q hq => hindented q (List.mem_cons_of_mem _ hq))
          (fun q hq => hregular q (List.mem_cons_of_mem _ hq)) hread
      · obtain ⟨a, herror, _⟩ := hfails.error
        cases hq₁.symm.trans herror

/-- No document goes on with a line that cannot be read. -/
theorem not_viable_of_fails {before : List Paragraph} {q : Paragraph}
    (hbefore : ∀ q ∈ before, q.Indented) (hq : q.Indented)
    (hread : before.foldlM (j.readParagraph load) ⟨s, .start⟩ = .ok p) (h : j.Fails load p q) :
    ¬ j.Viable s (before.flatMap Paragraph.lines ++ [q.head]) := by
  rintro ⟨more, d, htells⟩
  rw [List.append_assoc, List.singleton_append] at htells
  -- In the document the line can stand where it stands, so it would be read there.
  obtain ⟨xs, x, D, D', hxs, hx, hindented, hmeaning, hD, hD'⟩ := htells.exists_next hbefore hq.1
  obtain ⟨p₁, hread', htracks⟩ := foldlM_of_next load (.start s)
    (fun y hy => hindented y (List.mem_append_left _ hy))
    (fun y hy => hmeaning y (List.mem_append_left _ hy)) hD
  rw [hxs, hread] at hread'
  cases hread'
  have hmem : x ∈ xs ++ [x] := List.mem_append_right _ (List.mem_singleton_self x)
  have hxq : x.paragraph = q :=
    calc x.paragraph = ⟨x.paragraph.head, x.paragraph.below⟩ := rfl
      _ = ⟨q.head, []⟩ := by rw [hx, below_of_meaning (hmeaning x hmem) (hx ▸ h.kind)]
      _ = q := by rw [← h.below]
  obtain ⟨p₂, hread₂, _⟩ :=
    readParagraph_of_next load htracks (hindented x hmem) (hmeaning x hmem) hD'
  obtain ⟨a, herror, _⟩ := h.error
  rw [hxq, herror] at hread₂
  cases hread₂

/-! ## Documents are all that is read -/

omit [Page π] in
/-- At the end of a file a conditional that is open is an error of its first line. -/
theorem finish_of_tracks (h : D.Tracks s p) :
    p.store.attempt (j.finish p) =
      match D.opened with
      | none => .ok p.store
      | some o => .error ⟨.fault .unclosedBlock o.place, p.store.trail⟩ := by
  have hc := h.lays.conditional
  rw [finish, settle_nothing h.pending, ok_bind, h.indexes]
  cases ho : D.opened with
  | none =>
      rw [ho] at hc
      rw [show p.cursor.conditional = none from hc]
      rfl
  | some o =>
      rw [ho] at hc
      rw [show p.cursor.conditional = some o.state from hc]
      show _ = (.error ⟨.fault .unclosedBlock o.place, p.store.trail⟩ : Except Abort Store)
      rw [← o.place_state]
      rfl

/-- A document is read, and its sections are added. -/
theorem readLines_of_tells {lines : List Line} {d : Document} (load : Loader)
    (h : j.Tells s lines d.passages) :
    j.readLines load s lines = .ok { s with sections := s.sections ++ d.sections } := by
  obtain ⟨p, hread, htracks⟩ := foldlM_of_next load (.start s) h.indented h.meanings
    (Draft.foldlM_next_document d)
  have hsections : p.store.sections = s.sections ++ d.sections := by
    rw [htracks.lays.sections, Draft.imported, Option.toList_none, List.flatMap_nil,
      List.append_nil]
  rw [h.lines, ← List.flatMap_map, readLines_eq s h.indented_of_mem_map, hread,
    ok_bind, finish_of_tracks htracks, htracks.store, hsections]

/-- Regular paragraphs that are read to their end are a document. -/
theorem document_of_readLines {s' : Store} {qs : List Paragraph}
    (hindented : ∀ q ∈ qs, q.Indented) (hregular : ∀ q ∈ qs, j.Regular s q)
    (h : j.readLines load s (qs.flatMap Paragraph.lines) = .ok s') :
    ∃ d : Document, j.Tells s (qs.flatMap Paragraph.lines) d.passages := by
  rw [readLines_eq s hindented] at h
  obtain ⟨p, hread, hfinish⟩ := bind_eq_ok_iff.1 h
  obtain ⟨⟨d, o⟩, htells, htracks⟩ :=
    tells_of_foldlM (.start j s) (.start s) hindented hregular hread
  rw [finish_of_tracks htracks] at hfinish
  cases o with
  | none => exact ⟨d, htells.document⟩
  | some o => cases hfinish

/-- Where regular paragraphs cannot be read any further. -/
theorem place_of_readLines_error {a : Abort} {qs : List Paragraph}
    (hindented : ∀ q ∈ qs, q.Indented) (hregular : ∀ q ∈ qs, j.Regular s q)
    (h : j.readLines load s (qs.flatMap Paragraph.lines) = .error a) :
    (∃ before line after, qs.flatMap Paragraph.lines = before ++ line :: after ∧
      j.Viable s before ∧ ¬ j.Viable s (before ++ [line]) ∧ a.error.place? = some line.place) ∨
    ∃ (d : Document) (o : Opened),
      j.Tells s (qs.flatMap Paragraph.lines) (d.passages ++ o.passages) ∧
        a.error.place? = some o.place := by
  rw [readLines_eq s hindented] at h
  -- Either a paragraph fails, or all of them are read and the file cannot be finished.
  obtain hread | ⟨p, hread, hfinish⟩ := bind_eq_error_iff.1 h
  · left
    obtain ⟨before, q, after, p, rfl, hbefore, hq⟩ := exists_of_foldlM_eq_error hread
    have hleft : ∀ q' ∈ before, q' ∈ before ++ q :: after := fun _ => List.mem_append_left _
    have hmem : q ∈ before ++ q :: after := List.mem_append_right _ List.mem_cons_self
    have hindented' : ∀ q ∈ before, q.Indented := fun q hq => hindented q (hleft q hq)
    obtain ⟨D, htells, htracks⟩ := tells_of_foldlM (.start j s) (.start s) hindented'
      (fun q hq => hregular q (hleft q hq)) hbefore
    obtain ⟨m, D', hmeaning, hnext⟩ | hfails :=
      says_or_fails load htracks (hindented q hmem) (hregular q hmem)
    · obtain ⟨p', hok, _⟩ := readParagraph_of_next load htracks (hindented q hmem) hmeaning hnext
      cases hq.symm.trans hok
    · obtain ⟨a', herror, hplace⟩ := hfails.error
      cases hq.symm.trans herror
      refine ⟨before.flatMap Paragraph.lines, q.head, after.flatMap Paragraph.lines, ?_,
        viable_of_tells htells, ?_, hplace⟩
      · rw [List.flatMap_append, List.flatMap_cons, Paragraph.lines, hfails.below]
        rfl
      · exact not_viable_of_fails hindented' (hindented q hmem) hbefore hfails
  · right
    obtain ⟨⟨d, o⟩, htells, htracks⟩ :=
      tells_of_foldlM (.start j s) (.start s) hindented hregular hread
    rw [finish_of_tracks htracks] at hfinish
    cases o with
    | none => cases hfinish
    | some o =>
        cases hfinish
        refine ⟨d, o, ?_, rfl⟩
        rwa [Draft.passages, Option.toList_some, List.flatMap_singleton] at htells

/-- Regular paragraphs are read if and only if they are a document, and then the sections of
the document are added.  If they are not, the error is that of the first line that no document
goes on with.  If there is no such line, a conditional is open at the end, and the error is
that of its first line. -/
theorem readLines_regular (j : Job π) (load : Loader) (s : Store) {qs : List Paragraph}
    (hindented : ∀ q ∈ qs, q.Indented) (hregular : ∀ q ∈ qs, j.Regular s q) :
    (∀ s', j.readLines load s (qs.flatMap Paragraph.lines) = .ok s' ↔
      ∃ d : Document, j.Tells s (qs.flatMap Paragraph.lines) d.passages ∧
        s' = { s with sections := s.sections ++ d.sections }) ∧
    ∀ a, j.readLines load s (qs.flatMap Paragraph.lines) = .error a →
      (∃ before line after, qs.flatMap Paragraph.lines = before ++ line :: after ∧
        j.Viable s before ∧ ¬ j.Viable s (before ++ [line]) ∧
          a.error.place? = some line.place) ∨
      ∃ (d : Document) (o : Opened),
        j.Tells s (qs.flatMap Paragraph.lines) (d.passages ++ o.passages) ∧
          a.error.place? = some o.place := by
  refine ⟨fun s' => ⟨fun h => ?_, ?_⟩, fun a => place_of_readLines_error hindented hregular⟩
  · obtain ⟨d, hd⟩ := document_of_readLines hindented hregular h
    rw [readLines_of_tells load hd] at h
    exact ⟨d, hd, (Except.ok.inj h).symm⟩
  · rintro ⟨d, hd, rfl⟩
    exact readLines_of_tells load hd

/-- A header, and a conditional with an inverted condition. -/
def sampleParts : List Paragraph :=
  [⟨⟨"@ one", ⟨"a", 1⟩, false⟩, []⟩,
    ⟨⟨"@@ if not", ⟨"a", 2⟩, false⟩, []⟩,
    ⟨⟨"box", ⟨"a", 3⟩, false⟩, [⟨"visible", ⟨"a", 4⟩, true⟩]⟩,
    ⟨⟨"@@ do", ⟨"a", 5⟩, false⟩, []⟩,
    ⟨⟨"link", ⟨"a", 6⟩, false⟩, [⟨"absent", ⟨"a", 7⟩, true⟩]⟩,
    ⟨⟨"@@ end", ⟨"a", 8⟩, false⟩, []⟩]

/-- The lines are a document with one inverted condition. -/
theorem readLines_regular_sample :
    (∀ q ∈ sampleParts, q.Indented) ∧
    (∀ q ∈ sampleParts, Regular ⟨Compiler.sample, none⟩ .start q) ∧
      ∃ d : Document, Tells ⟨Compiler.sample, none⟩ .start (sampleParts.flatMap Paragraph.lines)
        d.passages ∧
          d.sections.map (fun own => (own.name, own.conditionals.map fun c =>
            c.conditions.map (·.inverted))) = [("one", [[true]])] := by
  have hindented : ∀ q ∈ sampleParts, q.Indented := by
    unfold Paragraph.Indented
    decide
  have hregular : ∀ q ∈ sampleParts, Regular ⟨Compiler.sample, none⟩ .start q := by
    have hheader : LineKind.of false "@ one".toList = .header " one".toList := by decide
    simp only [sampleParts, List.forall_mem_cons]
    exact ⟨.header hheader rfl,
      regular_of_notMem " if not".toList (by decide) rfl (by decide) (by decide),
      regular_of_isSome (by decide) (by decide +kernel),
      regular_of_notMem " do".toList (by decide) rfl (by decide) (by decide),
      regular_of_isSome (by decide) (by decide +kernel),
      regular_of_notMem " end".toList (by decide) rfl (by decide) (by decide), nofun⟩
  obtain ⟨s, h, hrun⟩ : ∃ s, readLines ⟨Compiler.sample, none⟩ (loader ⟨Compiler.sample, none⟩)
      .start (sampleParts.flatMap Paragraph.lines) = .ok s ∧
        (s.sections.map fun own =>
          (own.name, own.conditionals.map fun c => c.conditions.map (·.inverted))) =
        [("one", [[true]])] :=
    exists_ok_of_toOption (by decide +kernel)
  obtain ⟨hok, _⟩ := readLines_regular _ (loader ⟨Compiler.sample, none⟩) .start hindented hregular
  obtain ⟨d, hd, rfl⟩ := (hok s).1 h
  exact ⟨hindented, hregular, d, hd, hrun⟩

/-- Without their last line the conditional is open at the end. -/
example : (match readLines ⟨Compiler.sample, none⟩ (loader ⟨Compiler.sample, none⟩) .start
      (sampleParts.dropLast.flatMap Paragraph.lines) with
    | .error a => a.error.place?
    | .ok _ => none) = some ⟨"a", 2⟩ := by
  decide +kernel

end Job

end PageLayout
