import PageLayout.Proofs.Compilation.Directive
import PageLayout.Proofs.Compilation.Spelling

/-!
# What a paragraph does

A paragraph that is read without an error does one of a few things to the progress,
`Advances`, and says so by its first line.  A directive does one of its own, `Enacts`.
-/

namespace PageLayout

namespace Job

variable {π : Type} [Page π] {j : Job π} {load : Loader}

/-! ## Directives -/

/-- What a loader has to do: what it reads are documents. -/
def Loads (j : Job π) (load : Loader) : Prop :=
  ∀ requested place s s', load requested place s = .ok s' →
    ∃ c, j.Imports s requested c s' ∧ ∀ r, c = .file r → j.Reads r

/-- What a directive says and does when it is carried out without an error. -/
inductive Enacts (j : Job π) (p : Progress) (place : Place) :
    Directive → Meaning → Progress → Prop
  | importFile {path : String} {c : Content} {s : Store} :
      j.Imports p.store path c s → (∀ r, c = .file r → j.Reads r) →
        Enacts j p place (.importFile path) (.content c) ⟨s, p.cursor⟩
  | loadScript {path : String} {s : Store} :
      s.sections = p.store.sections →
        Enacts j p place (.loadScript path) (.content .nothing) ⟨s, p.cursor⟩
  | setBlock {s : Store} :
      s.sections = p.store.sections →
        Enacts j p place .setBlock (.content .nothing) ⟨s, p.cursor⟩
  | set {definition : String} {s : Store} :
      s.sections = p.store.sections →
        Enacts j p place (.set definition) (.content .nothing) ⟨s, p.cursor⟩
  | ifHolds {argument : String} {inverted : Bool} :
      p.cursor.conditional = none →
        Directive.readInversion Directive.ifWord argument = .ok inverted →
          Enacts j p place (.ifHolds argument) (.ifHolds inverted)
            ⟨p.store, { p.cursor with conditional := some (.start inverted place) }⟩
  | orHolds {argument : String} {inverted : Bool} {c : OpenConditional} :
      p.cursor.conditional = some c → c.branch = .conditions →
        Directive.readInversion Directive.orWord argument = .ok inverted →
          Enacts j p place (.orHolds argument) (.orHolds inverted)
            ⟨p.store, { p.cursor with conditional := some (c.withCondition inverted) }⟩
  | doRules {c : OpenConditional} :
      p.cursor.conditional = some c → c.branch = .conditions →
        Enacts j p place .doRules .doRules
          ⟨p.store, { p.cursor with conditional := some { c with branch := .body } }⟩
  | otherwise {c : OpenConditional} :
      p.cursor.conditional = some c → c.branch = .body →
        Enacts j p place .otherwise .otherwise
          ⟨p.store, { p.cursor with conditional := some { c with branch := .otherwise } }⟩
  | close {c : OpenConditional} :
      p.cursor.conditional = some c → c.branch = .body ∨ c.branch = .otherwise →
        Enacts j p place .close .close (p.close c)

/-- A directive either starts a block of variables or is carried out at once. -/
theorem enacts_of_directs {p p' : Progress} {place : Place} {d : Directive}
    (hload : j.Loads load) (h : j.Directs load p place d p') :
    (d = .setBlock ∧ p' = { p with cursor := { p.cursor with pending := .assignments } }) ∨
      (∃ m, j.Enacts p place d m p') ∧ p'.cursor.pending = p.cursor.pending ∧
        p'.cursor.defining = p.cursor.defining := by
  cases h with
  | @importFile path s hs =>
      obtain ⟨c, hc, hr⟩ := hload path place p.store s hs
      exact .inr ⟨⟨_, .importFile hc hr⟩, rfl, rfl⟩
  | loadScript hs => exact .inr ⟨⟨_, .loadScript (sections_loadScript hs)⟩, rfl, rfl⟩
  | setBlock => exact .inl ⟨rfl, rfl⟩
  | set hs => exact .inr ⟨⟨_, .set (extends_of_assign hs).sections⟩, rfl, rfl⟩
  | ifHolds hc hi => exact .inr ⟨⟨_, .ifHolds hc hi⟩, rfl, rfl⟩
  | orHolds hc hb hi => exact .inr ⟨⟨_, .orHolds hc hb hi⟩, rfl, rfl⟩
  | doRules hc hb => exact .inr ⟨⟨_, .doRules hc hb⟩, rfl, rfl⟩
  | otherwise hc hb => exact .inr ⟨⟨_, .otherwise hc hb⟩, rfl, rfl⟩
  | @close c hc hb =>
      have hkeeps := p.keeps_close c
      exact .inr ⟨⟨_, .close hc hb⟩, hkeeps.pending, hkeeps.defining⟩

/-! ## Paragraphs -/

/-- What a paragraph says and does when it is read without an error and nothing was
pending. -/
inductive Advances (j : Job π) (p : Progress) (q : Paragraph) : Meaning → Progress → Prop
  | definitionRuler {s : Store} :
      LineKind.of p.cursor.defining q.head.text.toList = .definitionRuler →
        s.sections = p.store.sections →
          Advances j p q (.content .definitionRuler)
            ⟨s, { p.cursor with defining := !p.cursor.defining }⟩
  | definition {s : Store} :
      LineKind.of p.cursor.defining q.head.text.toList = .definition →
        s.sections = p.store.sections → Advances j p q (.content .nothing) ⟨s, p.cursor⟩
  | ruler :
      LineKind.of p.cursor.defining q.head.text.toList = .ruler →
        Advances j p q (.content .nothing) p
  | indexes {text : String} {list : List Int} :
      LineKind.of p.cursor.defining q.head.text.toList = .indexList →
        j.substitute p.store none q.head.place (String.ofList q.head.text.toList) = .ok text →
          IndexList.read (String.ofList (dropBrackets text.toList)) = .ok list →
            Advances j p q (.content (.indexes list))
              ⟨p.store, { p.cursor with indexes := some (list, q.head.place) }⟩
  | heading {rest : List Char} {text : String} {h : Heading} :
      LineKind.of p.cursor.defining q.head.text.toList = .header rest →
        j.substitute p.store none q.head.place (String.ofList rest) = .ok text →
          readHeader (Text.trimmed text) = (h.name, h.tags) →
            p.cursor.conditional = none →
              Advances j p q (.heading h) (p.enterSection (.opened h.name h.tags q.head.place))
  | directive {rest : List Char} {text : String} {d : Directive} {m : Meaning} {p' : Progress} :
      LineKind.of p.cursor.defining q.head.text.toList = .directive rest →
        j.substitute p.store none q.head.place (String.ofList rest) = .ok text →
          Directive.ofText (Text.trimmed text) = .ok d →
            j.Enacts p q.head.place d m p' → Advances j p q m p'
  | block {objects : List ObjectRules} :
      LineKind.of p.cursor.defining q.head.text.toList = .objectName →
        List.Forall₂ (j.Repeats p.store q) (repetitions (p.cursor.indexes.map (·.1))) objects →
          Advances j p q (.content (.block objects))
            (Progress.attach ⟨p.store, { p.cursor with indexes := none }⟩ objects q.head.place)

/-- The lines below the name of an object become its lines. -/
theorem foldlM_feed_object {p : Progress} {block : ObjectBlock} {below : List Line}
    (h : p.cursor.pending = .object block) (hbelow : ∀ line ∈ below, line.indented = true) :
    below.foldlM (j.feed load) p =
      .ok { p with cursor := { p.cursor with
        pending := .object { block with lines := block.lines ++ below } } } := by
  induction below generalizing p block with
  | nil =>
      rw [List.append_nil, ← h]
      rfl
  | cons line below ih =>
      rw [List.foldlM_cons, feed_indented p (hbelow line List.mem_cons_self),
        continued_object line h, attempt_ok, ok_bind,
        ih rfl fun l hl => hbelow l (List.mem_cons_of_mem _ hl)]
      simp [ObjectBlock.withLine]

/-- The lines below anything else add variables and definitions.  There are none if
they could not do so. -/
theorem foldlM_feed_other {p p' : Progress} {below : List Line}
    (h : below.foldlM (j.feed load) p = .ok p')
    (hpending : ∀ block, p.cursor.pending ≠ .object block)
    (hbelow : ∀ line ∈ below, line.indented = true) :
    p.store.Extends p'.store ∧ p'.cursor = p.cursor ∧
      (p.cursor.pending = .nothing → p.cursor.defining = false → p' = p) := by
  induction below generalizing p with
  | nil =>
      cases h
      exact ⟨.refl _, rfl, fun _ _ => rfl⟩
  | cons line below ih =>
      rw [List.foldlM_cons, feed_indented p (hbelow line List.mem_cons_self)] at h
      obtain ⟨p₁, h₁, h₂⟩ := bind_eq_ok_iff.1 h
      obtain ⟨hs, hc, hd⟩ := continued_ok (attempt_eq_ok_iff.1 h₁) hpending
      obtain ⟨hs', hc', _⟩ := ih h₂ (by rwa [hc]) fun l hl => hbelow l (List.mem_cons_of_mem _ hl)
      refine ⟨hs.trans hs', hc'.trans hc, fun hn hf => ?_⟩
      rw [hd hn] at hf
      cases hf

/-- An object block is read with the indexes that no block has followed yet, and what
it gives is put where it belongs. -/
theorem readParagraph_object {p : Progress} {q : Paragraph} (hpending : p.cursor.pending = .nothing)
    (hq : q.Indented)
    (hk : LineKind.of p.cursor.defining q.head.text.toList = .objectName) :
    j.readParagraph load p q =
      p.store.attempt (j.objectsOf p.store ⟨q.head, p.cursor.indexes.map (·.1), q.below⟩ >>=
        fun objects => .ok
          (Progress.attach ⟨p.store, { p.cursor with indexes := none }⟩ objects q.head.place)) := by
  obtain ⟨s, current, pending, indexes, conditional, defining⟩ := p
  cases hpending
  let p₁ : Progress :=
    ⟨s, ⟨current, .object ⟨q.head, indexes.map (·.1), []⟩, none, conditional, defining⟩⟩
  have hhead : j.feed load ⟨s, current, .nothing, indexes, conditional, defining⟩ q.head =
      .ok p₁ := by
    rw [feed_not_indented _ hq.1, settle_nothing rfl, attempt_ok, ok_bind, opened_eq]
    dsimp only at hk ⊢
    rw [hk]
  have hblock : p₁.cursor.pending = .object ⟨q.head, indexes.map (·.1), []⟩ := rfl
  have hbelow : q.below.foldlM (j.feed load) p₁ =
      .ok ⟨s, ⟨current, .object ⟨q.head, indexes.map (·.1), q.below⟩, none, conditional,
        defining⟩⟩ :=
    foldlM_feed_object hblock hq.2
  rw [readParagraph, Paragraph.lines, List.foldlM_cons, hhead, ok_bind, hbelow, ok_bind,
    settle_object rfl]
  rfl

/-- Below a line that leaves nothing pending stand definitions or no lines at all. -/
theorem foldlM_feed_quiet {p p₁ p' : Progress} {below : List Line}
    (h : below.foldlM (j.feed load) p = .ok p₁) (hsettle : j.settle p₁ = .ok p')
    (hpending : p.cursor.pending = .nothing) (hbelow : ∀ line ∈ below, line.indented = true) :
    p.store.Extends p'.store ∧ p'.cursor = p.cursor ∧ (p.cursor.defining = false → p' = p) := by
  obtain ⟨hs, hc, hd⟩ := foldlM_feed_other h (by simp [hpending]) hbelow
  rw [settle_nothing (by rw [hc, hpending])] at hsettle
  cases hsettle
  exact ⟨hs, hc, hd hpending⟩

/-- Below a line that starts a block of variables nothing but variables are set. -/
theorem foldlM_feed_setBlock {p p₁ p' : Progress} {below : List Line}
    (h : below.foldlM (j.feed load)
      { p with cursor := { p.cursor with pending := .assignments } } = .ok p₁)
    (hsettle : j.settle p₁ = .ok p') (hpending : p.cursor.pending = .nothing)
    (hbelow : ∀ line ∈ below, line.indented = true) :
    p.store.Extends p'.store ∧ p'.cursor = p.cursor := by
  obtain ⟨hs, hc, _⟩ := foldlM_feed_other h (by simp) hbelow
  rw [settle_other (by simp [hc])] at hsettle
  cases hsettle
  refine ⟨hs, ?_⟩
  rw [Progress.withoutPending, hc]
  show p.withoutPending.cursor = p.cursor
  rw [Progress.withoutPending_of_pending hpending]

/-- A paragraph that is read without an error does one of the things that
paragraphs do. -/
theorem advances_of_readParagraph {p p' : Progress} {q : Paragraph}
    (hload : j.Loads load) (h : j.readParagraph load p q = .ok p')
    (hpending : p.cursor.pending = .nothing) (hq : q.Indented) : ∃ m, j.Advances p q m p' := by
  obtain ⟨p₂, hfold, hsettle⟩ := bind_eq_ok_iff.1 h
  rw [Paragraph.lines, List.foldlM_cons] at hfold
  obtain ⟨p₁, hhead, hbelow⟩ := bind_eq_ok_iff.1 hfold
  rw [feed_not_indented p hq.1, settle_nothing hpending, attempt_ok, ok_bind] at hhead
  rw [attempt_eq_ok_iff] at hsettle
  have hquiet := fun hn => foldlM_feed_quiet hbelow hsettle hn hq.2
  have hopens := opened_ok hhead
  generalize hk : LineKind.of p.cursor.defining q.head.text.toList = kind at hopens
  have hd := LineKind.defining_eq_false hk
  cases hopens with
  | definitionRuler =>
      obtain ⟨hs, hc, _⟩ := hquiet hpending
      obtain ⟨s, cursor⟩ := p'
      cases hc
      exact ⟨_, .definitionRuler hk hs.sections⟩
  | definition hdefine =>
      obtain ⟨hs, hc, _⟩ := hquiet hpending
      obtain ⟨s, cursor⟩ := p'
      cases hc
      exact ⟨_, .definition hk ((extends_of_define hdefine).trans hs).sections⟩
  | ruler =>
      rw [(hquiet hpending).2.2 (hd (by simp) (by simp))]
      exact ⟨_, .ruler hk⟩
  | indexList ht hl =>
      rw [(hquiet hpending).2.2 (hd (by simp) (by simp))]
      exact ⟨_, .indexes hk ht hl⟩
  | @header _ _ name tags ht hc hheader =>
      rw [(hquiet hpending).2.2 (hd (by simp) (by simp))]
      exact ⟨.heading ⟨name, tags⟩, .heading hk ht hheader hc⟩
  | directive ht htext hdirects =>
      obtain ⟨rfl, rfl⟩ | ⟨⟨m, hm⟩, hp, hdef⟩ := enacts_of_directs hload hdirects
      · obtain ⟨hs, hc⟩ := foldlM_feed_setBlock hbelow hsettle hpending hq.2
        obtain ⟨s, cursor⟩ := p'
        cases hc
        exact ⟨_, .directive hk ht htext (.setBlock hs.sections)⟩
      · rw [(hquiet (hp.trans hpending)).2.2 (hdef.trans (hd (by simp) (by simp)))]
        exact ⟨m, .directive hk ht htext hm⟩
  | objectName =>
      rw [readParagraph_object hpending hq hk, attempt_eq_ok_iff] at h
      obtain ⟨objects, ho, h⟩ := bind_eq_ok_iff.1 h
      cases h
      exact ⟨_, .block hk (repeats_of_objectsOf ho)⟩

/-! ## What a paragraph leaves alone -/

/-- A directive leaves alone what pends, the indexes and definitions. -/
theorem keeps_of_enacts {p p' : Progress} {place : Place} {d : Directive} {m : Meaning}
    (h : j.Enacts p place d m p') :
    p'.cursor.pending = p.cursor.pending ∧ p'.cursor.defining = m.defining p.cursor.defining ∧
      p'.cursor.indexes.map (·.1) = m.indexes (p.cursor.indexes.map (·.1)) := by
  cases h with
  | importFile hi _ => cases hi <;> exact ⟨rfl, rfl, rfl⟩
  | @close c =>
      have hkeeps := p.keeps_close c
      exact ⟨hkeeps.pending, hkeeps.defining, congrArg (Option.map Prod.fst) hkeeps.indexes⟩
  | _ => exact ⟨rfl, rfl, rfl⟩

/-- What pends, the indexes and definitions after a paragraph follow from its
meaning. -/
theorem keeps_of_advances {p p' : Progress} {q : Paragraph} {m : Meaning}
    (h : j.Advances p q m p') :
    p'.cursor.pending = p.cursor.pending ∧ p'.cursor.defining = m.defining p.cursor.defining ∧
      p'.cursor.indexes.map (·.1) = m.indexes (p.cursor.indexes.map (·.1)) := by
  cases h with
  | directive _ _ _ hd => exact keeps_of_enacts hd
  | @block objects =>
      have hkeeps := Progress.keeps_attach ⟨p.store, { p.cursor with indexes := none }⟩ objects
        q.head.place
      exact ⟨hkeeps.pending, hkeeps.defining, congrArg (Option.map Prod.fst) hkeeps.indexes⟩
  | _ => exact ⟨rfl, rfl, rfl⟩

/-- What a directive does is what it says. -/
theorem orders_of_enacts {p p' : Progress} {place : Place} {d : Directive} {m : Meaning}
    (h : j.Enacts p place d m p') :
    j.Orders p.store p'.store d m ∧ ∀ r, m = .content (.file r) → j.Reads r := by
  cases h with
  | importFile hi hr => exact ⟨.importFile hi, fun r h => hr r (by cases h; rfl)⟩
  | ifHolds _ hi => exact ⟨.ifHolds hi, nofun⟩
  | orHolds _ _ hi => exact ⟨.orHolds hi, nofun⟩
  | _ => exact ⟨by constructor, nofun⟩

/-- What a paragraph does is what it says. -/
theorem means_of_advances {p p' : Progress} {q : Paragraph} {m : Meaning}
    (h : j.Advances p q m p') :
    j.Means p.store p'.store p.cursor.defining (p.cursor.indexes.map (·.1)) q m ∧
      ∀ r, m = .content (.file r) → j.Reads r := by
  cases h with
  | definitionRuler hk => exact ⟨.definitionRuler hk, nofun⟩
  | definition hk => exact ⟨.definition hk, nofun⟩
  | ruler hk => exact ⟨.ruler hk, nofun⟩
  | indexes hk ht hl => exact ⟨.indexes hk ht hl, nofun⟩
  | heading hk ht hh => exact ⟨.heading hk ht hh, nofun⟩
  | directive hk ht htext hd =>
      obtain ⟨ho, hr⟩ := orders_of_enacts hd
      exact ⟨.directive hk ht htext ho, hr⟩
  | block hk ho => exact ⟨.block hk ho, nofun⟩

end Job

end PageLayout
