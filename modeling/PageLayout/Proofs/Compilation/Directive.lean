import PageLayout.Proofs.Compilation.Paragraph

/-!
# What a line does

`Directs` lists what the directives do when they are carried out, and `directed_ok`
says that they do nothing else.  Only an import depends on how another file is read,
and only an import and a script can change the trail.

`Opens` lists what the lines do that are not indented, by their kinds, and `opened_ok`
says that they do nothing else.
-/

namespace PageLayout

namespace Job

variable {π : Type} {j : Job π} {load : Loader}

/-! ## Headers and conditionals -/

/-- The header of a section stands outside conditionals. -/
theorem headed_ok {p p' : Progress} {place : Place} {text : String}
    (h : headed p place text = .ok p') :
    p.cursor.conditional = none ∧
      ∃ name tags, readHeader text = (name, tags) ∧
        p' = p.enterSection (.opened name tags place) := by
  unfold headed at h
  generalize readHeader text = header at h ⊢
  split at h
  next => cases h
  next hc =>
    cases h
    exact ⟨Option.not_isSome_iff_eq_none.1 hc, header.1, header.2, rfl, rfl⟩

theorem expect_ok {c? : Option OpenConditional} {word : String} {allowed : List Branch}
    {c : OpenConditional} (h : OpenConditional.expect c? word allowed = .ok c) :
    c? = some c ∧ c.branch ∈ allowed := by
  unfold OpenConditional.expect at h
  split at h
  next c₁ =>
    split at h
    next hb =>
      cases h
      exact ⟨rfl, List.contains_iff_mem.1 hb⟩
    next => cases h
  next => cases h

/-! ## Directives -/

/-- What a directive does when it is carried out without an error. -/
inductive Directs (j : Job π) (load : Loader) (p : Progress) (place : Place) :
    Directive → Progress → Prop
  | importFile {path : String} {s : Store} :
      load path place p.store = .ok s → Directs j load p place (.importFile path) ⟨s, p.cursor⟩
  | loadScript {path : String} {s : Store} :
      j.loadScript p.store path place = .ok s →
        Directs j load p place (.loadScript path) ⟨s, p.cursor⟩
  | setBlock :
      Directs j load p place .setBlock
        { p with cursor := { p.cursor with pending := .assignments } }
  | set {definition : String} {s : Store} :
      assign p.store place definition = .ok s →
        Directs j load p place (.set definition) ⟨s, p.cursor⟩
  | ifHolds {argument : String} {inverted : Bool} :
      p.cursor.conditional = none →
        Directive.readInversion Directive.ifWord argument = .ok inverted →
          Directs j load p place (.ifHolds argument)
            ⟨p.store, { p.cursor with conditional := some (.start inverted place) }⟩
  | orHolds {argument : String} {inverted : Bool} {c : OpenConditional} :
      p.cursor.conditional = some c → c.branch = .conditions →
        Directive.readInversion Directive.orWord argument = .ok inverted →
          Directs j load p place (.orHolds argument)
            ⟨p.store, { p.cursor with conditional := some (c.withCondition inverted) }⟩
  | doRules {c : OpenConditional} :
      p.cursor.conditional = some c → c.branch = .conditions →
        Directs j load p place .doRules
          ⟨p.store, { p.cursor with conditional := some { c with branch := .body } }⟩
  | otherwise {c : OpenConditional} :
      p.cursor.conditional = some c → c.branch = .body →
        Directs j load p place .otherwise
          ⟨p.store, { p.cursor with conditional := some { c with branch := .otherwise } }⟩
  | close {c : OpenConditional} :
      p.cursor.conditional = some c → c.branch = .body ∨ c.branch = .otherwise →
        Directs j load p place .close (p.close c)

/-- A directive that is carried out without an error does what directives do. -/
theorem directed_ok {p p' : Progress} {place : Place} {text : String}
    (h : j.directed load p place text = .ok p') :
    ∃ d, Directive.ofText text = .ok d ∧ j.Directs load p place d p' := by
  obtain ⟨d, hd, h⟩ := bind_eq_ok_iff.1 h
  rw [attempt_eq_ok_iff, mapError_eq_ok_iff] at hd
  refine ⟨d, hd, ?_⟩
  cases d with
  | importFile path =>
      obtain ⟨s, hs, h⟩ := bind_eq_ok_iff.1 h
      cases h
      exact .importFile hs
  | loadScript path =>
      obtain ⟨s, hs, h⟩ := bind_eq_ok_iff.1 h
      cases h
      exact .loadScript (attempt_eq_ok_iff.1 hs)
  | setBlock =>
      cases h
      exact .setBlock
  | set definition =>
      obtain ⟨s, hs, h⟩ := bind_eq_ok_iff.1 h
      cases h
      exact .set (attempt_eq_ok_iff.1 hs)
  | ifHolds argument =>
      rw [attempt_eq_ok_iff, mapError_eq_ok_iff] at h
      simp only [controlled] at h
      split at h
      next => cases h
      next hc =>
        obtain ⟨inverted, hi, h⟩ := bind_eq_ok_iff.1 h
        cases h
        exact .ifHolds (Option.not_isSome_iff_eq_none.1 hc) hi
  | orHolds argument =>
      rw [attempt_eq_ok_iff, mapError_eq_ok_iff] at h
      simp only [controlled] at h
      obtain ⟨inverted, hi, h⟩ := bind_eq_ok_iff.1 h
      obtain ⟨c, hc, h⟩ := bind_eq_ok_iff.1 h
      cases h
      obtain ⟨hc, hb⟩ := expect_ok hc
      exact .orHolds hc (List.mem_singleton.1 hb) hi
  | doRules =>
      rw [attempt_eq_ok_iff, mapError_eq_ok_iff] at h
      simp only [controlled] at h
      obtain ⟨c, hc, h⟩ := bind_eq_ok_iff.1 h
      cases h
      obtain ⟨hc, hb⟩ := expect_ok hc
      exact .doRules hc (List.mem_singleton.1 hb)
  | otherwise =>
      rw [attempt_eq_ok_iff, mapError_eq_ok_iff] at h
      simp only [controlled] at h
      obtain ⟨c, hc, h⟩ := bind_eq_ok_iff.1 h
      cases h
      obtain ⟨hc, hb⟩ := expect_ok hc
      exact .otherwise hc (List.mem_singleton.1 hb)
  | close =>
      rw [attempt_eq_ok_iff, mapError_eq_ok_iff] at h
      simp only [controlled] at h
      obtain ⟨c, hc, h⟩ := bind_eq_ok_iff.1 h
      cases h
      obtain ⟨hc, hb⟩ := expect_ok hc
      have hb : c.branch = .body ∨ c.branch = .otherwise := by simpa using hb
      exact .close hc hb

/-- Other directives than imports and scripts leave the trail alone. -/
theorem Directs.trail {p p' : Progress} {place : Place} {d : Directive}
    (h : j.Directs load p place d p') (himport : ∀ path, d ≠ .importFile path)
    (hscript : ∀ path, d ≠ .loadScript path) : p'.store.trail = p.store.trail := by
  cases h with
  | @importFile path => exact absurd rfl (himport path)
  | @loadScript path => exact absurd rfl (hscript path)
  | set hs => exact (extends_of_assign hs).trail
  | @close c => exact (p.keeps_close c).trail
  | _ => rfl

theorem directed_importFile {p : Progress} {place : Place} {text path : String}
    (h : Directive.ofText text = .ok (.importFile path)) :
    j.directed load p place text =
      load path place p.store >>= fun s => .ok ⟨s, p.cursor⟩ := by
  unfold directed
  rw [h]
  rfl

theorem directed_loadScript {p : Progress} {place : Place} {text path : String}
    (h : Directive.ofText text = .ok (.loadScript path)) :
    j.directed load p place text =
      p.store.attempt (j.loadScript p.store path place) >>= fun s => .ok ⟨s, p.cursor⟩ := by
  unfold directed
  rw [h]
  rfl

/-- Other directives than imports do not depend on the loader. -/
theorem directed_eq_of_ne_import {p : Progress} {place : Place} {text : String}
    (h : ∀ path, Directive.ofText text ≠ .ok (.importFile path)) (load load' : Loader) :
    j.directed load p place text = j.directed load' p place text := by
  unfold directed
  cases hd : Directive.ofText text with
  | error fault => rfl
  | ok d =>
      cases d with
      | importFile path => exact absurd hd (h path)
      | _ => rfl

/-! ## Lines that are not indented -/

variable [Page π]

/-- What a line of some kind does when it is read without an error and no object block
is pending. -/
inductive Opens (j : Job π) (load : Loader) (p : Progress) (line : Line) :
    LineKind → Progress → Prop
  | definitionRuler :
      Opens j load p line .definitionRuler
        { p with cursor := { p.cursor with defining := !p.cursor.defining } }
  | definition {s : Store} :
      j.define p.store line = .ok s → Opens j load p line .definition ⟨s, p.cursor⟩
  | directive {rest : List Char} {text : String} {d : Directive} {p' : Progress} :
      j.substitute p.store none line.place (String.ofList rest) = .ok text →
        Directive.ofText (Text.trimmed text) = .ok d → j.Directs load p line.place d p' →
          Opens j load p line (.directive rest) p'
  | header {rest : List Char} {text name : String} {tags : List String} :
      j.substitute p.store none line.place (String.ofList rest) = .ok text →
        p.cursor.conditional = none → readHeader (Text.trimmed text) = (name, tags) →
          Opens j load p line (.header rest) (p.enterSection (.opened name tags line.place))
  | ruler : Opens j load p line .ruler p
  | indexList {text : String} {list : List Int} :
      j.substitute p.store none line.place (String.ofList line.text.toList) = .ok text →
        IndexList.read (String.ofList (dropBrackets text.toList)) = .ok list →
          Opens j load p line .indexList
            ⟨p.store, { p.cursor with indexes := some (list, line.place) }⟩
  | objectName :
      Opens j load p line .objectName
        { p with
          cursor := { p.cursor with
            pending := .object ⟨line, p.cursor.indexes.map (·.1), []⟩
            indexes := none } }

/-- A line that is read without an error does what lines of its kind do. -/
theorem opened_ok {p p' : Progress} {line : Line} (h : j.opened load p line = .ok p') :
    j.Opens load p line (LineKind.of p.cursor.defining line.text.toList) p' := by
  rw [opened_eq] at h
  cases hk : LineKind.of p.cursor.defining line.text.toList with
  | definitionRuler =>
      rw [hk] at h
      cases h
      exact .definitionRuler
  | definition =>
      rw [hk] at h
      obtain ⟨s, hs, h⟩ := bind_eq_ok_iff.1 h
      cases h
      exact .definition (attempt_eq_ok_iff.1 hs)
  | directive rest =>
      rw [hk] at h
      obtain ⟨text, ht, h⟩ := bind_eq_ok_iff.1 h
      obtain ⟨d, hd, hdirects⟩ := directed_ok h
      exact .directive (attempt_eq_ok_iff.1 ht) hd hdirects
  | header rest =>
      rw [hk] at h
      obtain ⟨text, ht, h⟩ := bind_eq_ok_iff.1 h
      rw [attempt_eq_ok_iff, mapError_eq_ok_iff] at h
      obtain ⟨hc, name, tags, hheader, rfl⟩ := headed_ok h
      exact .header (attempt_eq_ok_iff.1 ht) hc hheader
  | ruler =>
      rw [hk] at h
      cases h
      exact .ruler
  | indexList =>
      rw [hk] at h
      obtain ⟨text, ht, h⟩ := bind_eq_ok_iff.1 h
      rw [attempt_eq_ok_iff, mapError_eq_ok_iff] at h
      obtain ⟨list, hl, h⟩ := bind_eq_ok_iff.1 h
      cases h
      exact .indexList (attempt_eq_ok_iff.1 ht) hl
  | objectName =>
      rw [hk] at h
      cases h
      exact .objectName

end Job

end PageLayout
