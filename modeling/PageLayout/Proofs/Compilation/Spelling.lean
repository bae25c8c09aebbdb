import Mathlib.Data.List.Forall2
import PageLayout.Proofs.Compilation.Document

/-!
# How documents are spelled

`Means` says what a paragraph says, from its lines, from whether it stands between two
rulers of definitions, and from the list of indexes in front of it.
`Spells` says that passages are what the paragraphs of a file say, one after another,
and `Reads` that a file is a document.  The files that it imports are documents, too.
-/

namespace PageLayout

/-! ## Between passages -/

/-- Whether definitions are read after a paragraph with some meaning. -/
def Meaning.defining (before : Bool) : Meaning → Bool
  | .content .definitionRuler => !before
  | _ => before

/-- The list of indexes that no object block has followed after a paragraph with some meaning. -/
def Meaning.indexes (before : Option (List Int)) : Meaning → Option (List Int)
  | .content (.indexes list) => some list
  | .content (.block _) => none
  | _ => before

/-- Whether definitions are read after some passages of a file. -/
def definingAfter (xs : List (Passage Meaning)) : Bool :=
  xs.foldl (fun before x => x.meaning.defining before) false

/-- The list of indexes that no object block has followed after some passages of a
file. -/
def indexesAfter (xs : List (Passage Meaning)) : Option (List Int) :=
  xs.foldl (fun before x => x.meaning.indexes before) none

theorem definingAfter_append (xs : List (Passage Meaning)) (x : Passage Meaning) :
    definingAfter (xs ++ [x]) = x.meaning.defining (definingAfter xs) := by
  rw [definingAfter, List.foldl_append]
  rfl

theorem indexesAfter_append (xs : List (Passage Meaning)) (x : Passage Meaning) :
    indexesAfter (xs ++ [x]) = x.meaning.indexes (indexesAfter xs) := by
  rw [indexesAfter, List.foldl_append]
  rfl

/-! ## Object blocks -/

/-- Steps that all succeed give their results in order. -/
theorem forall₂_of_mapM {ε α β : Type} {f : α → Except ε β} {as : List α} {bs : List β}
    (h : as.mapM f = .ok bs) : List.Forall₂ (fun a b => f a = .ok b) as bs := by
  induction as generalizing bs with
  | nil =>
      cases h
      exact .nil
  | cons a as ih =>
      rw [List.mapM_cons] at h
      obtain ⟨b, hb, h⟩ := bind_eq_ok_iff.1 h
      obtain ⟨bs', hbs, h⟩ := bind_eq_ok_iff.1 h
      cases h
      exact .cons hb (ih hbs)

/-- What an object block is repeated for: once without an index, or once for each of
a list. -/
def repetitions : Option (List Int) → List (Option Int)
  | none => [none]
  | some list => list.map some

namespace Job

variable {π : Type}

/-- What an object block gives for an index: the name on its first line, and one rule
for every line below. -/
inductive Repeats (j : Job π) (s : Store) (q : Paragraph) (index : Option Int) :
    ObjectRules → Prop
  | intro {name : String} {rules : List Rule} :
      j.substitute s index q.head.place q.head.text = .ok name →
        List.Forall₂ (fun line rule => j.ruleOf s index line = .ok rule ∧ rule.place = line.place)
          q.below rules →
          Repeats j s q index ⟨Text.trimmed name, rules⟩

/-- The rule on a line stands where the line stands. -/
theorem place_of_ruleOf {j : Job π} {s : Store} {index : Option Int} {line : Line} {rule : Rule}
    (h : j.ruleOf s index line = .ok rule) : rule.place = line.place := by
  obtain ⟨text, _, h⟩ := bind_eq_ok_iff.1 h
  obtain ⟨requirement, _, h⟩ := bind_eq_ok_iff.1 h
  cases h
  rfl

/-- What an object block gives for one of the indexes that it is repeated for. -/
theorem repeats_of_repetitionOf {j : Job π} {s : Store} {q : Paragraph}
    {indexes : Option (List Int)} {index : Option Int} {o : ObjectRules}
    (h : j.repetitionOf s ⟨q.head, indexes, q.below⟩ index = .ok o) :
    j.Repeats s q index o := by
  obtain ⟨name, hname, h⟩ := bind_eq_ok_iff.1 h
  obtain ⟨rules, hrules, h⟩ := bind_eq_ok_iff.1 h
  cases h
  refine .intro hname ((forall₂_of_mapM hrules).imp fun line rule h => ?_)
  exact ⟨h, place_of_ruleOf h⟩

/-- An object block gives as much as it has repetitions. -/
theorem repeats_of_objectsOf {j : Job π} {s : Store} {q : Paragraph} {indexes : Option (List Int)}
    {objects : List ObjectRules}
    (h : j.objectsOf s ⟨q.head, indexes, q.below⟩ = .ok objects) :
    List.Forall₂ (j.Repeats s q) (repetitions indexes) objects := by
  cases indexes with
  | none =>
      obtain ⟨o, ho, h⟩ := bind_eq_ok_iff.1 h
      cases h
      exact .cons (repeats_of_repetitionOf ho) .nil
  | some list =>
      have hall := forall₂_of_mapM h
      exact List.forall₂_map_left_iff.2 (hall.imp fun index o => repeats_of_repetitionOf)

end Job

/-! ## Paragraphs -/

namespace Job

variable {π : Type}

/-- What an import says, and the store after it.  A file that was read before says
nothing. -/
inductive Imports (j : Job π) (s : Store) (requested : String) : Content → Store → Prop
  | again {text : String} :
      j.source.read (s.trail.resolve requested) = .ok text →
        s.trail.hasLoaded (fileIdentity (s.trail.resolve requested) text) = true →
          Imports j s requested .nothing s
  | file {text : String} {r : Reading} :
      j.source.read (s.trail.resolve requested) = .ok text →
        s.trail.hasLoaded (fileIdentity (s.trail.resolve requested) text) = false →
          Line.scan text (s.trail.resolve requested) 0 = .ok r.lines →
            r.before = s.inside (s.trail.resolve requested) text →
              Imports j s requested (.file r) r.after.outside

/-- What a directive says, and the store after it. -/
inductive Orders (j : Job π) (s s' : Store) : Directive → Meaning → Prop
  | importFile {path : String} {c : Content} :
      j.Imports s path c s' → Orders j s s' (.importFile path) (.content c)
  | loadScript {path : String} : Orders j s s' (.loadScript path) (.content .nothing)
  | setBlock : Orders j s s' .setBlock (.content .nothing)
  | set {definition : String} : Orders j s s' (.set definition) (.content .nothing)
  | ifHolds {argument : String} {inverted : Bool} :
      Directive.readInversion Directive.ifWord argument = .ok inverted →
        Orders j s s' (.ifHolds argument) (.ifHolds inverted)
  | orHolds {argument : String} {inverted : Bool} :
      Directive.readInversion Directive.orWord argument = .ok inverted →
        Orders j s s' (.orHolds argument) (.orHolds inverted)
  | doRules : Orders j s s' .doRules .doRules
  | otherwise : Orders j s s' .otherwise .otherwise
  | close : Orders j s s' .close .close

/-- What a paragraph says, and the store after it. -/
inductive Means (j : Job π) (s s' : Store) (defining : Bool) (indexes : Option (List Int))
    (q : Paragraph) : Meaning → Prop
  | definitionRuler :
      LineKind.of defining q.head.text.toList = .definitionRuler →
        Means j s s' defining indexes q (.content .definitionRuler)
  | definition :
      LineKind.of defining q.head.text.toList = .definition →
        Means j s s' defining indexes q (.content .nothing)
  | ruler :
      LineKind.of defining q.head.text.toList = .ruler →
        Means j s s' defining indexes q (.content .nothing)
  | indexes {text : String} {list : List Int} :
      LineKind.of defining q.head.text.toList = .indexList →
        j.substitute s none q.head.place (String.ofList q.head.text.toList) = .ok text →
          IndexList.read (String.ofList (dropBrackets text.toList)) = .ok list →
            Means j s s' defining indexes q (.content (.indexes list))
  | heading {rest : List Char} {text : String} {h : Heading} :
      LineKind.of defining q.head.text.toList = .header rest →
        j.substitute s none q.head.place (String.ofList rest) = .ok text →
          readHeader (Text.trimmed text) = (h.name, h.tags) →
            Means j s s' defining indexes q (.heading h)
  | directive {rest : List Char} {text : String} {d : Directive} {m : Meaning} :
      LineKind.of defining q.head.text.toList = .directive rest →
        j.substitute s none q.head.place (String.ofList rest) = .ok text →
          Directive.ofText (Text.trimmed text) = .ok d → j.Orders s s' d m →
            Means j s s' defining indexes q m
  | block {objects : List ObjectRules} :
      LineKind.of defining q.head.text.toList = .objectName →
        List.Forall₂ (j.Repeats s q) (repetitions indexes) objects →
          Means j s s' defining indexes q (.content (.block objects))

/-! ## Files -/

variable [Page π]

/-- Passages are what the paragraphs of a file say, which starts with a store, and
how far the file has been read after them. -/
inductive Spells (j : Job π) (s : Store) : List (Passage Meaning) → Progress → Prop
  | start : Spells j s [] ⟨s, .start⟩
  | next {xs : List (Passage Meaning)} {p p' : Progress} {q : Paragraph} {m : Meaning}
      {load : Loader} :
      Spells j s xs p → q.Indented → j.readParagraph load p q = .ok p' →
        j.Means p.store p'.store (definingAfter xs) (indexesAfter xs) q m →
          Spells j s (xs ++ [⟨p.store, q, m⟩]) p'

/-- A file is a document, which gives the sections that are added, and so are the
files that it imports. -/
inductive Reads (j : Job π) : Reading → Prop
  | intro {r : Reading} {d : Document} {p : Progress} :
      j.Spells r.before d.passages p →
        r.lines = d.passages.flatMap (·.paragraph.lines) →
          r.after = p.store →
            r.sections = d.sections →
              r.after.sections = r.before.sections ++ r.sections →
                (∀ x ∈ d.passages, ∀ r', x.meaning = .content (.file r') → Reads j r') →
                  Reads j r

theorem Reads.sections_after {j : Job π} {r : Reading} (h : j.Reads r) :
    r.after.sections = r.before.sections ++ r.sections := by
  cases h with
  | intro _ _ _ _ hafter _ => exact hafter

/-- An import gives no rules, only the sections of the file. -/
theorem sections_of_imports {j : Job π} {s s' : Store} {requested : String} {c : Content}
    (h : j.Imports s requested c s') (hr : ∀ r, c = .file r → j.Reads r) :
    c.objects = [] ∧ s'.sections = s.sections ++ c.imported := by
  cases h with
  | again => exact ⟨rfl, (List.append_nil _).symm⟩
  | @file _ r _ _ _ hbefore =>
      have hafter := (hr r rfl).sections_after
      rw [hbefore] at hafter
      exact ⟨rfl, hafter⟩

end Job

end PageLayout
