import PageLayout.Proofs.Compilation.Growth
import PageLayout.Proofs.Reading.Expression
import PageLayout.Proofs.Reading.Reference

/-!
# What headers, object blocks and parts of conditionals say

`Says` says what a paragraph of a file says that has headers, object blocks and the parts of
conditionals and nothing else.  Headers and parts are known by their words.  `Tells` says
that passages are what lines say, and `Viable` that there is a document that starts with
lines.  Every draft is viable, since what is missing of its open conditional can follow.
-/

namespace PageLayout

/-! ## The text of a line -/

namespace Template

theorem expandChars_of_notMem {properties : Table String} {cs : List Char} (h : '$' ∉ cs) :
    expandChars properties cs = cs := by
  refine expandChars_eq_self fun rest hrest ⟨written, after, value, heq, hrefers⟩ => h ?_
  obtain ⟨body, hbody, _⟩ := readReference?_of_refers hrefers
  rw [heq, hbody] at hrest
  exact hrest.subset List.mem_cons_self

theorem fillChars_of_notMem {evaluate : String → Except EvalError Value} {cs : List Char}
    (h : '$' ∉ cs) : fillChars evaluate cs = .ok cs := by
  have hopening : ¬['$', '\x7b'] <:+: cs := fun hinside => h (hinside.subset List.mem_cons_self)
  have hcs : fillChars evaluate (cs ++ []) = (fillChars evaluate []).map (cs ++ ·) :=
    fillChars_append hopening nofun
  rwa [List.append_nil, fillChars, Except.map, List.append_nil] at hcs

/-- A text without a dollar sign has neither properties nor expressions. -/
theorem fill_of_notMem {properties : Table String} {evaluate : String → Except EvalError Value}
    {text : String} (h : '$' ∉ text.toList) : fill evaluate (expand properties text) = .ok text := by
  rw [expand, fill, expandChars_of_notMem h, String.toList_ofList, fillChars_of_notMem h]
  exact congrArg Except.ok String.ofList_toList

end Template

/-- Without an index only properties and expressions are replaced. -/
theorem Job.substitute_none {π : Type} (j : Job π) (s : Store) (place : Place) (text : String) :
    j.substitute s none place text =
      (Template.fill (j.evaluator.evaluate (j.scope s none))
        (Template.expand j.properties text)).mapError (.evaluation · place) := rfl

theorem Job.place_of_substitute {π : Type} {j : Job π} {s : Store} {place : Place} {text : String}
    {error : LayoutError} (h : j.substitute s none place text = .error error) :
    error.place? = some place := by
  rw [substitute_none] at h
  cases hfill : Template.fill (j.evaluator.evaluate (j.scope s none))
      (Template.expand j.properties text) with
  | error cause =>
      rw [hfill] at h
      cases h
      rfl
  | ok filled =>
      rw [hfill] at h
      cases h

/-- A text without a dollar sign stands for itself. -/
theorem Job.substitute_of_notMem {π : Type} (j : Job π) (s : Store) (place : Place) {text : String}
    (h : '$' ∉ text.toList) : j.substitute s none place text = .ok text := by
  rw [substitute_none, Template.fill_of_notMem h]
  rfl

/-! ## What is said -/

/-- What a part of a conditional says, by its word and the text after it.  Only the words of
the conditions are followed by anything that counts. -/
inductive Meaning.Worded : String → String → Meaning → Prop
  | ifHolds : Worded "if" "" (.ifHolds false)
  | ifNot : Worded "if" "not" (.ifHolds true)
  | orHolds : Worded "or" "" (.orHolds false)
  | orNot : Worded "or" "not" (.orHolds true)
  | doRules {argument : String} : Worded "do" argument .doRules
  | otherwise {argument : String} : Worded "otherwise" argument .otherwise
  | close {argument : String} : Worded "end" argument .close

/-- The words of the parts of a conditional. -/
def Meaning.words : List String := ["if", "or", "do", "otherwise", "end"]

namespace Job

variable {π : Type}

/-- What a paragraph says outside definitions, if no list of indexes precedes it: a header,
a part of a conditional, or an object block.  The values are those of a store. -/
inductive Says (j : Job π) (s : Store) (q : Paragraph) : Meaning → Prop
  | heading {rest : List Char} {text : String} {h : Heading} :
      LineKind.of false q.head.text.toList = .header rest → q.below = [] →
        j.substitute s none q.head.place (String.ofList rest) = .ok text →
          readHeader (Text.trimmed text) = (h.name, h.tags) → Says j s q (.heading h)
  | part {rest : List Char} {text word argument : String} {m : Meaning} :
      LineKind.of false q.head.text.toList = .directive rest → q.below = [] →
        j.substitute s none q.head.place (String.ofList rest) = .ok text →
          Text.firstWord (Text.trimmed text).toList = (word.toList, argument.toList) →
            m.Worded word argument → Says j s q m
  | block {objects : List ObjectRules} :
      LineKind.of false q.head.text.toList = .objectName →
        j.objectsOf s ⟨q.head, none, q.below⟩ = .ok objects → Says j s q (.content (.block objects))

/-- A header, a directive with the word of a part of a conditional, or an object block whose
rules can be read.  Expressions in headers and directives need not have a value, and any
text may follow the word. -/
inductive Regular (j : Job π) (s : Store) (q : Paragraph) : Prop
  | header {rest : List Char} :
      LineKind.of false q.head.text.toList = .header rest → q.below = [] → Regular j s q
  | part {rest : List Char} :
      LineKind.of false q.head.text.toList = .directive rest → q.below = [] →
        (∀ text, j.substitute s none q.head.place (String.ofList rest) = .ok text →
          String.ofList (Text.firstWord (Text.trimmed text).toList).1 ∈ Meaning.words) →
            Regular j s q
  | block {objects : List ObjectRules} :
      LineKind.of false q.head.text.toList = .objectName →
        j.objectsOf s ⟨q.head, none, q.below⟩ = .ok objects → Regular j s q

/-- A part of a conditional without references is regular. -/
theorem regular_of_notMem {j : Job π} {s : Store} {q : Paragraph} (rest : List Char)
    (hk : LineKind.of false q.head.text.toList = .directive rest) (hbelow : q.below = [])
    (h : '$' ∉ rest)
    (hword : String.ofList (Text.firstWord (Text.trim rest)).1 ∈ Meaning.words) :
    j.Regular s q := by
  refine .part hk hbelow fun text ht => ?_
  rw [j.substitute_of_notMem s _ (by rwa [String.toList_ofList])] at ht
  cases ht
  rwa [Text.trimmed, String.toList_ofList, String.toList_ofList]

theorem regular_of_isSome {j : Job π} {s : Store} {q : Paragraph}
    (hk : LineKind.of false q.head.text.toList = .objectName)
    (h : (j.objectsOf s ⟨q.head, none, q.below⟩).toOption.isSome = true) : j.Regular s q := by
  cases ho : j.objectsOf s ⟨q.head, none, q.below⟩ with
  | ok objects => exact .block hk ho
  | error error =>
      rw [ho] at h
      cases h

/-- Passages are what lines say. -/
structure Tells (j : Job π) (s : Store) (lines : List Line) (xs : List (Passage Meaning)) :
    Prop where
  lines : lines = xs.flatMap (·.paragraph.lines)
  indented : ∀ x ∈ xs, x.paragraph.Indented
  meanings : ∀ x ∈ xs, j.Says s x.paragraph x.meaning

/-- There is a document that starts with lines. -/
def Viable (j : Job π) (s : Store) (lines : List Line) : Prop :=
  ∃ more, ∃ d : Document, j.Tells s (lines ++ more) d.passages

end Job

/-! ## Parts of conditionals are directives -/

theorem Text.exists_words (cs : List Char) :
    ∃ word argument : String, firstWord cs = (word.toList, argument.toList) :=
  ⟨String.ofList (firstWord cs).1, String.ofList (firstWord cs).2, by
    rw [String.toList_ofList, String.toList_ofList]⟩

namespace Directive

/-- Whether a directive is a part of a conditional. -/
def isPart : Directive → Bool
  | .ifHolds _ | .orHolds _ | .doRules | .otherwise | .close => true
  | _ => false

/-- The word of a part is read, and the text after it is kept for the conditions. -/
theorem ofText_words {text word argument : String}
    (h : Text.firstWord text.toList = (word.toList, argument.toList))
    (hword : word ∈ Meaning.words) :
    (word = "if" ∧ ofText text = .ok (.ifHolds argument)) ∨
      (word = "or" ∧ ofText text = .ok (.orHolds argument)) ∨
        (word = "do" ∧ ofText text = .ok .doRules) ∨
          (word = "otherwise" ∧ ofText text = .ok .otherwise) ∨
            (word = "end" ∧ ofText text = .ok .close) := by
  simp only [Meaning.words, List.mem_cons, List.not_mem_nil, or_false] at hword
  obtain rfl | rfl | rfl | rfl | rfl := hword <;>
    simp [ofText, h, ifWord, orWord, doWord, otherwiseWord, endWord]

theorem exists_part_of_words {text word argument : String}
    (h : Text.firstWord text.toList = (word.toList, argument.toList))
    (hword : word ∈ Meaning.words) :
    ∃ d, ofText text = .ok d ∧ d.isPart = true := by
  obtain ⟨_, h⟩ | ⟨_, h⟩ | ⟨_, h⟩ | ⟨_, h⟩ | ⟨_, h⟩ := ofText_words h hword <;> exact ⟨_, h, rfl⟩

theorem readInversion_ok {word argument : String} {inverted : Bool}
    (h : readInversion word argument = .ok inverted) :
    argument = "" ∧ inverted = false ∨ argument = "not" ∧ inverted = true := by
  unfold readInversion at h
  split at h
  next ha =>
    cases h
    exact .inl ⟨eq_of_beq ha, rfl⟩
  next =>
    split at h
    next ha =>
      cases h
      exact .inr ⟨eq_of_beq ha, rfl⟩
    next => cases h

end Directive

namespace Job

variable {π : Type} {j : Job π} {load : Loader} {s : Store}

/-- A part of a conditional is a directive that orders what the part says. -/
theorem orders_of_worded {text word argument : String} {m : Meaning} (s₁ s₂ : Store)
    (h : Text.firstWord text.toList = (word.toList, argument.toList))
    (hm : m.Worded word argument) :
    ∃ d, Directive.ofText text = .ok d ∧ d.isPart = true ∧ j.Orders s₁ s₂ d m := by
  have hwords := Directive.ofText_words h
  cases hm with
  | ifHolds => exact ⟨.ifHolds "", by simpa using hwords (by decide), rfl, .ifHolds rfl⟩
  | ifNot => exact ⟨.ifHolds "not", by simpa using hwords (by decide), rfl, .ifHolds rfl⟩
  | orHolds => exact ⟨.orHolds "", by simpa using hwords (by decide), rfl, .orHolds rfl⟩
  | orNot => exact ⟨.orHolds "not", by simpa using hwords (by decide), rfl, .orHolds rfl⟩
  | doRules => exact ⟨.doRules, by simpa using hwords (by decide), rfl, .doRules⟩
  | otherwise => exact ⟨.otherwise, by simpa using hwords (by decide), rfl, .otherwise⟩
  | close => exact ⟨.close, by simpa using hwords (by decide), rfl, .close⟩

/-- A directive with the word of a part says what its words say. -/
theorem worded_of_orders {text word argument : String} {s₁ s₂ : Store} {d : Directive} {m : Meaning}
    (h : Text.firstWord text.toList = (word.toList, argument.toList)) (hword : word ∈ Meaning.words)
    (hd : Directive.ofText text = .ok d) (hm : j.Orders s₁ s₂ d m) : m.Worded word argument := by
  obtain ⟨rfl, htext⟩ | ⟨rfl, htext⟩ | ⟨rfl, htext⟩ | ⟨rfl, htext⟩ | ⟨rfl, htext⟩ :=
    Directive.ofText_words h hword <;>
  obtain rfl := Except.ok.inj (hd.symm.trans htext)
  · cases hm with
    | ifHolds hi =>
        obtain ⟨rfl, rfl⟩ | ⟨rfl, rfl⟩ := Directive.readInversion_ok hi
        · exact .ifHolds
        · exact .ifNot
  · cases hm with
    | orHolds hi =>
        obtain ⟨rfl, rfl⟩ | ⟨rfl, rfl⟩ := Directive.readInversion_ok hi
        · exact .orHolds
        · exact .orNot
  · cases hm
    exact .doRules
  · cases hm
    exact .otherwise
  · cases hm
    exact .close

/-- Only the conditional decides whether a part of it can stand somewhere. -/
theorem directed_part {p : Progress} {place : Place} {text : String} {d : Directive}
    (h : Directive.ofText text = .ok d) (hd : d.isPart = true) :
    j.directed load p place text =
      p.store.attempt ((controlled p place d).mapError (.fault · place)) := by
  unfold directed
  rw [h]
  cases d with
  | ifHolds | orHolds | doRules | otherwise | close => rfl
  | importFile | loadScript | setBlock | set => cases hd

end Job

namespace Job

variable {π : Type} {j : Job π} {s : Store} {D D' : Draft}

/-- Below other lines than names of objects nothing is said. -/
theorem below_of_meaning {q : Paragraph} {m : Meaning} (h : j.Says s q m)
    (hk : LineKind.of false q.head.text.toList ≠ .objectName) : q.below = [] := by
  cases h with
  | heading _ hbelow => exact hbelow
  | part _ hbelow => exact hbelow
  | block hk' => exact absurd hk' hk

/-! ## Documents that lines start -/

namespace Tells

variable {lines : List Line} {xs : List (Passage Meaning)}

theorem start (j : Job π) (s : Store) : j.Tells s [] Draft.start.passages := ⟨rfl, nofun, nofun⟩

theorem document {d : Document} (h : j.Tells s lines (Draft.passages ⟨d, none⟩)) :
    j.Tells s lines d.passages := by
  rwa [Draft.passages, Option.toList_none, List.flatMap_nil, List.append_nil] at h

theorem indented_of_mem_map (h : j.Tells s lines xs) :
    ∀ q ∈ xs.map (·.paragraph), q.Indented := by
  intro q hq
  obtain ⟨x, hx, rfl⟩ := List.mem_map.1 hq
  exact h.indented x hx

/-- The paragraphs of the passages are those of the lines. -/
theorem map_paragraph (h : j.Tells s lines xs) :
    xs.map (·.paragraph) = Paragraph.split lines := by
  have hend : ∀ line ∈ ([] : List Line).head?, line.indented = false := nofun
  have hsplit := Paragraph.split_flatMap_lines_append h.indented_of_mem_map hend
  rw [List.append_nil, List.flatMap_map, ← h.lines, Paragraph.split, List.append_nil] at hsplit
  exact hsplit.symm

theorem next (before : Store) {q : Paragraph} {m : Meaning} (h : j.Tells s lines D.passages)
    (hq : q.Indented) (hm : j.Says s q m) (hnext : D.next ⟨before, q, m⟩ = some D') :
    j.Tells s (lines ++ q.lines) D'.passages := by
  have hpassages := Draft.passages_next hnext
  constructor
  · rw [hpassages, List.flatMap_append, ← h.lines, List.flatMap_singleton]
  · intro x hx
    rw [hpassages] at hx
    obtain hx | hx := List.mem_append.1 hx
    · exact h.indented x hx
    · obtain rfl := List.mem_singleton.1 hx
      exact hq
  · intro x hx
    rw [hpassages] at hx
    obtain hx | hx := List.mem_append.1 hx
    · exact h.meanings x hx
    · obtain rfl := List.mem_singleton.1 hx
      exact hm

/-- Paragraphs that start a document are passages of it, and the next passage can stand after
them. -/
theorem exists_next {before : List Paragraph} {line : Line} {more : List Line} {d : Document}
    (h : j.Tells s (before.flatMap Paragraph.lines ++ line :: more) d.passages)
    (hbefore : ∀ q ∈ before, q.Indented) (hline : line.indented = false) :
    ∃ xs x, ∃ D D' : Draft, xs.map (·.paragraph) = before ∧ x.paragraph.head = line ∧
      (∀ y ∈ xs ++ [x], y.paragraph.Indented) ∧ (∀ y ∈ xs ++ [x], j.Says s y.paragraph y.meaning) ∧
        xs.foldlM Draft.next .start = some D ∧ D.next x = some D' := by
  have hhead : ∀ l ∈ (line :: more).head?, l.indented = false := by
    intro l hl
    obtain rfl := Option.some.inj hl
    exact hline
  have hsplit := h.map_paragraph
  rw [Paragraph.split_flatMap_lines_append hbefore hhead, Paragraph.split] at hsplit
  obtain ⟨xs, ys, hd, hxs, hys⟩ := List.map_eq_append_iff.1 hsplit
  obtain ⟨x, ys, rfl, hx, _⟩ := List.map_eq_cons_iff.1 hys
  have hmem : ∀ y ∈ xs ++ [x], y ∈ d.passages := by
    rw [hd, List.append_cons xs x ys]
    exact fun y hy => List.mem_append_left _ hy
  have hnext := Draft.foldlM_next_document d
  rw [hd, List.foldlM_append] at hnext
  obtain ⟨D, hD, hnext⟩ := Option.bind_eq_some_iff.1 hnext
  obtain ⟨D', hD', _⟩ := Option.bind_eq_some_iff.1 hnext
  exact ⟨xs, x, D, D', hxs, by rw [hx], fun y hy => h.indented y (hmem y hy),
    fun y hy => h.meanings y (hmem y hy), hD, hD'⟩

end Tells

theorem viable_of_append {lines more : List Line} (h : j.Viable s (lines ++ more)) :
    j.Viable s lines := by
  obtain ⟨rest, d, h⟩ := h
  exact ⟨more ++ rest, d, by rwa [← List.append_assoc]⟩

/-- A part of a conditional on a line of its own. -/
def partParagraph (word : String) : Paragraph := ⟨⟨"@@ " ++ word, ⟨"", 0⟩, false⟩, []⟩

theorem indented_partParagraph (word : String) : (partParagraph word).Indented := ⟨rfl, nofun⟩

theorem says_do : j.Says s (partParagraph "do") .doRules := by
  have hk : LineKind.of false (partParagraph "do").head.text.toList =
      .directive " do".toList := by decide
  have hwords : Text.firstWord (Text.trimmed " do").toList = ("do".toList, "".toList) := by decide
  exact .part hk rfl (j.substitute_of_notMem s _ (by decide)) hwords .doRules

theorem says_end : j.Says s (partParagraph "end") .close := by
  have hk : LineKind.of false (partParagraph "end").head.text.toList =
      .directive " end".toList := by decide
  have hwords : Text.firstWord (Text.trimmed " end").toList = ("end".toList, "".toList) := by decide
  exact .part hk rfl (j.substitute_of_notMem s _ (by decide)) hwords .close

/-- The lines of a draft start a document: what is missing of its open conditional can
follow. -/
theorem viable_of_tells {lines : List Line} (h : j.Tells s lines D.passages) :
    j.Viable s lines := by
  -- Two lines are enough: `@@ do` if the body has not started, and `@@ end`.
  have hdocument : ∀ {lines d}, j.Tells s lines (Draft.passages ⟨d, none⟩) → j.Viable s lines := by
    intro lines d h
    refine ⟨[], d, ?_⟩
    rw [List.append_nil]
    exact h.document
  have hbranches : ∀ {lines d cs body k?},
      j.Tells s lines (Draft.passages ⟨d, some (.branches cs body k?)⟩) → j.Viable s lines := by
    intro lines d cs body k? h
    exact viable_of_append
      (hdocument (h.next s (indented_partParagraph "end") says_end rfl))
  obtain ⟨d, o⟩ := D
  match o with
  | none => exact hdocument h
  | some (.branches _ _ _) => exact hbranches h
  | some (.conditions _) =>
      exact viable_of_append
        (hbranches (h.next s (indented_partParagraph "do") says_do rfl))

end Job

end PageLayout
