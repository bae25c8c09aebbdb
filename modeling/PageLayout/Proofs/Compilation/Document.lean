import PageLayout.Proofs.Compilation.Paragraph

/-!
# Documents

A file is a document: first what stands before any section, and then one section
after another.  In a section stand object blocks, conditionals and files that are
imported, among lines that demand nothing.  A document keeps for every paragraph what
it says, in order, so its `passages` are the file.

`Document.sections` gives the sections that a document stands for, without a word
about how its lines are read.
-/

namespace PageLayout

/-! ## Passages -/

/-- A file that was read, and the sections that came of it. -/
structure Reading where
  /-- The store before its first line. -/
  before : Store
  /-- The lines. -/
  lines : List Line
  /-- The sections that were added. -/
  sections : List Section
  /-- The store after its last line. -/
  after : Store

/-- What a paragraph says that stands in a section. -/
inductive Content where
  /-- A block of definitions starts or ends. -/
  | definitionRuler
  /-- Nothing is demanded. -/
  | nothing
  /-- The next object block has indexes. -/
  | indexes (list : List Int)
  /-- The rules of an object block. -/
  | block (objects : List ObjectRules)
  /-- Another file. -/
  | file (r : Reading)

/-- The name and the tags of a section. -/
structure Heading where
  /-- The name. -/
  name : String
  /-- The tags. -/
  tags : List String

/-- What a paragraph says. -/
inductive Meaning where
  /-- It stands in a section. -/
  | content (c : Content)
  /-- A section starts. -/
  | heading (h : Heading)
  /-- A conditional starts with its first condition. -/
  | ifHolds (inverted : Bool)
  /-- Another condition starts. -/
  | orHolds (inverted : Bool)
  /-- The body starts. -/
  | doRules
  /-- The other branch starts. -/
  | otherwise
  /-- The conditional ends. -/
  | close

/-- A paragraph, what it says, and the store that it was read with. -/
structure Passage (α : Type) where
  /-- The store. -/
  before : Store
  /-- The paragraph. -/
  paragraph : Paragraph
  /-- What it says. -/
  meaning : α

namespace Content

/-- The rules that an object block gives. -/
def objects : Content → List ObjectRules
  | .block objects => objects
  | _ => []

/-- The sections that another file gives. -/
def imported : Content → List Section
  | .file r => r.sections
  | _ => []

@[simp] theorem objects_block (os : List ObjectRules) : (Content.block os).objects = os := rfl

@[simp] theorem imported_block (os : List ObjectRules) : (Content.block os).imported = [] := rfl

end Content

namespace Passage

/-- The passage with what it says put in other words. -/
def map {α β : Type} (f : α → β) (x : Passage α) : Passage β := ⟨x.before, x.paragraph, f x.meaning⟩

/-- Where the passage stands. -/
def place {α : Type} (x : Passage α) : Place := x.paragraph.head.place

end Passage

/-! ## Conditionals -/

/-- A part of a conditional: the line that starts it, and what stands below. -/
structure Clause (α : Type) where
  /-- The line that starts the part. -/
  opening : Passage α
  /-- What stands below. -/
  contents : List (Passage Content)

namespace Clause

variable {α : Type}

/-- The rules of the object blocks, in order. -/
def objects (k : Clause α) : List ObjectRules := k.contents.flatMap (·.meaning.objects)

/-- The sections of the files, in order. -/
def imported (k : Clause α) : List Section := k.contents.flatMap (·.meaning.imported)

/-- The passages, in order. -/
def passages (f : α → Meaning) (k : Clause α) : List (Passage Meaning) :=
  k.opening.map f :: k.contents.map (·.map .content)

/-- The part with one more passage. -/
def add (k : Clause α) (x : Passage Content) : Clause α := { k with contents := k.contents ++ [x] }

end Clause

/-- The conditions of a conditional. -/
inductive Conditions where
  /-- The first condition. -/
  | first (k : Clause Bool)
  /-- One more condition. -/
  | more (before : Conditions) (k : Clause Bool)

namespace Conditions

/-- The first line of the first condition. -/
def place : Conditions → Place
  | .first k => k.opening.place
  | .more before _ => before.place

/-- The conditions, in order. -/
def list : Conditions → List Condition
  | .first k => [⟨k.objects, k.opening.meaning⟩]
  | .more before k => before.list ++ [⟨k.objects, k.opening.meaning⟩]

/-- The sections of the files, in order. -/
def imported : Conditions → List Section
  | .first k => k.imported
  | .more before k => before.imported ++ k.imported

/-- The passages, in order. -/
def passages : Conditions → List (Passage Meaning)
  | .first k => k.passages .ifHolds
  | .more before k => before.passages ++ k.passages .orHolds

/-- The conditions with one more passage. -/
def add (x : Passage Content) : Conditions → Conditions
  | .first k => .first (k.add x)
  | .more before k => .more before (k.add x)

end Conditions

/-- A conditional whose end is not reached. -/
inductive Opened where
  /-- Only conditions so far. -/
  | conditions (cs : Conditions)
  /-- The body has started, and perhaps the other branch. -/
  | branches (cs : Conditions) (body : Clause Unit) (otherwise : Option (Clause Unit))

namespace Opened

/-- The first line of the first condition. -/
def place : Opened → Place
  | .conditions cs | .branches cs _ _ => cs.place

/-- The sections of the files, in order. -/
def imported : Opened → List Section
  | .conditions cs => cs.imported
  | .branches cs body otherwise =>
      cs.imported ++ body.imported ++ otherwise.toList.flatMap (·.imported)

/-- The passages, in order. -/
def passages : Opened → List (Passage Meaning)
  | .conditions cs => cs.passages
  | .branches cs body otherwise =>
      cs.passages ++ body.passages (fun _ => .doRules) ++
        otherwise.toList.flatMap (·.passages fun _ => .otherwise)

end Opened

/-- A conditional from its first line to its last. -/
structure Choice where
  /-- The conditions. -/
  conditions : Conditions
  /-- The body. -/
  body : Clause Unit
  /-- The other branch. -/
  otherwise : Option (Clause Unit)
  /-- The last line. -/
  closing : Passage Unit

namespace Choice

/-- The conditional that is stored. -/
def conditional (c : Choice) : Conditional :=
  ⟨c.conditions.list, c.body.objects, c.otherwise.toList.flatMap (·.objects)⟩

/-- The conditional without its last line. -/
def opened (c : Choice) : Opened := .branches c.conditions c.body c.otherwise

end Choice

/-! ## Sections -/

/-- A part of a section. -/
inductive Item where
  /-- A passage outside conditionals. -/
  | passage (x : Passage Content)
  /-- A conditional. -/
  | choice (c : Choice)

namespace Item

/-- The rules that do not depend on anything. -/
def objects : Item → List ObjectRules
  | .passage x => x.meaning.objects
  | .choice _ => []

/-- The rules that depend on conditions. -/
def conditionals : Item → List Conditional
  | .passage _ => []
  | .choice c => [c.conditional]

/-- The sections of the files, in order. -/
def imported : Item → List Section
  | .passage x => x.meaning.imported
  | .choice c => c.opened.imported

/-- The first line. -/
def place : Item → Place
  | .passage x => x.place
  | .choice c => c.conditions.place

/-- The passages, in order. -/
def passages : Item → List (Passage Meaning)
  | .passage x => [x.map .content]
  | .choice c => c.opened.passages ++ [c.closing.map fun _ => .close]

@[simp] theorem objects_passage (x : Passage Content) :
    (Item.passage x).objects = x.meaning.objects := rfl

@[simp] theorem conditionals_passage (x : Passage Content) :
    (Item.passage x).conditionals = [] := rfl

@[simp] theorem imported_passage (x : Passage Content) :
    (Item.passage x).imported = x.meaning.imported := rfl

@[simp] theorem objects_choice (c : Choice) : (Item.choice c).objects = [] := rfl

@[simp] theorem conditionals_choice (c : Choice) :
    (Item.choice c).conditionals = [c.conditional] := rfl

@[simp] theorem imported_choice (c : Choice) :
    (Item.choice c).imported = c.opened.imported := rfl

/-- Whether nothing is put into the section. -/
def isQuiet (e : Item) : Bool := e.objects.isEmpty && e.conditionals.isEmpty

end Item

/-- The section of some items. -/
def sectionOf (h : Heading) (place : Place) (es : List Item) : Section :=
  ⟨h.name, h.tags, es.flatMap (·.objects), es.flatMap (·.conditionals), place⟩

/-- The sections of items that stand before any header.  The first item that
puts something into a section opens one without a name.  The sections of a file that
is imported inside of this item come before. -/
def unnamedSections : List Item → List Section
  | [] => []
  | e :: es =>
      if e.isQuiet then e.imported ++ unnamedSections es
      else e.imported ++ sectionOf ⟨"", []⟩ e.place (e :: es) :: es.flatMap (·.imported)

/-- What a file says. -/
inductive Document where
  /-- No section has a header. -/
  | unnamed (items : List Item)
  /-- The last section has a header. -/
  | headed (before : Document) (heading : Passage Heading) (items : List Item)

namespace Document

/-- The sections, in the order in which they are opened. -/
def sections : Document → List Section
  | .unnamed es => unnamedSections es
  | .headed before heading es =>
      before.sections ++ sectionOf heading.meaning heading.place es :: es.flatMap (·.imported)

/-- The passages, in order. -/
def passages : Document → List (Passage Meaning)
  | .unnamed es => es.flatMap (·.passages)
  | .headed before heading es =>
      before.passages ++ heading.map .heading :: es.flatMap (·.passages)

/-- The document with one more item at its end. -/
def add (e : Item) : Document → Document
  | .unnamed es => .unnamed (es ++ [e])
  | .headed before heading es => .headed before heading (es ++ [e])

theorem passages_add (d : Document) (e : Item) :
    (d.add e).passages = d.passages ++ e.passages := by
  cases d with
  | unnamed es => simp [add, passages]
  | headed before heading es => simp [add, passages]

end Document

/-! ## One more item -/

/-- The section with one more item. -/
def Section.withItem (s : Section) (e : Item) : Section :=
  { s with objects := s.objects ++ e.objects, conditionals := s.conditionals ++ e.conditionals }

theorem sectionOf_append (h : Heading) (place : Place) (es : List Item) (e : Item) :
    sectionOf h place (es ++ [e]) = (sectionOf h place es).withItem e := by
  simp [sectionOf, Section.withItem]

theorem Section.withItem_of_isQuiet {e : Item} (s : Section) (h : e.isQuiet = true) :
    s.withItem e = s := by
  simp only [Item.isQuiet, Bool.and_eq_true, List.isEmpty_iff] at h
  simp [withItem, h]

/-- The index of the section without a name, if there is one. -/
def unnamedIndex : List Item → Option Nat
  | [] => none
  | e :: es =>
      if e.isQuiet then (unnamedIndex es).map (e.imported.length + ·) else some e.imported.length

/-- An item after the section without a name was opened becomes a part of it. -/
theorem unnamedSections_append_of_some {es : List Item} {index : Nat}
    (h : unnamedIndex es = some index) :
    ∃ before own after, before.length = index ∧ unnamedSections es = before ++ own :: after ∧
      ∀ e, unnamedSections (es ++ [e]) = before ++ own.withItem e :: (after ++ e.imported) ∧
        unnamedIndex (es ++ [e]) = some index := by
  induction es generalizing index with
  | nil => cases h
  | cons e₀ es ih =>
      by_cases hq : e₀.isQuiet = true
      · simp only [unnamedIndex, hq, if_true] at h
        obtain ⟨index', hi, rfl⟩ := Option.map_eq_some_iff.1 h
        obtain ⟨before, own, after, rfl, hs, hadd⟩ := ih hi
        refine ⟨e₀.imported ++ before, own, after, List.length_append, ?_, fun e => ?_⟩
        · simp [unnamedSections, hq, hs]
        · obtain ⟨hs, hi⟩ := hadd e
          simp [unnamedSections, unnamedIndex, hq, hs, hi]
      · simp only [unnamedIndex, hq, Bool.false_eq_true, if_false, Option.some.injEq] at h
        refine ⟨e₀.imported, _, _, h, if_neg hq, fun e => ?_⟩
        simp only [List.cons_append, unnamedSections, unnamedIndex, hq, Bool.false_eq_true,
          if_false, h, and_true]
        rw [← List.cons_append, sectionOf_append]
        simp

/-- An item before any section was opened opens one if it is not quiet. -/
theorem unnamedSections_append_of_none {es : List Item} (h : unnamedIndex es = none) (e : Item) :
    (e.isQuiet = true → unnamedSections (es ++ [e]) = unnamedSections es ++ e.imported ∧
      unnamedIndex (es ++ [e]) = none) ∧
    (e.isQuiet = false →
      unnamedSections (es ++ [e]) =
        unnamedSections es ++ e.imported ++ [sectionOf ⟨"", []⟩ e.place [e]] ∧
      unnamedIndex (es ++ [e]) = some (unnamedSections es ++ e.imported).length) := by
  induction es with
  | nil => simp +contextual [unnamedSections, unnamedIndex]
  | cons e₀ es ih =>
      by_cases hq : e₀.isQuiet = true
      · simp only [unnamedIndex, hq, if_true, Option.map_eq_none_iff] at h
        obtain ⟨hquiet, hloud⟩ := ih h
        constructor
        · intro he
          obtain ⟨hs, hi⟩ := hquiet he
          simp [unnamedSections, unnamedIndex, hq, hs, hi]
        · intro he
          obtain ⟨hs, hi⟩ := hloud he
          simp [unnamedSections, unnamedIndex, hq, hs, hi]
      · simp [unnamedIndex, hq] at h

namespace Document

/-- The index of the section that was opened last. -/
def current : Document → Option Nat
  | .unnamed es => unnamedIndex es
  | .headed before _ _ => some before.sections.length

/-- An item becomes a part of the section that was opened last. -/
theorem sections_add_of_some {d : Document} {index : Nat} (h : d.current = some index) :
    ∃ before own after, before.length = index ∧ d.sections = before ++ own :: after ∧
      ∀ e, (d.add e).sections = before ++ own.withItem e :: (after ++ e.imported) ∧
        (d.add e).current = some index := by
  cases d with
  | unnamed es => exact unnamedSections_append_of_some h
  | headed before heading es =>
      refine ⟨before.sections, _, _, Option.some.inj h, rfl, fun e => ⟨?_, h⟩⟩
      simp [sections, add, sectionOf_append]

/-- If no section was opened, an item opens one if it is not quiet. -/
theorem sections_add_of_none {d : Document} (h : d.current = none) (e : Item) :
    (e.isQuiet = true → (d.add e).sections = d.sections ++ e.imported ∧
      (d.add e).current = none) ∧
    (e.isQuiet = false →
      (d.add e).sections = d.sections ++ e.imported ++ [sectionOf ⟨"", []⟩ e.place [e]] ∧
      (d.add e).current = some (d.sections ++ e.imported).length) := by
  cases d with
  | unnamed es => exact unnamedSections_append_of_none h e
  | headed before heading es => cases h

/-- A quiet item only adds the sections that it imports. -/
theorem sections_add_of_isQuiet {e : Item} (d : Document) (h : e.isQuiet = true) :
    (d.add e).sections = d.sections ++ e.imported ∧ (d.add e).current = d.current := by
  cases hc : d.current with
  | none => exact (sections_add_of_none hc e).1 h
  | some index =>
      obtain ⟨before, own, after, _, hs, hadd⟩ := sections_add_of_some hc
      obtain ⟨hs', hc'⟩ := hadd e
      rw [hs', hs, Section.withItem_of_isQuiet own h]
      exact ⟨by simp, hc'⟩

end Document

end PageLayout
