import PageLayout.Proofs.Compilation.Faithful
import PageLayout.Proofs.Compilation.Provenance

/-!
# Rules agree with their texts

A rule keeps the text that its requirement was read from: the text of its line after its index,
its properties and the values of its expressions were put in, and without the mark of a warning.
So the text can be read again, and it gives the requirement.  Only the path of a component is
kept as it is seen from the directory of the file with the line.

For a single line this is `Job.requirement_of_ruleOf`.  It holds of every rule of a layout,
because rules are moved as they are once they were read.
-/

namespace PageLayout

/-- The text of a rule reads as its requirement.  The path of a component is seen from the
directory of the file with the rule. -/
def Rule.Agrees (tolerance : Float) (rule : Rule) : Prop :=
  ∃ r, Requirement.ofText tolerance rule.text = .ok r ∧
    rule.requirement = r.seenFrom (Path.directory rule.place.file)

/-- A rule that is read in the directory of the file of its line agrees with its text. -/
theorem Job.agrees_of_ruleOf {π : Type} {j : Job π} {s : Store} {index : Option Int} {line : Line}
    {rule : Rule} (hs : s.trail.directories.head? = some (Path.directory line.place.file))
    (h : j.ruleOf s index line = .ok rule) : rule.Agrees j.settings.approximation := by
  obtain ⟨outer, hs⟩ := List.head?_eq_some_iff.1 hs
  unfold Rule.Agrees
  rw [place_of_ruleOf h]
  exact requirement_of_ruleOf hs h

/-- Of places nothing is known, and of rules that they agree with their texts. -/
def Provenance.recordedText {π : Type} (j : Job π) : Provenance j where
  known _ := True
  kept rule := rule.Agrees j.settings.approximation
  kept_of_ruleOf := fun _ hs h => Job.agrees_of_ruleOf hs h

theorem Provenance.supports_recordedText {π : Type} (j : Job π) (x : Excerpt) :
    (recordedText j).Supports x := by
  cases x with
  | text path text => exact fun _ _ _ _ => trivial
  | line p l => trivial

/-- The rules of sections that are covered are kept. -/
theorem Provenance.kept_of_mem_everyRule {π : Type} {j : Job π} {P : Provenance j} {l : Layout}
    (h : ∀ s ∈ l.sections, P.Covers s) {rule : Rule} (hrule : rule ∈ l.everyRule) :
    P.kept rule := by
  obtain ⟨s, hs, hrule⟩ := Layout.mem_everyRule.1 hrule
  obtain ⟨o, ho, hrule⟩ := Section.mem_everyRule.1 hrule
  exact (h s hs).objects o ho rule hrule

namespace Compiler

variable {π : Type} [Page π]

/-- Every rule of a layout agrees with its text, in whatever file and part of a section it
stands. -/
theorem agrees_of_mem_everyRule (c : Compiler π) (page : Option π) :
    (∀ path l, c.compile page path = .ok l →
      ∀ rule ∈ l.everyRule, rule.Agrees c.settings.approximation) ∧
    ∀ text label l, c.compileText page text label = .ok l →
      ∀ rule ∈ l.everyRule, rule.Agrees c.settings.approximation := by
  let P := Provenance.recordedText (⟨c, page⟩ : Job π)
  constructor
  · intro path l h rule hrule
    have hcovers := (ends_compile P fun x _ => Provenance.supports_recordedText _ x).ok l h
    exact P.kept_of_mem_everyRule hcovers hrule
  · intro text label l h rule hrule
    have hcovers := (ends_compileText P fun x _ => Provenance.supports_recordedText _ x).ok l h
    exact P.kept_of_mem_everyRule hcovers hrule

/-- A file with rules in all parts of a section, and one that it imports. -/
def partsSample : Compiler Snapshot :=
  ⟨⟨2.0, true⟩, .ofList [("size", "10px")], .standard, .memory
    [("pages/home",
        "[1,2]\nbox@\n % text is: $\x7b'no'\x7d @\n@@ if\nlink\n visible\n@@ do\n" ++
        "@@ import more/menu\nlogo\n absent\n@@ otherwise\nlogo\n width: $size\n@@ end\n"),
      ("pages/more/menu", "@ desktop\nmenu\n component: ../../parts/menu\n")]⟩

/-- The texts of its rules are those of its lines with all values put in. -/
theorem agrees_of_mem_everyRule_partsSample :
    (∃ l, partsSample.compile none "pages/home" = .ok l ∧
      l.everyRule.map (fun rule => (rule.text, rule.place.line, rule.warnOnly)) =
        [("text is: no 1", 3, true), ("text is: no 2", 3, true), ("visible", 6, false),
          ("absent", 10, false), ("width: 10px", 13, false),
          ("component: ../../parts/menu", 3, false)] ∧
      ∀ rule ∈ l.everyRule, rule.Agrees 2.0) ∧
    ∃ l, partsSample.compileText none "menu\n component: parts/menu.spec" "pages/text" = .ok l ∧
      l.everyRule.map Rule.requirement = [.component "pages/parts/menu.spec"] ∧
      ∀ rule ∈ l.everyRule, rule.Agrees 2.0 := by
  obtain ⟨hcompile, htext⟩ := agrees_of_mem_everyRule partsSample none
  constructor
  · obtain ⟨l, h, hrules⟩ : ∃ l, partsSample.compile none "pages/home" = .ok l ∧
        l.everyRule.map (fun rule => (rule.text, rule.place.line, rule.warnOnly)) =
          [("text is: no 1", 3, true), ("text is: no 2", 3, true), ("visible", 6, false),
            ("absent", 10, false), ("width: 10px", 13, false),
            ("component: ../../parts/menu", 3, false)] :=
      exists_ok_of_toOption (by decide +kernel)
    exact ⟨l, h, hrules, hcompile "pages/home" l h⟩
  · obtain ⟨l, h, hrules⟩ : ∃ l,
        partsSample.compileText none "menu\n component: parts/menu.spec" "pages/text" = .ok l ∧
          l.everyRule.map Rule.requirement = [.component "pages/parts/menu.spec"] :=
      exists_ok_of_toOption (by decide +kernel)
    exact ⟨l, h, hrules, htext _ _ l h⟩

end Compiler

end PageLayout
