import PageLayout.Proofs.Compilation.Faithful
import PageLayout.Proofs.Compilation.Variables
import PageLayout.Proofs.Decimal.NumberWord
import PageLayout.Proofs.Layout.Rules
import PageLayout.Proofs.Reading.Variable

/-!
# Variables that hold words

A variable that is set to a text without digits, dollar signs and blanks at its ends holds this
text, and from then on its name in braces is replaced by the text in every line, whatever file
the line stands in, until the variable is set again.

There is one exception: the words for the infinite and the undefined number are read as these
numbers, and such a number is not always written as it was read.
-/

namespace PageLayout

open Script (IsName)
open Template (embraced)

/-! ## Words as values -/

namespace Value

/-- A text without digits, dollar signs and blanks at its ends. -/
structure IsWords (v : String) : Prop where
  ne_nil : v.toList ≠ []
  trimmed : Text.Trimmed v.toList
  noDigit : ∀ c ∈ v.toList, Decimal.isDigit c = false
  dollar_notMem : '$' ∉ v.toList

variable {v : String}

theorem isWords_iff : IsWords v ↔ v.toList ≠ [] ∧ Text.trim v.toList = v.toList ∧
    (v.toList.all fun c => !Decimal.isDigit c) = true ∧ '$' ∉ v.toList := by
  constructor
  · rintro ⟨hne, htrimmed, hdigit, hdollar⟩
    exact ⟨hne, htrimmed.trim, by simpa using hdigit, hdollar⟩
  · rintro ⟨hne, htrim, hdigit, hdollar⟩
    exact ⟨hne, Text.trimmed_iff.2 htrim, by simpa using hdigit, hdollar⟩

instance : Decidable (IsWords v) := decidable_of_iff _ isWords_iff.symm

theorem ofLiteral_words (h : IsWords v) :
    (Decimal.IsNumberWord v.toList → ∃ x, ofLiteral v = .number x ∧
      (ofLiteral v).display ∈ Decimal.wordTexts) ∧
    (¬Decimal.IsNumberWord v.toList → ofLiteral v = .text v) := by
  obtain ⟨hnumber, hnone⟩ := Decimal.read?_of_noDigit h.noDigit
  unfold ofLiteral
  rw [h.trimmed.trim]
  constructor
  · intro hword
    obtain ⟨x, hx, hdisplay⟩ := hnumber hword
    rw [hx]
    exact ⟨x, rfl, hdisplay⟩
  · intro hword
    rw [hnone hword]

end Value

namespace Job

variable {π : Type} {j : Job π} {x v : String}

/-! ## Lines that set a variable -/

/-- A line that is read next sets a variable: a directive, or a line of a block of variables. -/
inductive Sets (j : Job π) (x v : String) : Progress → Line → Prop
  | directive {p p₁ : Progress} {place : Place} :
      j.settle p = .ok p₁ → p₁.cursor.defining = false →
        Sets j x v p ⟨"@@ set " ++ x ++ " " ++ v, place, false⟩
  | inBlock {p : Progress} {place : Place} :
      p.cursor.pending = .assignments → Sets j x v p ⟨x ++ " " ++ v, place, true⟩

/-- A name and a text behind it. -/
def definition (x v : String) : List Char := x.toList ++ ' ' :: v.toList

section Definition

variable (hx : IsName x) (hv : Value.IsWords v)
include hx hv

theorem dollar_notMem_definition : '$' ∉ definition x v := by
  have hname : '$' ∉ x.toList := hx.notMem (by decide)
  simp [definition, hname, hv.dollar_notMem]

theorem trimmed_definition : Text.Trimmed (definition x v) :=
  hx.word.trimmed.around hv.trimmed hx.word.ne_nil hv.ne_nil [' ']

theorem assign_definition (s : Store) (place : Place) :
    assign s place (String.ofList (definition x v)) = .ok (s.assign x (.ofLiteral v)) := by
  have hfirst : Text.firstWord (definition x v) = (x.toList, v.toList) := by
    rw [definition, Text.firstWord_append hx.word (by rintro c ⟨⟩; decide),
      Text.trim_blank (by decide), hv.trimmed.trim]
  have hname : x.toList.isEmpty = false := by simpa using hx.word.ne_nil
  unfold assign readAssignment
  rw [String.toList_ofList, hfirst]
  simp only [hname, Bool.false_eq_true, if_false, String.ofList_toList]
  rfl

theorem ofText_set :
    Directive.ofText (Text.trimmed (String.ofList (" set ".toList ++ definition x v))) =
      .ok (.set (String.ofList (definition x v))) := by
  have hset : Text.Word "set".toList := .of_all (by decide) (by decide)
  have htrimmed : Text.trim (" set ".toList ++ definition x v) =
      "set".toList ++ ' ' :: definition x v := by
    have hends : Text.Trimmed ("set".toList ++ ([' '] ++ definition x v)) :=
      hset.trimmed.around (trimmed_definition hx hv) hset.ne_nil (by simp [definition]) [' ']
    exact (Text.trim_blank (by decide) _).trans hends.trim
  have hfirst : Text.firstWord ("set".toList ++ ' ' :: definition x v) =
      ("set".toList, definition x v) := by
    rw [Text.firstWord_append hset (by rintro c ⟨⟩; decide), Text.trim_blank (by decide),
      (trimmed_definition hx hv).trim]
  have hne : (definition x v).isEmpty = false := by simp [definition]
  unfold Directive.ofText
  rw [Text.trimmed, String.toList_ofList, String.toList_ofList, htrimmed, hfirst]
  simp only [hne, Bool.false_eq_true, if_false]
  rfl

end Definition

/-- A directive that sets a variable, outside of definitions. -/
theorem opened_set [Page π] (hx : IsName x) (hv : Value.IsWords v) {p : Progress}
    (hdefining : p.cursor.defining = false) (load : Loader) (place : Place) :
    j.opened load p ⟨"@@ set " ++ x ++ " " ++ v, place, false⟩ =
      .ok ⟨p.store.assign x (.ofLiteral v), p.cursor⟩ := by
  have htext : ("@@ set " ++ x ++ " " ++ v).toList =
      '@' :: '@' :: (" set ".toList ++ definition x v) := by
    simp [String.toList_append, definition]
  have hkind : LineKind.of false ("@@ set " ++ x ++ " " ++ v).toList =
      .directive (" set ".toList ++ definition x v) := by
    rw [htext, LineKind.of, if_neg (by simp [isRuler])]
    rfl
  have hplain : '$' ∉ (String.ofList (" set ".toList ++ definition x v)).toList := by
    simpa using dollar_notMem_definition hx hv
  rw [opened_eq, hdefining]
  dsimp only
  rw [hkind]
  dsimp only
  rw [j.substitute_of_notMem p.store place hplain, attempt_ok, ok_bind, directed,
    ofText_set hx hv]
  dsimp only [Except.mapError]
  rw [attempt_ok, ok_bind]
  dsimp only
  rw [assign_definition hx hv, attempt_ok, ok_bind]
  rfl

/-- A line that sets a variable to words can be read, and then the variable has the value. -/
theorem feed_of_sets [Page π] (hx : IsName x) (hv : Value.IsWords v) {p : Progress} {line : Line}
    (h : j.Sets x v p line) (load : Loader) :
    ∃ p', j.feed load p line = .ok p' ∧
      p'.store.values = p.store.values.insert x (.ofLiteral v) := by
  cases h with
  | @directive p₁ place hsettle hdefining =>
      refine ⟨⟨p₁.store.assign x (.ofLiteral v), p₁.cursor⟩, ?_, ?_⟩
      · rw [feed_not_indented p (by rfl), hsettle, attempt_ok, ok_bind]
        exact opened_set hx hv hdefining load place
      · exact congrArg (Table.insert · x (.ofLiteral v)) (values_settle hsettle)
  | @inBlock place hpending =>
      refine ⟨⟨p.store.assign x (.ofLiteral v), p.cursor⟩, ?_, rfl⟩
      have htext : x ++ " " ++ v = String.ofList (definition x v) := by
        apply String.toList_inj.1
        simp [String.toList_append, definition]
      have hplain : '$' ∉ (String.ofList (definition x v)).toList := by
        simpa using dollar_notMem_definition hx hv
      rw [feed_indented p (by rfl), continued, hpending]
      dsimp only
      rw [htext, j.substitute_of_notMem p.store place hplain, ok_bind, assign_definition hx hv,
        ok_bind]
      rfl

/-! ## Lines that read a variable -/

/-- A text with an index in place of its placeholders, if there is an index. -/
def Numbered (index : Option Int) (text filled : List Char) : Prop :=
  match index with
  | none => filled = text
  | some i => Placeholder.fillChars i text = .ok filled

/-- The name of a variable in braces is replaced by a text, wherever it is read in a line.  The
line may belong to a block with an index, if the variable does not stand for the index. -/
def Recalls (j : Job π) (s : Store) (x shown : String) : Prop :=
  ∀ (index : Option Int) (place : Place) (before after : List Char)
    {before' after' first : List Char},
    (index ≠ none → x ≠ indexVariable) → Numbered index before before' →
      Numbered index after after' →
        Template.Leads (j.evaluator.evaluate (j.scope s index))
          (Template.expandChars j.properties (before' ++ (embraced x ++ after'))) first
          (Template.expandChars j.properties (embraced x ++ after')) →
            j.substitute s index place (String.ofList (before ++ (embraced x ++ after))) =
              ((Template.fillChars (j.evaluator.evaluate (j.scope s index))
                (Template.expandChars j.properties after')).map fun rest =>
                  String.ofList (first ++ (shown.toList ++ rest))).mapError (.evaluation · place)

/-- A line is read with its index put in first. -/
theorem substitute_of_numbered {s : Store} {index : Option Int} {place : Place}
    {text filled : List Char} (h : Numbered index text filled) :
    j.substitute s index place (String.ofList text) =
      ((Template.fillChars (j.evaluator.evaluate (j.scope s index))
        (Template.expandChars j.properties filled)).map String.ofList).mapError
          (.evaluation · place) := by
  cases index with
  | none =>
      obtain rfl : filled = text := h
      rw [substitute_none, Template.fill, Template.expand, String.toList_ofList,
        String.toList_ofList]
  | some i =>
      have h : Placeholder.fillChars i text = .ok filled := h
      rw [substitute, Placeholder.fill, String.toList_ofList, h]
      dsimp only [Except.map, Except.mapError]
      rw [ok_bind, Template.fill, Template.expand, String.toList_ofList, String.toList_ofList]
      rfl

theorem get?_scope {s : Store} {value : Value} {index : Option Int}
    (hvalue : s.values.get? x = some value) (hindex : index ≠ none → x ≠ indexVariable) :
    (j.scope s index).values.get? x = some value := by
  cases index with
  | none => exact hvalue
  | some i =>
      have hne : indexVariable ≠ x := Ne.symm (hindex nofun)
      exact (Table.get?_insert ..).trans ((if_neg hne).trans hvalue)

/-- A text around a variable with its index. -/
theorem numbered_embraced (hx : IsName x) {index : Option Int}
    {before before' after after' : List Char} (hbefore : Numbered index before before')
    (hafter : Numbered index after after') :
    Numbered index (before ++ (embraced x ++ after)) (before' ++ (embraced x ++ after')) := by
  cases index with
  | none =>
      obtain rfl : before' = before := hbefore
      obtain rfl : after' = after := hafter
      rfl
  | some i =>
      have hrun : '@' ∉ '\x7b' :: (x.toList ++ ['\x7d']) := by
        have hname : '@' ∉ x.toList := hx.notMem (by decide)
        simpa using hname
      have hrest : Placeholder.fillChars i ('\x7b' :: (x.toList ++ ['\x7d']) ++ after) =
          .ok ('\x7b' :: (x.toList ++ ['\x7d']) ++ after') := by
        have hafter : Placeholder.fillChars i after = .ok after' := hafter
        rw [Placeholder.fillChars_append hrun, hafter]
        rfl
      have hall := Placeholder.fillChars_append_dollar hbefore
        ('\x7b' :: (x.toList ++ ['\x7d']) ++ after)
      rw [hrest] at hall
      exact hall

/-- A variable that has a value, and is no property, is replaced by the value. -/
theorem recalls_of_get? [Page π] (hj : j.evaluator = .standard) (hx : IsName x)
    (htrue : x ≠ "true") (hfalse : x ≠ "false") (hproperty : j.properties.get? x = none)
    {s : Store} {value : Value} (hvalue : s.values.get? x = some value) :
    j.Recalls s x value.display := by
  intro index place before after before' after' first hindex hbefore hafter hleads
  have hevaluate : j.evaluator.evaluate (j.scope s index) =
      PageLayout.evaluate (j.scope s index) := by
    rw [hj]
    rfl
  rw [hevaluate, Template.expandChars_embraced hx hproperty] at hleads
  have hname : PageLayout.evaluate (j.scope s index) x = .ok value :=
    Template.evaluate_name hx htrue hfalse (get?_scope hvalue hindex)
  rw [substitute_of_numbered (numbered_embraced hx hbefore hafter), hevaluate,
    hleads.fillChars_embraced hname]
  cases Template.fillChars (PageLayout.evaluate (j.scope s index))
    (Template.expandChars j.properties after') <;> rfl

/-- No expression starts before the first dollar sign of a line. -/
theorem Recalls.substitute_eq {s : Store} {shown : String} (h : j.Recalls s x shown)
    (before : String) (hbefore : '$' ∉ before.toList) (place : Place) :
    j.substitute s none place (String.ofList (before.toList ++ embraced x)) =
      .ok (before ++ shown) := by
  have hleads : Template.Leads (j.evaluator.evaluate (j.scope s none))
      (Template.expandChars j.properties (before.toList ++ (embraced x ++ []))) before.toList
      (Template.expandChars j.properties (embraced x ++ [])) := by
    rw [Template.expandChars_append_of_notMem hbefore]
    exact Template.leads_of_notMem hbefore _
  have hline := h none place before.toList [] (fun hnone => absurd rfl hnone) rfl rfl hleads
  rw [List.append_nil] at hline
  rw [hline, Template.expandChars, Template.fillChars]
  refine congrArg Except.ok (String.toList_inj.1 ?_)
  simp

end Job

namespace Compiler

variable {π : Type} [Page π]

/-- What is read in the compilation of a file or of a text. -/
inductive Reads (c : Compiler π) (page : Option π) : List Excerpt → Prop
  | file (path : String) : Reads c page (c.excerpts page path)
  | text (text label : String) : Reads c page (c.excerptsOfText page text label)

theorem flows_of_reads {c : Compiler π} {page : Option π} {xs : List Excerpt}
    (h : c.Reads page xs) : (⟨c, page⟩ : Job π).Flows .empty xs := by
  cases h with
  | file path => exact c.flows_excerpts page path
  | text text label => exact c.flows_excerptsOfText page text label

/-- A line that sets a variable to words gives it a value: the words themselves, unless they
are a word for a number.  In every line that is read later, in whatever file and until a line
sets the variable again, its name in braces is replaced by the text of this value. -/
theorem words_recalled (c : Compiler π) (page : Option π) (hc : c.evaluator = .standard)
    {x v : String} (hx : IsName x) (htrue : x ≠ "true") (hfalse : x ≠ "false")
    (hproperty : c.properties.get? x = none) (hv : Value.IsWords v) :
    (∀ load p line, (⟨c, page⟩ : Job π).Sets x v p line →
      ∃ p', (⟨c, page⟩ : Job π).feed load p line = .ok p' ∧
        p'.store.values = p.store.values.insert x (.ofLiteral v)) ∧
    (¬Decimal.IsNumberWord v.toList →
      Value.ofLiteral v = .text v ∧ (Value.ofLiteral v).display = v) ∧
    (Decimal.IsNumberWord v.toList → ∃ number, Value.ofLiteral v = .number number ∧
      (Value.ofLiteral v).display ∈ Decimal.wordTexts) ∧
    ∀ earlier middle later p q line line',
      c.Reads page (earlier ++ .line p line :: (middle ++ .line q line' :: later)) →
        (⟨c, page⟩ : Job π).Sets x v p line → NeverSet (⟨c, page⟩ : Job π) x middle →
          ∀ s : Store, s.values = q.store.values →
            (⟨c, page⟩ : Job π).Recalls s x (Value.ofLiteral v).display := by
  obtain ⟨hnumber, htext⟩ := Value.ofLiteral_words hv
  refine ⟨fun load p line h => Job.feed_of_sets hx hv h load, ?_, hnumber, ?_⟩
  · intro hword
    rw [htext hword]
    exact ⟨rfl, rfl⟩
  · intro earlier middle later p q line line' hreads hsets hnever s hs
    obtain ⟨p', hp', hvalues⟩ := Job.feed_of_sets hx hv hsets Job.skip
    apply Job.recalls_of_get? hc hx htrue hfalse hproperty
    rw [hs, (flows_of_reads hreads).get?_later hnever, Job.valuesAfter_of_ok hp', hvalues,
      Table.get?_insert, if_pos rfl]

/-- A file that imports its colors. -/
def colorSample : Compiler Snapshot :=
  ⟨⟨2.0, true⟩, .empty, .standard, .memory
    [("main.spec", "@@ import colors.spec\nmenu\n text is: $\x7bcolor\x7d\n"),
      ("colors.spec", "@@ set\n color dark blue\n tone pale\n")]⟩

/-- What is pending before a line, the text of the line, and the names that it sets. -/
def summary (c : Compiler Snapshot) : Excerpt → Option (Pending × Line × List String)
  | .text _ _ => none
  | .line p l => some (p.cursor.pending, l, (⟨c, none⟩ : Job Snapshot).namesSet p l)

theorem line_of_summary {c : Compiler Snapshot} {x : Excerpt} {pending : Pending} {l : Line}
    {names : List String} (h : c.summary x = some (pending, l, names)) :
    ∃ p, x = .line p l ∧ p.cursor.pending = pending ∧
      (⟨c, none⟩ : Job Snapshot).namesSet p l = names := by
  cases x with
  | text path text => cases h
  | line p l =>
      cases h
      exact ⟨p, rfl, rfl, rfl⟩

/-- A color is set in a block of another file, and read where it was imported. -/
theorem words_recalled_color :
    Value.ofLiteral "dark blue" = .text "dark blue" ∧
      ∃ earlier middle later p q line line',
        colorSample.excerpts none "main.spec" =
          earlier ++ .line p line :: (middle ++ .line q line' :: later) ∧
        line.text = "color dark blue" ∧ line'.text = "text is: $\x7bcolor\x7d" ∧
        (⟨colorSample, none⟩ : Job Snapshot).substitute q.store none line'.place line'.text =
          .ok "text is: dark blue" := by
  have hx : IsName "color" :=
    @Token.Spelled.name 'c' ['o', 'l', 'o', 'r'] (by decide) (List.all_eq_true.mp rfl) (by decide)
  have hv : Value.IsWords "dark blue" := by decide
  have hword : ¬Decimal.IsNumberWord "dark blue".toList := by decide
  obtain ⟨_, htext, _, hrecalls⟩ :=
    words_recalled colorSample none rfl hx (by decide) (by decide) (by decide) hv
  refine ⟨(htext hword).1, ?_⟩
  -- What is read: the import, the block of variables, and the object with its rule.
  have hread : (colorSample.excerpts none "main.spec").map colorSample.summary =
      [none, some (.nothing, ⟨"@@ import colors.spec", ⟨"main.spec", 1⟩, false⟩, []),
        none, some (.nothing, ⟨"@@ set", ⟨"colors.spec", 1⟩, false⟩, [])] ++
      some (.assignments, ⟨"color dark blue", ⟨"colors.spec", 2⟩, true⟩, ["color"]) ::
        ([some (.assignments, ⟨"tone pale", ⟨"colors.spec", 3⟩, true⟩, ["tone"]),
          some (.nothing, ⟨"menu", ⟨"main.spec", 2⟩, false⟩, [])] ++
        some (.object ⟨⟨"menu", ⟨"main.spec", 2⟩, false⟩, none, []⟩,
          ⟨"text is: $\x7bcolor\x7d", ⟨"main.spec", 3⟩, true⟩, []) :: []) := by
    decide +kernel
  obtain ⟨earlier, rest, hxs, -, hrest⟩ := List.map_eq_append_iff.1 hread
  obtain ⟨x, rest, rfl, hset, hrest⟩ := List.map_eq_cons_iff.1 hrest
  obtain ⟨middle, rest, rfl, hmiddle, hrest⟩ := List.map_eq_append_iff.1 hrest
  obtain ⟨y, later, rfl, hused, -⟩ := List.map_eq_cons_iff.1 hrest
  obtain ⟨p, rfl, hpending, -⟩ := line_of_summary hset
  obtain ⟨q, rfl, -, -⟩ := line_of_summary hused
  have hnever : NeverSet (⟨colorSample, none⟩ : Job Snapshot) "color" middle := by
    obtain ⟨tone, rest, rfl, htone, hrest⟩ := List.map_eq_cons_iff.1 hmiddle
    obtain ⟨menu, rest, rfl, hmenu, hrest⟩ := List.map_eq_cons_iff.1 hrest
    obtain rfl := List.map_eq_nil_iff.1 hrest
    obtain ⟨_, rfl, -, htone⟩ := line_of_summary htone
    obtain ⟨_, rfl, -, hmenu⟩ := line_of_summary hmenu
    simp [NeverSet, Excerpt.namesSet, htone, hmenu]
  have hreads : colorSample.Reads none (colorSample.excerpts none "main.spec") :=
    .file "main.spec"
  rw [hxs] at hreads
  have hrecalls := hrecalls _ _ _ _ _ _ _ hreads (.inBlock hpending) hnever q.store rfl
  refine ⟨earlier, middle, later, p, q, _, _, hxs, rfl, rfl, ?_⟩
  rw [(htext hword).2] at hrecalls
  exact hrecalls.substitute_eq "text is: " (by decide) _

/-- A label whose text is a word for the undefined number. -/
def undefinedLabel : String := "@@ set label nan\nmenu\n text is: $\x7blabel\x7d\n"

/-- The word is kept as a number, and is not written as it was read. -/
theorem not_recalled_nan :
    IsName "label" ∧ colorSample.properties.get? "label" = none ∧
      Value.IsWords "nan" ∧ Value.ofLiteral "nan" ≠ .text "nan" ∧
      ∃ l, colorSample.compileText none undefinedLabel "menu.spec" = .ok l ∧
        l.everyRule.map Rule.text = ["text is: NaN"] := by
  have hx : IsName "label" :=
    @Token.Spelled.name 'l' ['a', 'b', 'e', 'l'] (by decide) (List.all_eq_true.mp rfl) (by decide)
  have hv : Value.IsWords "nan" := by decide
  have hvalue : Value.ofLiteral "nan" ≠ .text "nan" := by decide +kernel
  exact ⟨hx, rfl, hv, hvalue, exists_ok_of_toOption (by decide +kernel)⟩

end Compiler

end PageLayout
