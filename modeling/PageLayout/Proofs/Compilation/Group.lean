import PageLayout.Proofs.Compilation.Count
import PageLayout.Proofs.Compilation.WrittenOut
import PageLayout.Proofs.Requirement.Blanks
import PageLayout.Proofs.Text.Indexes
import PageLayout.Proofs.Text.Separators

/-!
# A block for each element of a group

A group of objects has as many elements as its selector has matches, and a list of indexes can
count them.  So the block below such a list is repeated once for each match.
`compileText_group` follows the number of matches from the page to the layout: through the
names of the group, the count of the names, its digits and the list that is read from them.
-/

namespace PageLayout

/-! ## The stem of the names -/

/-- A character of a stem. -/
def isStemPart (c : Char) : Bool := isLatinLetter c || isLatinDigit c || c == '-' || c == '_'

/-- What the names of a group can start with: a letter, and then letters, digits, hyphens and
underscores. -/
structure IsStem (stem : List Char) : Prop where
  head : ∃ c cs, stem = c :: cs ∧ isLatinLetter c = true
  parts : ∀ c ∈ stem, isStemPart c = true

namespace IsStem

variable {stem : List Char}

theorem notMem (h : IsStem stem) {c : Char} (hc : isStemPart c = false) : c ∉ stem := by
  intro hmem
  rw [h.parts c hmem] at hc
  cases hc

theorem ne_nil (h : IsStem stem) : stem ≠ [] := by
  obtain ⟨c, cs, rfl, _⟩ := h.head
  exact List.cons_ne_nil c cs

theorem head?_ne (h : IsStem stem) {c : Char} (hc : isLatinLetter c = false) (cs : List Char) :
    (stem ++ cs).head? ≠ some c := by
  obtain ⟨d, ds, rfl, hd⟩ := h.head
  rintro ⟨⟩
  rw [hd] at hc
  cases hc

/-- A text that starts with a stem is no ruler. -/
theorem isRuler_append (h : IsStem stem) {c : Char} (hc : isLatinLetter c = false)
    (cs : List Char) : isRuler c (stem ++ cs) = false := by
  have hhead := h.head?_ne hc cs
  obtain ⟨d, ds, rfl, -⟩ := h.head
  have hne : d ≠ c := fun hd => hhead (congrArg some hd)
  rw [isRuler, List.cons_append, List.all_cons, beq_false_of_ne hne, Bool.false_and,
    Bool.and_false]

theorem not_isBlank (h : IsStem stem) : ∀ c ∈ stem, isBlank c = false := by
  have hall : (Token.blankChars.all fun c => !isStemPart c) = true := by decide
  intro c hc
  refine Bool.eq_false_iff.2 fun hb => ?_
  have hpart := List.all_eq_true.1 hall c (Token.mem_blankChars hb)
  rw [h.parts c hc] at hpart
  cases hpart

theorem word (h : IsStem stem) : Text.Word stem := ⟨h.ne_nil, h.not_isBlank⟩

/-- A stem with a placeholder is the name of an object. -/
theorem objectName (h : IsStem stem) : LineKind.of false (stem ++ ['@']) = .objectName := by
  rw [LineKind.of_eq_objectName_iff]
  refine ⟨h.isRuler_append (by decide) _, h.head?_ne (by decide) _,
    h.isRuler_append (by decide) _, ?_⟩
  rw [bracketed?, beq_false_of_ne (h.head?_ne (by decide) _), Bool.false_and]

end IsStem

/-! ## The rows -/

/-- The row of a list that counts a group. -/
def countRow (stem : List Char) : List Char :=
  "[1 to $\x7bcount(\"".toList ++ stem ++ "*\")\x7d]".toList

/-- The rows of a text that declares a group, counts its elements and repeats a block for
each of them. -/
def groupRows (stem selector : List Char) (rules : List (List Char)) : List (List Char) :=
  "===".toList :: (stem ++ "* css ".toList ++ selector) :: "===".toList :: countRow stem ::
    (stem ++ ['@']) :: rules.map ("    ".toList ++ ·)

/-! ## The row of the list -/

/-- The row of the list, with its expression set apart. -/
theorem countRow_eq (stem : List Char) :
    countRow stem = ['[', '1', ' ', 't', 'o', ' '] ++
      '$' :: '\x7b' :: (countText (stem ++ ['*']) ++ '\x7d' :: [']']) := by
  unfold countRow countText
  simp

/-- A text between brackets. -/
theorem bracketed?_around (cs : List Char) : bracketed? ('[' :: (cs ++ [']'])) = true := by
  have hlast : ('[' :: (cs ++ [']'])).getLast? = some ']' := by
    rw [← List.cons_append, List.getLast?_concat]
  rw [bracketed?, hlast]
  rfl

theorem bracketed?_countRow (stem : List Char) : bracketed? (countRow stem) = true := by
  have hrow : countRow stem =
      '[' :: (("1 to $\x7bcount(\"".toList ++ stem ++ "*\")\x7d".toList) ++ [']']) := by
    unfold countRow
    simp
  rw [hrow]
  exact bracketed?_around _

/-- A list in brackets has no blanks around it. -/
theorem trimmed_of_bracketed {cs : List Char} (h : bracketed? cs = true) : Text.Trimmed cs := by
  rw [bracketed?, Bool.and_eq_true, beq_iff_eq, beq_iff_eq] at h
  constructor
  · intro c hc
    rw [h.1] at hc
    cases hc
    rfl
  · intro c hc
    rw [h.2] at hc
    cases hc
    rfl

/-- The row of a list that goes from one to a number. -/
def listRow (count : Nat) : List Char :=
  ['[', '1', ' ', 't', 'o', ' '] ++ ((toString (count : Int)).toList ++ [']'])

/-- The indexes of a list from one on. -/
theorem read_listRow {count : Nat} (h : count ≤ indexLimit) :
    IndexList.read (String.ofList (dropBrackets (listRow count))) =
      .ok (IndexList.interval 1 count) := by
  let bounds := ['1', ' ', 't', 'o', ' '] ++ (toString (count : Int)).toList
  have hlast : ∀ c ∈ bounds.getLast?, (c == ']') = false := by
    obtain ⟨d, hd, hdigit⟩ := Placeholder.getLast?_toString count
    intro c hc
    rw [List.getLast?_append, hd] at hc
    cases hc
    refine beq_false_of_ne ?_
    rintro rfl
    exact absurd hdigit (by decide)
  have hbrackets : dropBrackets (listRow count) = bounds := by
    show Text.dropEndWhile (· == ']') (bounds ++ [']']) = bounds
    rw [Text.dropEndWhile_concat (by rfl), Text.dropEndWhile_of_getLast hlast]
  have hbounds : String.ofList bounds = toString (1 : Int) ++ " to " ++ toString (count : Int) := by
    rw [← String.toList_inj, String.toList_ofList, String.toList_append, String.toList_append,
      List.append_assoc]
    simp only [bounds, List.cons_append, List.nil_append]
    rfl
  have hlimit : (indexLimit : Int) = 10000 := rfl
  have hcount : (count : Int) ≤ 10000 := Int.ofNat_le.2 h
  have hfits : Decimal.fitsInt64 count = true := by
    rw [Decimal.fitsInt64, Bool.and_eq_true, decide_eq_true_eq, decide_eq_true_eq, Decimal.leastInt,
      Decimal.greatestInt]
    omega
  rw [hbrackets, hbounds]
  exact IndexList.read_range rfl hfits (by omega)

namespace Line

variable {file : String} {above number : Nat} {raw : List Char} {rows : List (List Char)}

/-- A row that starts with ink is a line that is not indented. -/
theorem scanFrom_trimmed {c : Char} (hhead : raw.head? = some c) (hc : c ≠ '#')
    (htrimmed : Text.Trimmed raw) :
    scanFrom file above number (raw :: rows) = (do
      let lines ← scanFrom file 0 (number + 1) rows
      return ⟨String.ofList raw, ⟨file, number⟩, false⟩ :: lines) := by
  have hblank := htrimmed.head c hhead
  have htrim := htrimmed.trim
  obtain ⟨cs, rfl⟩ := List.head?_eq_some_iff.1 hhead
  have hsilent : isSilent (c :: cs) = false := by
    rw [isSilent, htrimmed.trimStart]
    exact beq_false_of_ne hc
  have hmargin : margin (c :: cs) = [] := List.takeWhile_cons_of_neg (by simp [hblank])
  rw [scanFrom, hsilent, hmargin, htrim]
  rfl

/-- Rows below four spaces are indented lines, if they say anything. -/
theorem exists_scanFrom_rules (file : String) {rules : List (List Char)}
    (h : ∀ rule ∈ rules, ∀ c ∈ rule.head?, isBlank c = false ∧ c ≠ '#')
    (habove : above = 0 ∨ above = 4) (number : Nat) :
    ∃ lines, scanFrom file above number (rules.map ("    ".toList ++ ·)) = .ok lines ∧
      ∀ line ∈ lines, line.indented = true ∧
        ∃ rule ∈ rules, line.text = String.ofList (Text.trim rule) := by
  induction rules generalizing above number with
  | nil => exact ⟨[], rfl, nofun⟩
  | cons rule rules ih =>
      have hrest : ∀ rule ∈ rules, ∀ c ∈ rule.head?, isBlank c = false ∧ c ≠ '#' :=
        fun rule hrule => h rule (List.mem_cons_of_mem _ hrule)
      cases rule with
      | nil =>
          obtain ⟨lines, hlines, hall⟩ := ih hrest habove (number + 1)
          refine ⟨lines, hlines, fun line hline => ?_⟩
          obtain ⟨hindented, rule, hrule, htext⟩ := hall line hline
          exact ⟨hindented, rule, List.mem_cons_of_mem _ hrule, htext⟩
      | cons c cs =>
          obtain ⟨hblank, hc⟩ := h (c :: cs) List.mem_cons_self c rfl
          have hspaces : ∀ b ∈ "    ".toList, isBlank b = true := List.all_eq_true.mp rfl
          have hhead : ∀ d ∈ (c :: cs).head?, isBlank d = false := by
            rintro d ⟨⟩
            exact hblank
          have hsilent : isSilent ("    ".toList ++ c :: cs) = false := by
            rw [isSilent, Text.trimStart, Text.dropWhile_run hspaces hhead]
            exact beq_false_of_ne hc
          have hmargin : margin ("    ".toList ++ c :: cs) = "    ".toList :=
            Text.takeWhile_run hspaces hhead
          have htrim : Text.trim ("    ".toList ++ c :: cs) = Text.trim (c :: cs) := by
            rw [Text.trim, Text.trim, Text.trimStart, Text.dropWhile_run hspaces hhead,
              Text.trimStart, List.dropWhile_cons_of_neg (by simp [hblank])]
          have hwidth : (marginFault? "    ".toList).or (widthFault? above "    ".toList.length) =
              none := by
            obtain rfl | rfl := habove <;> rfl
          obtain ⟨lines, hlines, hall⟩ := ih hrest (.inr rfl) (number + 1)
          refine ⟨⟨String.ofList (Text.trim (c :: cs)), ⟨file, number⟩, true⟩ :: lines, ?_, ?_⟩
          · rw [List.map_cons, scanFrom, hsilent, hmargin, htrim]
            dsimp only
            rw [hwidth]
            show (scanFrom file 4 (number + 1) _ >>= _) = _
            rw [hlines]
            rfl
          · intro line hline
            obtain rfl | hline := List.mem_cons.1 hline
            · exact ⟨rfl, c :: cs, List.mem_cons_self, rfl⟩
            · obtain ⟨hindented, rule, hrule, htext⟩ := hall line hline
              exact ⟨hindented, rule, List.mem_cons_of_mem _ hrule, htext⟩

end Line

/-! ## The names -/

theorem mem_groupDeclarations {stem : String} {l : Locator} {place : Place} {count : Nat}
    {d : Declaration} :
    d ∈ groupDeclarations stem l place 1 count ↔
      ∃ i, 1 ≤ i ∧ i ≤ count ∧ d = ⟨stem ++ toString i, l.withIndex i, place⟩ := by
  simp only [groupDeclarations, List.mem_map, List.mem_range'_1, Nat.lt_one_add_iff, and_assoc,
    eq_comm]

/-- The elements of a group have different names. -/
theorem nodup_groupDeclarations (stem : String) (locator : Locator) (place : Place)
    (index count : Nat) :
    ((groupDeclarations stem locator place index count).map Declaration.name).Nodup := by
  rw [groupDeclarations, List.map_map]
  refine List.Nodup.map (fun i i' h => ?_) List.nodup_range'
  have htext : toString (i : Int) = toString (i' : Int) := (String.append_right_inj stem).1 h
  exact Int.ofNat.inj (eq_of_toString_eq htext)

/-- The elements of a group can be declared where nothing else was. -/
theorem exists_declareAll_group (stem : String) (locator : Locator) (place : Place) (count : Nat) :
    ∃ t, (Table.empty : Table Locator).declareAll
        (groupDeclarations stem locator place 1 count) = .ok t ∧
      t.Holds (groupDeclarations stem locator place 1 count) := by
  obtain ⟨t, ht⟩ := Table.holds_empty.exists_declareAll
    (nodup_groupDeclarations stem locator place 1 count)
  exact ⟨t, ht, Table.holds_empty.declareAll ht⟩

/-- All elements of a group are counted by its name. -/
theorem countMatching_group {π : Type} {s : Scope π} {stem : List Char} {locator : Locator}
    {place : Place} {count : Nat} (hstem : IsStem stem)
    (h : s.objects.Holds (groupDeclarations (String.ofList stem) locator place 1 count)) :
    s.countMatching (String.ofList (stem ++ ['*'])) = count := by
  have hall : ∀ d ∈ groupDeclarations (String.ofList stem) locator place 1 count,
      Glob.holds (String.ofList (stem ++ ['*'])).toList d.name.toList = true := by
    intro d hd
    obtain ⟨i, -, rfl⟩ := List.mem_map.1 hd
    have hline : '\n' ∉ (toString (i : Int)).toList := fun hc =>
      absurd (Placeholder.isIndexPart_of_mem hc) (by decide)
    rw [Glob.holds_iff, String.toList_ofList, String.toList_append, String.toList_ofList]
    refine Glob.Matches.append (hstem.notMem (by decide)) ?_
    rw [← List.append_nil (toString i).toList]
    exact .star hline .nil
  rw [Scope.countMatching_eq h, List.filter_eq_self.2 hall, groupDeclarations, List.length_map,
    List.length_range']

/-! ## The definitions -/

theorem SelectorKind.ofWord?_word (kind : SelectorKind) : ofWord? kind.word = some kind := by
  cases kind <;> decide

theorem SelectorKind.word_word (kind : SelectorKind) : Text.Word kind.word.toList := by
  cases kind <;> exact .of_all (by decide) (by decide)

/-- A definition is a name, the word of a kind and a selector, with blanks between them. -/
theorem readDefinition_spaced {name blanks gap selector : List Char} (kind : SelectorKind)
    (hname : Text.Word name) (hblanks : Text.AllBlank blanks) (hblanksNe : blanks ≠ [])
    (hgap : Text.AllBlank gap) (hgapNe : gap ≠ []) (hselector : Text.Trimmed selector)
    (hne : selector ≠ []) :
    readDefinition (String.ofList (name ++ (blanks ++ (kind.word.toList ++ (gap ++ selector))))) =
      .ok (name, ⟨kind, String.ofList selector, none⟩) := by
  have hhead : ∀ {run : List Char}, Text.AllBlank run → run ≠ [] → ∀ rest : List Char,
      ∀ c ∈ (run ++ rest).head?, isBlank c = true := by
    intro run hrun hrunNe rest c hc
    obtain ⟨b, bs, rfl⟩ := List.exists_cons_of_ne_nil hrunNe
    exact hrun c (Option.some.inj hc ▸ List.mem_cons_self)
  have hkind := kind.word_word
  have hrest : Text.Trimmed (kind.word.toList ++ (gap ++ selector)) :=
    hkind.trimmed.around hselector hkind.ne_nil hne gap
  rw [readDefinition, String.toList_ofList, Text.firstWord_append hname (hhead hblanks hblanksNe _),
    Text.trim_allBlank_append hblanks, hrest.trim]
  dsimp only
  rw [Text.firstWord_append hkind (hhead hgap hgapNe _), Text.trim_allBlank_append hgap,
    hselector.trim]
  dsimp only
  rw [List.isEmpty_eq_false_iff.2 hkind.ne_nil, List.isEmpty_eq_false_iff.2 hne,
    String.ofList_toList, kind.ofWord?_word]
  rfl

namespace Job

variable {π : Type} [Page π] {j : Job π} {load : Loader}

/-- A group of css matches is read from its definition. -/
theorem readDefinition_group {stem selector : List Char} (hstem : IsStem stem)
    (hselector : Text.Trimmed selector) (hne : selector ≠ []) :
    readDefinition (String.ofList (stem ++ "* css ".toList ++ selector)) =
      .ok (stem ++ ['*'], ⟨.css, String.ofList selector, none⟩) := by
  have hname : Text.Word (stem ++ ['*']) :=
    hstem.word.append (.of_all (List.cons_ne_nil _ _) (by decide))
  have hblank : Text.AllBlank [' '] := List.forall_mem_singleton.2 rfl
  have htext : stem ++ "* css ".toList ++ selector =
      (stem ++ ['*']) ++ ([' '] ++ (SelectorKind.css.word.toList ++ ([' '] ++ selector))) := by
    simp [SelectorKind.word]
  rw [htext]
  exact readDefinition_spaced .css hname hblank (List.cons_ne_nil _ _) hblank (List.cons_ne_nil _ _)
    hselector hne

/-- The definition of a group declares its elements. -/
theorem define_group {page : π} {stem selector : List Char} (hpage : j.page = some page)
    (hstem : IsStem stem) (hselector : Text.Trimmed selector) (hne : selector ≠ [])
    (hdollar : '$' ∉ selector) (s : Store) (place : Place) :
    j.define s ⟨String.ofList (stem ++ "* css ".toList ++ selector), place, false⟩ =
      s.declareAll (groupDeclarations (String.ofList stem) ⟨.css, String.ofList selector, none⟩
        place 1 (Page.count page ⟨.css, String.ofList selector, none⟩)) := by
  have htext : '$' ∉ (String.ofList (stem ++ "* css ".toList ++ selector)).toList := by
    rw [String.toList_ofList]
    intro hmem
    rcases List.mem_append.1 hmem with hmem | hmem
    · obtain hmem | hmem := List.mem_append.1 hmem
      · exact hstem.notMem (by decide) hmem
      · exact absurd hmem (by decide)
    · exact hdollar hmem
  rw [define_eq, declarationsOf, j.substitute_of_notMem s place htext, ok_bind,
    readDefinition_group hstem hselector hne]
  show s.declareAll (j.declarationsFor (stem ++ ['*']) _ place) = _
  rw [declarationsFor, Text.dropSuffix?_append, hpage]

/-- A definition between two rulers. -/
theorem readTo_definition (s : Store) {text : String} (hruler : isRuler '=' text.toList = false)
    (above place below : Place) :
    j.readTo load ⟨s, .start⟩
        [⟨"===", above, false⟩, ⟨text, place, false⟩, ⟨"===", below, false⟩] =
      s.attempt (j.define s ⟨text, place, false⟩) >>= fun s' => .ok ⟨s', .start⟩ := by
  let inside : Cursor := ⟨none, .nothing, none, none, true⟩
  have hdefinition : LineKind.of true text.toList = .definition := by
    unfold LineKind.of
    rw [hruler]
    rfl
  have hkind : ∀ defining, LineKind.of defining "===".toList = .definitionRuler := by decide
  have hopened : j.feed load ⟨s, .start⟩ ⟨"===", above, false⟩ = .ok ⟨s, inside⟩ := by
    rw [feed_not_indented _ rfl, settle_nothing rfl, attempt_ok, ok_bind, opened_eq, hkind]
    rfl
  have hdeclared : j.feed load ⟨s, inside⟩ ⟨text, place, false⟩ =
      s.attempt (j.define s ⟨text, place, false⟩) >>= fun s' => .ok ⟨s', inside⟩ := by
    rw [feed_not_indented _ rfl, settle_nothing rfl, attempt_ok, ok_bind, opened_eq, hdefinition]
    rfl
  have hclosed : ∀ s', j.feed load ⟨s', inside⟩ ⟨"===", below, false⟩ = .ok ⟨s', .start⟩ := by
    intro s'
    rw [feed_not_indented _ rfl, settle_nothing rfl, attempt_ok, ok_bind, opened_eq, hkind]
    rfl
  unfold readTo
  rw [List.foldlM_cons, hopened, ok_bind, List.foldlM_cons, hdeclared]
  cases s.attempt (j.define s ⟨text, place, false⟩) with
  | error a => rfl
  | ok s' =>
      rw [ok_bind, ok_bind, ok_bind, List.foldlM_cons, hclosed, ok_bind]
      rfl

/-! ## The list -/

/-- The count of a group is replaced by the number of its elements. -/
theorem substitute_countRow {stem : List Char} {count : Nat} (hstem : IsStem stem)
    (hproperties : j.properties = .empty) (hevaluator : j.evaluator = .standard) (s : Store)
    (place : Place)
    (hcount : (j.scope s none).countMatching (String.ofList (stem ++ ['*'])) = count)
    (hdigits : Number.pixels (Float.ofNat count) = toString count) :
    j.substitute s none place (String.ofList (countRow stem)) =
      .ok (String.ofList (listRow count)) := by
  have hquote : '"' ∉ stem ++ ['*'] := by
    rw [List.mem_append, not_or]
    exact ⟨hstem.notMem (by decide), by decide⟩
  have hfill : Template.fillChars (evaluate (j.scope s none)) (countRow stem) =
      .ok (listRow count) := by
    rw [countRow_eq, Template.fillChars_count _ (by decide) hquote (by decide), hcount, hdigits]
    rfl
  rw [substitute_none, hproperties, hevaluator, Template.expand, String.toList_ofList,
    Template.expandChars_empty, Template.fill, String.toList_ofList]
  show (((Template.fillChars (evaluate (j.scope s none)) _).map String.ofList).mapError _) = _
  rw [hfill]
  rfl

/-! ## The block -/

/-- Steps that all give something give it one after another. -/
theorem exists_mapM {ε α β γ : Type} {f : α → Except ε β} {g : β → γ} {h : α → γ} {as : List α}
    (hf : ∀ a ∈ as, ∃ b, f a = .ok b ∧ g b = h a) :
    ∃ bs, as.mapM f = .ok bs ∧ bs.map g = as.map h := by
  induction as with
  | nil => exact ⟨[], rfl, rfl⟩
  | cons a as ih =>
      obtain ⟨b, hb, hg⟩ := hf a List.mem_cons_self
      obtain ⟨bs, hbs, hmap⟩ := ih fun a ha => hf a (List.mem_cons_of_mem _ ha)
      rw [List.mapM_cons, hb, hbs]
      exact ⟨b :: bs, rfl, by rw [List.map_cons, List.map_cons, hg, hmap]⟩

omit [Page π] in
/-- A rule that can be read with an index is read with it. -/
theorem exists_ruleOf {rule filled : List Char} {i : Int} {r : Requirement} (s : Store) {line : Line}
    (hdollar : '$' ∉ rule) (hfilled : Placeholder.fillChars i rule = .ok filled)
    (hr : Requirement.ofText j.settings.approximation (String.ofList filled) = .ok r)
    (htext : line.text = String.ofList (Text.trim rule)) :
    ∃ read, j.ruleOf s (some i) line = .ok read := by
  have hline : '$' ∉ line.text.toList := by
    rw [htext, String.toList_ofList]
    exact fun hmem => hdollar <| (List.dropWhile_suffix _).subset <|
      (Text.dropEndWhile_isPrefix _ _).subset hmem
  let copy : Line := ⟨String.ofList (Text.trim filled), line.place, line.indented⟩
  have hcopy : Line.CopyOf i line copy := by
    refine ⟨rfl, rfl, ?_⟩
    rw [Placeholder.fill, htext, String.toList_ofList, Placeholder.fillChars_trim hfilled]
    rfl
  have hrTrim : Requirement.ofText j.settings.approximation copy.text = .ok r := by
    have hoption : (Requirement.ofText j.settings.approximation copy.text).toOption = _ :=
      Requirement.toOption_ofText_trim filled
    rw [hr] at hoption
    cases hread : Requirement.ofText j.settings.approximation copy.text with
    | error fault =>
        rw [hread] at hoption
        cases hoption
    | ok r' =>
        rw [hread] at hoption
        cases hoption
        rfl
  -- A requirement does not start with a percent sign, so there is no mark to be split off.
  have hmark : splitWarning copy.text = (false, copy.text) := by
    unfold splitWarning
    split
    next rest heq =>
      have htext : copy.text = String.ofList ('%' :: rest) := by rw [← heq, String.ofList_toList]
      rw [htext] at hrTrim
      exact absurd hrTrim (Requirement.ofText_percent rest r)
    next => rfl
  rw [j.ruleOf_copy s hcopy hline]
  have hcopyDollar := Placeholder.dollar_notMem_of_fill hline hcopy.text
  rw [ruleOf, j.substitute_of_notMem s copy.place hcopyDollar, ok_bind, hmark]
  dsimp only
  rw [hrTrim]
  exact ⟨_, rfl⟩

omit [Page π] in
/-- The block is read with each index, for the element of that number. -/
theorem exists_repetitionOf {stem : List Char} (hstem : IsStem stem) (s : Store) (place : Place)
    {indexes : Option (List Int)} {lines : List Line} (i : Int)
    (hlines : ∀ line ∈ lines, ∃ read, j.ruleOf s (some i) line = .ok read) :
    ∃ o, j.repetitionOf s ⟨⟨String.ofList (stem ++ ['@']), place, false⟩, indexes, lines⟩ (some i) =
        .ok o ∧ o.object = String.ofList stem ++ toString i := by
  let copy : Line := ⟨String.ofList (stem ++ (toString i).toList), place, false⟩
  have hfill : Placeholder.fillChars i (stem ++ ['@']) = .ok (stem ++ (toString i).toList) := by
    rw [Placeholder.fillChars_append (hstem.notMem (by decide)), Placeholder.fillChars_index rfl,
      Placeholder.fillChars_nil]
    show Except.ok (stem ++ ((toString i).toList ++ [])) = _
    rw [List.append_nil]
  have hcopy : Line.CopyOf i ⟨String.ofList (stem ++ ['@']), place, false⟩ copy := by
    refine ⟨rfl, rfl, ?_⟩
    rw [Placeholder.fill, String.toList_ofList, hfill]
    rfl
  have hname : j.substitute s (some i) place (String.ofList (stem ++ ['@'])) = .ok copy.text := by
    have hdollar : '$' ∉ (String.ofList (stem ++ ['@'])).toList := by
      rw [String.toList_ofList, List.mem_append, not_or]
      exact ⟨hstem.notMem (by decide), by decide⟩
    have hcopyDollar : '$' ∉ copy.text.toList := Placeholder.dollar_notMem_of_fill hdollar hcopy.text
    exact (j.substitute_copy s hcopy hdollar).trans (j.substitute_of_notMem s place hcopyDollar)
  obtain ⟨rules, hrules, -⟩ := exists_mapM (g := fun _ => ()) (h := fun _ => ()) fun line hline =>
    (hlines line hline).imp fun _ hread => ⟨hread, rfl⟩
  have htrimmed : Text.trimmed copy.text = String.ofList stem ++ toString i := by
    have hword : Text.Word (stem ++ (toString i).toList) := by
      refine ⟨List.append_ne_nil_of_left_ne_nil hstem.ne_nil _, fun c hc => ?_⟩
      obtain hc | hc := List.mem_append.1 hc
      · exact hstem.not_isBlank c hc
      · exact (Placeholder.word_toString i).ink c hc
    rw [Text.trimmed, String.toList_ofList, hword.trimmed.trim, String.ofList_append,
      String.ofList_toList]
  rw [repetitionOf]
  dsimp only
  rw [hname, ok_bind, hrules, ok_bind]
  exact ⟨_, rfl, htrimmed⟩

/-- The sections of a file with the rules of one block and no header. -/
def sectionsOf (objects : List ObjectRules) (place : Place) : List Section :=
  if objects = [] then [] else [{ Section.opened "" [] place with objects := objects }]

omit [Page π] in
theorem finish_attach (trail : Trail) (values : Table Value) (t : Table Locator)
    (objects : List ObjectRules) (place : Place) :
    j.finish ((Progress.mk ⟨trail, values, t, []⟩ .start).attach objects place) =
      .ok ⟨trail, values, t, sectionsOf objects place⟩ := by
  cases objects with
  | nil => rfl
  | cons o objects => rfl

/-- A list from one on and a block whose name ends in a placeholder give rules of the objects
with these numbers. -/
theorem readRest_numbered (load : Loader) (place : Place) {stem row : List Char} {text : String}
    {count : Nat} {trail : Trail} {values : Table Value} {t : Table Locator} {listPlace : Place}
    {lines : List Line}
    (hstem : IsStem stem) (hbrackets : bracketed? row = true)
    (htext : j.substitute ⟨trail, values, t, []⟩ none listPlace (String.ofList row) = .ok text)
    (hread : IndexList.read (String.ofList (dropBrackets text.toList)) =
      .ok (IndexList.interval 1 count))
    (hindented : ∀ line ∈ lines, line.indented = true)
    (hlines : ∀ line ∈ lines, ∀ i : Nat, 1 ≤ i → i ≤ count →
      ∃ read, j.ruleOf ⟨trail, values, t, []⟩ (some i) line = .ok read) :
    ∃ objects, j.readRest load ⟨⟨trail, values, t, []⟩, .start⟩
        (⟨String.ofList row, listPlace, false⟩ ::
          ⟨String.ofList (stem ++ ['@']), place, false⟩ :: lines) =
        .ok ⟨trail, values, t, sectionsOf objects place⟩ ∧
      objects.map (·.object) =
        (IndexList.interval 1 count).map fun i => String.ofList stem ++ toString i := by
  let q : Paragraph := ⟨⟨String.ofList (stem ++ ['@']), place, false⟩, lines⟩
  let p : Progress := ⟨⟨trail, values, t, []⟩, .start⟩
  let line : Line := ⟨String.ofList row, listPlace, false⟩
  have hq : q.IsBlock := ⟨⟨rfl, hindented⟩, by rw [String.toList_ofList]; exact hstem.objectName⟩
  have hkind : LineKind.of false line.text.toList = .indexList := by
    rw [String.toList_ofList]
    exact Line.kind_of_bracketed hbrackets
  obtain ⟨objects, hobjects, hnames⟩ : ∃ objects,
      j.objectsOf p.store ⟨q.head, some (IndexList.interval 1 count), q.below⟩ = .ok objects ∧
        objects.map (·.object) =
          (IndexList.interval 1 count).map fun i => String.ofList stem ++ toString i := by
    refine exists_mapM fun i hi => ?_
    obtain ⟨n, hn, rfl⟩ := List.mem_map.1 hi
    have hn : n < count := by simpa using hn
    have hindex : 1 + (n : Int) = ((n + 1 : Nat) : Int) := by omega
    rw [hindex]
    exact exists_repetitionOf hstem _ place _ fun line hline => hlines line hline (n + 1) (by omega) hn
  refine ⟨objects, ?_, hnames⟩
  have hblock : j.readTo load p (line :: q.lines) = .ok (p.attach objects place) := by
    rw [readTo_indexList load rfl rfl rfl hkind htext hread hq, hobjects]
    rfl
  have hend : Line.StartFlush [] := nofun
  have hrest : j.readRest load p (line :: q.lines ++ []) = _ := readRest_append hend p _
  rw [List.append_nil, hblock] at hrest
  refine hrest.trans ?_
  show (p.attach objects place).store.attempt (j.finish (p.attach objects place)) = _
  rw [finish_attach]
  rfl

end Job

/-! ## The text -/

/-- A rule that can be read for every element of a group. -/
structure IsGroupRule (tolerance : Float) (count : Nat) (rule : List Char) : Prop where
  dollar : '$' ∉ rule
  head : ∀ c ∈ rule.head?, isBlank c = false ∧ c ≠ '#'
  read : ∀ i : Nat, 1 ≤ i → i ≤ count → ∃ filled r, Placeholder.fillChars i rule = .ok filled ∧
    Requirement.ofText tolerance (String.ofList filled) = .ok r

/-- The lines of a text that declares a group and repeats a block for each of its elements. -/
theorem Line.exists_scan_group {stem selector : List Char} {rules : List (List Char)}
    {text : String} (file : String) (hrows : Text.rows text.toList = groupRows stem selector rules)
    (hstem : IsStem stem) (hselector : Text.Trimmed selector) (hne : selector ≠ [])
    (hrules : ∀ rule ∈ rules, ∀ c ∈ rule.head?, isBlank c = false ∧ c ≠ '#') :
    ∃ lines, scan text file 0 = .ok
        ([⟨"===", ⟨file, 1⟩, false⟩,
          ⟨String.ofList (stem ++ "* css ".toList ++ selector), ⟨file, 2⟩, false⟩,
          ⟨"===", ⟨file, 3⟩, false⟩] ++
        ⟨String.ofList (countRow stem), ⟨file, 4⟩, false⟩ ::
          ⟨String.ofList (stem ++ ['@']), ⟨file, 5⟩, false⟩ :: lines) ∧
      ∀ line ∈ lines, line.indented = true ∧
        ∃ rule ∈ rules, line.text = String.ofList (Text.trim rule) := by
  obtain ⟨lines, hlines, hall⟩ := exists_scanFrom_rules file hrules (.inl rfl) 6
  refine ⟨lines, ?_, hall⟩
  obtain ⟨d, ds, rfl, hd⟩ := hstem.head
  have hsharp : d ≠ '#' := by
    rintro rfl
    exact absurd hd (by decide)
  have hruler : Text.Trimmed "===".toList := (Text.Word.of_all (by decide) (by decide)).trimmed
  have hdefinition : Text.Trimmed (d :: ds ++ "* css ".toList ++ selector) := by
    rw [List.append_assoc]
    exact hstem.word.trimmed.around hselector hstem.ne_nil hne _
  have hcount : Text.Trimmed (countRow (d :: ds)) := trimmed_of_bracketed (bracketed?_countRow _)
  have hname : Text.Trimmed (d :: ds ++ ['@']) :=
    hstem.word.trimmed.around (Text.Word.of_all (by decide) (by decide)).trimmed hstem.ne_nil
      (List.cons_ne_nil _ _) []
  rw [scan_eq_scanFrom_rows, hrows, groupRows, scanFrom_trimmed rfl (by decide) hruler,
    scanFrom_trimmed rfl hsharp hdefinition, scanFrom_trimmed rfl (by decide) hruler,
    scanFrom_trimmed rfl (by decide) hcount, scanFrom_trimmed rfl hsharp hname, hlines]
  rfl

/-- What is left out when empty sections are is not among these. -/
theorem dropEmpty_sectionsOf (t : Table Locator) (objects : List ObjectRules) (place : Place) :
    (Layout.mk t (Job.sectionsOf objects place)).dropEmpty = ⟨t, Job.sectionsOf objects place⟩ := by
  cases objects with
  | nil => rfl
  | cons o objects => rfl

/-- An element of a group that was declared. -/
theorem get?_group {t : Table Locator} {stem : String} {locator : Locator} {place : Place}
    {count : Nat} (h : t.Holds (groupDeclarations stem locator place 1 count)) (name : String)
    (found : Locator) :
    t.get? name = some found ↔ ∃ i : Nat, 1 ≤ i ∧ i ≤ count ∧ name = stem ++ toString i ∧
      found = locator.withIndex i := by
  rw [h.get?_iff]
  constructor
  · rintro ⟨d, hd, rfl, rfl⟩
    obtain ⟨i, hfirst, hlast, rfl⟩ := mem_groupDeclarations.1 hd
    exact ⟨i, hfirst, hlast, rfl, rfl⟩
  · rintro ⟨i, hfirst, hlast, rfl, rfl⟩
    exact ⟨_, mem_groupDeclarations.2 ⟨i, hfirst, hlast, rfl⟩, rfl, rfl⟩

/-- The numbers from one on, as indexes. -/
theorem map_interval_one {α : Type} (f : Int → α) (count : Nat) :
    (IndexList.interval 1 count).map f = (List.range' 1 count).map fun i : Nat => f (i : Int) := by
  have hlength : ((count : Int) + 1 - 1).toNat = count := by omega
  rw [IndexList.interval, hlength, List.map_map, List.range'_eq_map_range, List.map_map]
  refine List.map_congr_left fun i _ => ?_
  exact congrArg f (Int.natCast_add 1 i).symm

/-- The element of a group on the page is the match of its number. -/
theorem Snapshot.find_withIndex (page : Snapshot) (locator : Locator) {i : Nat} (h : 1 ≤ i) :
    Page.find page (locator.withIndex i) = ((page.matching locator)[i - 1]?).map Node.element := by
  obtain ⟨i, rfl⟩ := Nat.exists_eq_add_of_le' h
  rfl

namespace Compiler

variable {c : Compiler Snapshot} {page : Snapshot} {text : String} {stem selector : List Char}
  {rules : List (List Char)} {count : Nat}

/-- The layout of the text declares the elements and has the rules of the block for each. -/
theorem exists_layout_group (label : String)
    (hrows : Text.rows text.toList = groupRows stem selector rules)
    (hproperties : c.properties = .empty) (hevaluator : c.evaluator = .standard)
    (hstem : IsStem stem) (hselector : Text.Trimmed selector) (hne : selector ≠ [])
    (hdollar : '$' ∉ selector)
    (hcount : (page.matching ⟨.css, String.ofList selector, none⟩).length = count)
    (hlimit : count ≤ 10000) (hdigits : Number.pixels (Float.ofNat count) = toString count)
    (hrules : ∀ rule ∈ rules, IsGroupRule c.settings.approximation count rule) :
    ∃ t objects place declared, c.compileText (some page) text label =
        .ok ⟨t, Job.sectionsOf objects place⟩ ∧
      t.Holds (groupDeclarations (String.ofList stem) ⟨.css, String.ofList selector, none⟩
        declared 1 count) ∧
      objects.map (·.object) =
        (List.range' 1 count).map fun i => String.ofList stem ++ toString i := by
  let j : Job Snapshot := ⟨c, some page⟩
  let path := Path.normalize label
  let locator : Locator := ⟨.css, String.ofList selector, none⟩
  let trail : Trail := ⟨[Path.directory path], [fileIdentity path text]⟩
  obtain ⟨lines, hscan, hlines⟩ := Line.exists_scan_group path hrows hstem hselector hne
    fun rule hrule => (hrules rule hrule).head
  obtain ⟨t, ht, hholds⟩ :=
    exists_declareAll_group (String.ofList stem) locator ⟨path, 2⟩ count
  -- The definition declares an element for each match.
  have hdefine : j.define ⟨trail, .empty, .empty, []⟩
      ⟨String.ofList (stem ++ "* css ".toList ++ selector), ⟨path, 2⟩, false⟩ =
        .ok ⟨trail, .empty, t, []⟩ := by
    have hmatches : Page.count page locator = count := hcount
    rw [Job.define_group rfl hstem hselector hne hdollar, hmatches, Store.declareAll, ht]
  -- The names of the elements are counted, and the list is read from the digits of the count.
  have htext := Job.substitute_countRow (j := j) hstem hproperties hevaluator
    ⟨trail, .empty, t, []⟩ ⟨path, 4⟩ (countMatching_group hstem hholds) hdigits
  have hread : IndexList.read (String.ofList (dropBrackets (String.ofList (listRow count)).toList)) =
      .ok (IndexList.interval 1 count) := by
    rw [String.toList_ofList]
    exact read_listRow hlimit
  obtain ⟨objects, hblock, hnames⟩ := Job.readRest_numbered j.loader ⟨path, 5⟩
    hstem (bracketed?_countRow stem) htext hread (fun line hline => (hlines line hline).1)
    fun line hline i hfirst hlast => by
      obtain ⟨-, rule, hrule, hline⟩ := hlines line hline
      obtain ⟨filled, r, hfilled, hr⟩ := (hrules rule hrule).read i hfirst hlast
      exact Job.exists_ruleOf _ (hrules rule hrule).dollar hfilled hr hline
  refine ⟨t, objects, ⟨path, 5⟩, ⟨path, 2⟩, ?_, hholds, hnames.trans (map_interval_one _ count)⟩
  have hruler : isRuler '=' (String.ofList (stem ++ "* css ".toList ++ selector)).toList =
      false := by
    rw [String.toList_ofList, List.append_assoc]
    exact hstem.isRuler_append (by decide) _
  have hflush : Line.StartFlush (⟨String.ofList (countRow stem), ⟨path, 4⟩, false⟩ ::
      ⟨String.ofList (stem ++ ['@']), ⟨path, 5⟩, false⟩ :: lines) := by
    rintro line ⟨⟩
    rfl
  have hall : j.readRest j.loader ⟨⟨trail, .empty, .empty, []⟩, .start⟩
      ([⟨"===", ⟨path, 1⟩, false⟩,
        ⟨String.ofList (stem ++ "* css ".toList ++ selector), ⟨path, 2⟩, false⟩,
        ⟨"===", ⟨path, 3⟩, false⟩] ++ _) = _ := Job.readRest_append hflush _ _
  rw [Job.readTo_definition _ hruler, hdefine, attempt_ok, ok_bind, ok_bind, hblock] at hall
  show j.result (j.processText j.loader (Store.start.marked path text) path text) = _
  rw [Job.processText_eq, hscan, Store.start_inside]
  dsimp only
  rw [Job.result_leaving]
  refine (congrArg j.result hall).trans ?_
  rw [Job.result]
  split
  next => exact congrArg Except.ok (dropEmpty_sectionsOf t objects ⟨path, 5⟩)
  next => rfl

/-- A group that is counted in a list of indexes is covered by the block below the list. -/
theorem compileText_group (c : Compiler Snapshot) (page : Snapshot) (text label : String)
    (stem selector : List Char) (rules : List (List Char)) (count : Nat)
    (hrows : Text.rows text.toList = groupRows stem selector rules)
    (hproperties : c.properties = .empty) (hevaluator : c.evaluator = .standard)
    (hstem : IsStem stem) (hselector : Text.Trimmed selector) (hne : selector ≠ [])
    (hdollar : '$' ∉ selector)
    (hcount : (page.matching ⟨.css, String.ofList selector, none⟩).length = count)
    (hlimit : count ≤ 10000) (hdigits : Number.pixels (Float.ofNat count) = toString count)
    (hrules : ∀ rule ∈ rules, IsGroupRule c.settings.approximation count rule) :
    ∃ l, c.compileText (some page) text label = .ok l ∧
      (∀ name locator, l.objects.get? name = some locator ↔
        ∃ i : Nat, 1 ≤ i ∧ i ≤ count ∧ name = String.ofList stem ++ toString i ∧
          locator = ⟨.css, String.ofList selector, some i⟩) ∧
      (count = 0 → l.sections = []) ∧
      (0 < count → ∃ own, l.sections = [own] ∧ own.conditionals = [] ∧
        own.objects.map (·.object) =
          (List.range' 1 count).map fun i => String.ofList stem ++ toString i) ∧
      ∀ i, 1 ≤ i → i ≤ count → ∃ locator node,
        l.objects.get? (String.ofList stem ++ toString i) = some locator ∧
          (page.matching ⟨.css, String.ofList selector, none⟩)[i - 1]? = some node ∧
            Page.find page locator = some node.element := by
  obtain ⟨t, objects, place, declared, hlayout, hholds, hnumbers⟩ := exists_layout_group label
    hrows hproperties hevaluator hstem hselector hne hdollar hcount hlimit hdigits hrules
  refine ⟨_, hlayout, get?_group hholds, fun hzero => ?_, fun hpos => ?_, fun i hfirst hlast => ?_⟩
  · subst hzero
    obtain rfl := List.map_eq_nil_iff.1 hnumbers
    rfl
  · have hobjects : objects ≠ [] := by
      rintro rfl
      have hlength := congrArg List.length hnumbers
      rw [List.map_nil, List.length_map, List.length_range', List.length_nil] at hlength
      omega
    exact ⟨_, if_neg hobjects, rfl, hnumbers⟩
  · let locator : Locator := ⟨.css, String.ofList selector, none⟩
    have hindex : i - 1 < (page.matching locator).length := by
      rw [hcount]
      omega
    refine ⟨locator.withIndex i, (page.matching locator)[i - 1],
      (get?_group hholds _ _).2 ⟨i, hfirst, hlast, rfl, rfl⟩, List.getElem?_eq_getElem hindex, ?_⟩
    rw [Snapshot.find_withIndex page locator hfirst, List.getElem?_eq_getElem hindex]
    rfl

/-- A page with two cards and a footer between them. -/
def cardPage : Snapshot :=
  ⟨none, [.mk .css ".card" ⟨⟨0, 0, 100, 50⟩, some "Card 1", true⟩ [],
    .mk .css ".footer" ⟨⟨0, 300, 400, 50⟩, none, true⟩ [],
    .mk .css ".card" ⟨⟨200, 0, 100, 50⟩, some "Card 2", true⟩ []]⟩

/-- A text with rules for every card. -/
def cardText : String :=
  "===\ncard-* css .card\n===\n[1 to $\x7bcount(\"card-*\")\x7d]\ncard-@\n    visible\n    text is: Card @\n"

/-- The block below the list covers both cards, each under its own number. -/
theorem compileText_group_cards :
    ∃ l, bare.compileText (some cardPage) cardText "cards" = .ok l ∧
      (∃ own, l.sections = [own] ∧ own.objects.map (·.object) = ["card-1", "card-2"]) ∧
      ∃ locator, l.objects.get? "card-2" = some locator ∧
        Page.find cardPage locator = some ⟨⟨200, 0, 100, 50⟩, some "Card 2", true⟩ := by
  have hstem : IsStem "card-".toList :=
    ⟨⟨'c', "ard-".toList, by decide, by decide⟩, List.all_eq_true.mp rfl⟩
  have hrules : ∀ rule ∈ ["visible".toList, "text is: Card @".toList],
      IsGroupRule 2.0 2 rule := by
    intro rule hrule
    simp only [List.mem_cons, List.not_mem_nil, or_false] at hrule
    obtain rfl | rfl := hrule
    · refine ⟨by decide, ?_, fun i hfirst hlast => ⟨"visible".toList, .visible, ?_⟩⟩
      · rintro c ⟨⟩
        decide
      obtain rfl | rfl : i = 1 ∨ i = 2 := by omega
      all_goals exact ⟨by decide +kernel, by decide +kernel⟩
    · refine ⟨by decide, ?_, fun i hfirst hlast => ?_⟩
      · rintro c ⟨⟩
        decide
      obtain rfl | rfl : i = 1 ∨ i = 2 := by omega
      · exact ⟨"text is: Card 1".toList, .text .is "Card 1" [], by decide +kernel, by decide +kernel⟩
      · exact ⟨"text is: Card 2".toList, .text .is "Card 2" [], by decide +kernel, by decide +kernel⟩
  obtain ⟨l, hl, -, -, hsections, hfound⟩ := compileText_group bare cardPage cardText "cards"
    "card-".toList ".card".toList ["visible".toList, "text is: Card @".toList] 2
    (by decide +kernel) rfl rfl hstem (Text.Word.of_all (by decide) (by decide)).trimmed (by decide)
    (by decide) (by decide +kernel) (by decide) (by decide +kernel) hrules
  obtain ⟨own, hown, -, hnames⟩ := hsections (by decide)
  obtain ⟨locator, node, hget, hnode, hfind⟩ := hfound 2 (by decide) (by decide)
  have hsecond : ((cardPage.matching ⟨.css, String.ofList ".card".toList, none⟩)[2 - 1]?).map
      Node.element = some ⟨⟨200, 0, 100, 50⟩, some "Card 2", true⟩ := by
    decide +kernel
  rw [hnode] at hsecond
  exact ⟨l, hl, ⟨own, hown, hnames.trans (by decide)⟩, locator, hget, hfind.trans hsecond⟩

end Compiler

end PageLayout
