import Mathlib.Data.List.Infix
import PageLayout.Proofs.Text.Pieces
import PageLayout.Reading.Template

/-!
# References to properties

`Refers` says what a reference to a property is, and `Scan` how a text is cut into pieces from
left to right: a reference is a piece where one starts, and any other character is a piece of
its own.  So a reference is never looked for inside another one, and it is looked for right
after a dollar sign that starts none.

A text has exactly one scan.  Its pieces make up the text as they are `written`, and the text
with the values of its properties as they are `shown` (`expand_scan`).
-/

namespace PageLayout.Template

/-! ## References -/

/-- A letter or a digit of ASCII, or a low line. -/
def IsNamePart (c : Char) : Prop :=
  ('A' ≤ c ∧ c ≤ 'Z') ∨ ('a' ≤ c ∧ c ≤ 'z') ∨ ('0' ≤ c ∧ c ≤ '9') ∨ c = '_'

/-- A reference to a property, the text after it, and the value of the property.  A name in
braces goes up to the first closing one, and blanks around it do not count.  A name without
braces is as long as it can be. -/
inductive Refers (properties : Table String) : (written rest : List Char) → String → Prop
  | braced {name rest : List Char} {value : String} :
      name ≠ [] → '\x7d' ∉ name →
        properties.get? (String.ofList (Text.trim name)) = some value →
          Refers properties ('$' :: '\x7b' :: (name ++ ['\x7d'])) rest value
  | bare {name rest : List Char} {value : String} :
      name ≠ [] → (∀ c ∈ name, IsNamePart c) → (∀ c ∈ rest.head?, ¬IsNamePart c) →
        properties.get? (String.ofList name) = some value →
          Refers properties ('$' :: name) rest value

/-- A reference starts at the beginning of a text. -/
def StartsReference (properties : Table String) (text : List Char) : Prop :=
  ∃ written rest value, text = written ++ rest ∧ Refers properties written rest value

theorem isNamePart_iff {c : Char} : isNamePart c = true ↔ IsNamePart c := by
  have hclasses : isNamePart c = (decide ('A' ≤ c ∧ c ≤ 'Z') ||
      (decide ('a' ≤ c) && decide (c ≤ 'z')) || (decide ('0' ≤ c) && decide (c ≤ '9')) ||
      c == '_') := rfl
  simp only [hclasses, Bool.or_eq_true, Bool.and_eq_true, decide_eq_true_eq, beq_iff_eq, IsNamePart,
    or_assoc]

instance : DecidablePred IsNamePart := fun _ => decidable_of_iff _ isNamePart_iff

theorem IsNamePart.isBlank_eq_false {c : Char} (h : IsNamePart c) : isBlank c = false := by
  have hcode : (65 ≤ c.toNat ∧ c.toNat ≤ 90) ∨ (97 ≤ c.toNat ∧ c.toNat ≤ 122) ∨
      (48 ≤ c.toNat ∧ c.toNat ≤ 57) ∨ c.toNat = 95 :=
    h.imp_right (.imp_right (.imp_right (congrArg Char.toNat)))
  rw [Bool.eq_false_iff]
  intro hblank
  simp only [isBlank, Bool.or_eq_true, Bool.and_eq_true, decide_eq_true_eq, beq_iff_eq] at hblank
  omega

/-- A name that is written without braces is without blanks at its ends. -/
theorem trim_of_isNamePart {name : List Char} (h : ∀ c ∈ name, IsNamePart c) :
    Text.trim name = name :=
  Text.Trimmed.trim
    ⟨fun c hc => (h c (List.mem_of_mem_head? hc)).isBlank_eq_false,
      fun c hc => (h c (List.mem_of_getLast? hc)).isBlank_eq_false⟩

section Reading

variable {properties : Table String} {name rest cs written : List Char} {value : String}

theorem readName?_braced (h : '\x7d' ∉ name) :
    readName? ('\x7b' :: (name ++ '\x7d' :: rest)) = some (name, rest) :=
  Text.splitOnce_append h

theorem readName?_bare (h : ∀ c ∈ cs.head?, c ≠ '\x7b') :
    readName? cs = some (cs.takeWhile isNamePart, cs.dropWhile isNamePart) :=
  readName?.eq_2 cs fun _ heq => h _ (by rw [heq]; rfl) rfl

theorem readReference?_eq_some_iff :
    readReference? properties cs = some (value, rest) ↔
      ∃ name, readName? cs = some (name, rest) ∧ name ≠ [] ∧
        properties.get? (String.ofList (Text.trim name)) = some value := by
  constructor
  · intro h
    obtain ⟨⟨name, rest'⟩, hname, h⟩ := Option.bind_eq_some_iff.1 h
    dsimp only at h
    split at h
    next => cases h
    next hne =>
      obtain ⟨v, hvalue, h⟩ := Option.bind_eq_some_iff.1 h
      cases h
      exact ⟨name, hname, mt List.isEmpty_iff.2 hne, hvalue⟩
  · rintro ⟨name, hname, hne, hvalue⟩
    have hempty : ¬name.isEmpty = true := mt List.isEmpty_iff.1 hne
    rw [readReference?, hname]
    show (if name.isEmpty = true then none else _) = _
    rw [if_neg hempty, hvalue]
    rfl

/-- A dollar sign starts a reference if a name is read after it that is one of a property. -/
theorem refers_of_readReference? (h : readReference? properties cs = some (value, rest)) :
    ∃ written, '$' :: cs = written ++ rest ∧ Refers properties written rest value := by
  obtain ⟨name, hname, hne, hvalue⟩ := readReference?_eq_some_iff.1 h
  by_cases hbrace : ∀ c ∈ cs.head?, c ≠ '\x7b'
  · rw [readName?_bare hbrace] at hname
    cases hname
    have hparts : ∀ c ∈ cs.takeWhile isNamePart, IsNamePart c := fun c hc =>
      isNamePart_iff.1 (List.mem_takeWhile_imp hc)
    rw [trim_of_isNamePart hparts] at hvalue
    refine ⟨_, ?_, .bare hne hparts (fun c hc => ?_) hvalue⟩
    · rw [List.cons_append, List.takeWhile_append_dropWhile]
    · have hhead := List.head?_dropWhile_not isNamePart cs
      rw [Option.mem_def.1 hc] at hhead
      exact mt isNamePart_iff.2 (Bool.eq_false_iff.1 hhead)
  · obtain ⟨braced, rfl⟩ : ∃ braced, cs = '\x7b' :: braced := by
      cases cs with
      | nil => exact absurd nofun hbrace
      | cons c cs => simpa using hbrace
    obtain ⟨rfl, hclosing⟩ := Text.eq_append_of_splitOnce hname
    refine ⟨_, ?_, .braced hne hclosing hvalue⟩
    simp

/-- What refers to a property is read after its dollar sign. -/
theorem readReference?_of_refers (h : Refers properties written rest value) :
    ∃ cs, written ++ rest = '$' :: cs ∧ readReference? properties cs = some (value, rest) := by
  cases h with
  | @braced name _ _ hne hclosing hvalue =>
      refine ⟨'\x7b' :: (name ++ '\x7d' :: rest), by simp, ?_⟩
      exact readReference?_eq_some_iff.2 ⟨name, readName?_braced hclosing, hne, hvalue⟩
  | @bare name _ _ hne hparts hrest hvalue =>
      have hrun : ∀ c ∈ name, isNamePart c = true := fun c hc => isNamePart_iff.2 (hparts c hc)
      have hend : ∀ c ∈ rest.head?, isNamePart c = false := fun c hc =>
        Bool.eq_false_iff.2 (mt isNamePart_iff.1 (hrest c hc))
      have hbrace : ∀ c ∈ (name ++ rest).head?, c ≠ '\x7b' := by
        rintro c hc rfl
        rw [List.head?_append, List.head?_eq_some_head hne, Option.some_or,
          ← List.head?_eq_some_head hne] at hc
        have hpart := hrun _ (List.mem_of_mem_head? hc)
        cases hpart
      have hname : readName? (name ++ rest) = some (name, rest) := by
        rw [readName?_bare hbrace, Text.takeWhile_run hrun hend, Text.dropWhile_run hrun hend]
      rw [← trim_of_isNamePart hparts] at hvalue
      exact ⟨name ++ rest, rfl, readReference?_eq_some_iff.2 ⟨name, hname, hne, hvalue⟩⟩

theorem startsReference_iff {c : Char} :
    StartsReference properties (c :: cs) ↔ c = '$' ∧ (readReference? properties cs).isSome := by
  constructor
  · rintro ⟨written, rest, value, heq, h⟩
    obtain ⟨cs', heq', hread⟩ := readReference?_of_refers h
    rw [heq'] at heq
    cases heq
    exact ⟨rfl, by rw [hread]; rfl⟩
  · rintro ⟨rfl, h⟩
    obtain ⟨⟨value, rest⟩, hread⟩ := Option.isSome_iff_exists.1 h
    obtain ⟨written, heq, hrefers⟩ := refers_of_readReference? hread
    exact ⟨written, rest, value, heq, hrefers⟩

/-- Two references that start at one place are the same. -/
theorem Refers.unique {written' rest' : List Char} {value' : String}
    (h : Refers properties written rest value) (h' : Refers properties written' rest' value')
    (heq : written ++ rest = written' ++ rest') :
    written = written' ∧ rest = rest' ∧ value = value' := by
  obtain ⟨cs, hcs, hread⟩ := readReference?_of_refers h
  obtain ⟨cs', hcs', hread'⟩ := readReference?_of_refers h'
  obtain rfl : cs = cs' := by
    rw [heq, hcs'] at hcs
    cases hcs
    rfl
  rw [hread] at hread'
  cases hread'
  exact ⟨List.append_cancel_right heq, rfl, rfl⟩

instance (properties : Table String) : (text : List Char) →
    Decidable (StartsReference properties text)
  | [] => isFalse (by
      rintro ⟨written, rest, value, heq, h⟩
      obtain ⟨cs, hcs, _⟩ := readReference?_of_refers h
      rw [hcs] at heq
      cases heq)
  | _ :: _ => decidable_of_iff _ startsReference_iff.symm

end Reading

/-! ## Scans -/

/-- A piece of a text. -/
inductive Piece where
  /-- A character that is kept. -/
  | kept (c : Char)
  /-- A reference and the value that it stands for. -/
  | reference (written : List Char) (value : String)
deriving DecidableEq, Repr

/-- The characters of a piece. -/
def Piece.written : Piece → List Char
  | .kept c => [c]
  | .reference written _ => written

/-- The characters that a piece is replaced by. -/
def Piece.shown : Piece → List Char
  | .kept c => [c]
  | .reference _ value => value.toList

/-- A text is cut into pieces from left to right.  A character is kept if no reference starts
at it. -/
inductive Scan (properties : Table String) : List Char → List Piece → Prop
  | nil : Scan properties [] []
  | kept {c : Char} {cs : List Char} {ps : List Piece} :
      ¬StartsReference properties (c :: cs) → Scan properties cs ps →
        Scan properties (c :: cs) (.kept c :: ps)
  | reference {written rest : List Char} {value : String} {ps : List Piece} :
      Refers properties written rest value → Scan properties rest ps →
        Scan properties (written ++ rest) (.reference written value :: ps)

section Expansion

variable {properties : Table String} {text : List Char}

theorem expandChars_kept {c : Char} {cs : List Char}
    (h : ¬StartsReference properties (c :: cs)) :
    expandChars properties (c :: cs) = c :: expandChars properties cs := by
  rw [startsReference_iff] at h
  rw [expandChars]
  split
  next hc =>
    split
    next value rest hread => exact absurd ⟨beq_iff_eq.1 hc, by rw [hread]; rfl⟩ h
    next => rfl
  next => rfl

theorem expandChars_reference {written rest : List Char} {value : String}
    (h : Refers properties written rest value) :
    expandChars properties (written ++ rest) = value.toList ++ expandChars properties rest := by
  obtain ⟨cs, hcs, hread⟩ := readReference?_of_refers h
  rw [hcs, expandChars, if_pos (beq_self_eq_true _)]
  split
  next heq =>
    rw [hread] at heq
    cases heq
    rfl
  next heq =>
    rw [hread] at heq
    cases heq

namespace Scan

variable {ps ps' : List Piece}

/-- The pieces make up the text. -/
theorem written_eq (h : Scan properties text ps) : ps.flatMap Piece.written = text := by
  induction h with
  | nil => rfl
  | kept _ _ ih => rw [List.flatMap_cons, ih]; rfl
  | reference _ _ ih => rw [List.flatMap_cons, ih]; rfl

/-- What the pieces show makes up the text with the values of its properties. -/
theorem shown_eq (h : Scan properties text ps) :
    ps.flatMap Piece.shown = expandChars properties text := by
  induction h with
  | nil => rw [expandChars]; rfl
  | kept hkept _ ih => rw [expandChars_kept hkept, List.flatMap_cons, ih]; rfl
  | reference hrefers _ ih => rw [expandChars_reference hrefers, List.flatMap_cons, ih]; rfl

/-- At every character either a reference starts, and only one, or none does. -/
theorem unique (h : Scan properties text ps) (h' : Scan properties text ps') : ps = ps' := by
  induction h generalizing ps' with
  | nil =>
      generalize htext : [] = text at h'
      cases h' with
      | nil => rfl
      | kept => cases htext
      | reference hrefers' =>
          obtain ⟨cs, hcs, _⟩ := readReference?_of_refers hrefers'
          rw [hcs] at htext
          cases htext
  | @kept c cs ps hkept _ ih =>
      generalize htext : c :: cs = text at h'
      cases h' with
      | nil => cases htext
      | kept _ hscan' =>
          cases htext
          rw [ih hscan']
      | reference hrefers' => exact absurd ⟨_, _, _, htext, hrefers'⟩ hkept
  | @reference written rest value ps hrefers _ ih =>
      generalize htext : written ++ rest = text at h'
      cases h' with
      | nil =>
          obtain ⟨cs, hcs, _⟩ := readReference?_of_refers hrefers
          rw [hcs] at htext
          cases htext
      | kept hkept' => exact absurd ⟨_, _, _, htext.symm, hrefers⟩ hkept'
      | reference hrefers' hscan' =>
          obtain ⟨rfl, rfl, rfl⟩ := hrefers.unique hrefers' htext
          rw [ih hscan']

end Scan

/-- Every text has a scan. -/
theorem exists_scan (properties : Table String) (text : List Char) :
    ∃ ps, Scan properties text ps := by
  fun_induction expandChars properties text with
  | case1 => exact ⟨[], .nil⟩
  | case2 c cs hc value rest hread hlength ih =>
      obtain ⟨ps, hps⟩ := ih
      obtain ⟨written, heq, hrefers⟩ := refers_of_readReference? hread
      rw [beq_iff_eq.1 hc, heq]
      exact ⟨_, .reference hrefers hps⟩
  | case3 c cs hc hread ih =>
      obtain ⟨ps, hps⟩ := ih
      refine ⟨_, .kept (fun h => ?_) hps⟩
      have hsome := (startsReference_iff.1 h).2
      rw [hread] at hsome
      cases hsome
  | case4 c cs hc ih =>
      obtain ⟨ps, hps⟩ := ih
      exact ⟨_, .kept (fun h => hc (beq_iff_eq.2 (startsReference_iff.1 h).1)) hps⟩

/-- A text in which no reference starts is kept. -/
theorem expandChars_eq_self (h : ∀ rest, rest <:+ text → ¬StartsReference properties rest) :
    expandChars properties text = text := by
  induction text with
  | nil => rw [expandChars]
  | cons c cs ih =>
      rw [expandChars_kept (h _ (List.suffix_refl _)),
        ih fun rest hrest => h rest (hrest.trans (List.suffix_cons c cs))]

end Expansion

/-- Expanding the properties of a text replaces exactly the references of its scan from left to
right, and there is only one such scan.  All other characters are kept in order, and so is a
text without references. -/
theorem expand_scan (properties : Table String) (text : String) :
    (∃! ps, Scan properties text.toList ps) ∧
    (∀ ps, Scan properties text.toList ps →
      ps.flatMap Piece.written = text.toList ∧
        (expand properties text).toList = ps.flatMap Piece.shown) ∧
    ((∀ rest, rest <:+ text.toList → ¬StartsReference properties rest) →
      expand properties text = text) := by
  refine ⟨?_, fun ps hps => ⟨hps.written_eq, ?_⟩, fun h => ?_⟩
  · obtain ⟨ps, hps⟩ := exists_scan properties text.toList
    exact ⟨ps, hps, fun _ hps' => hps'.unique hps⟩
  · rw [expand, String.toList_ofList, hps.shown_eq]
  · rw [expand, expandChars_eq_self h, String.ofList_toList]

/-- A property whose value looks like a reference to it. -/
def selfSample : Table String := .ofList [("A", "<$A>")]

/-- A reference inside braces that are no reference is replaced, and its value is not searched
again.  A longer name, no name, and a brace that is not closed are no references. -/
theorem expand_scan_nested :
    Scan selfSample "$\x7b$A\x7d".toList
        [.kept '$', .kept '\x7b', .reference ['$', 'A'] "<$A>", .kept '\x7d'] ∧
      expand selfSample "$\x7b$A\x7d" = "$\x7b<$A>\x7d" ∧
      expand selfSample "$$AB $\x7b\x7d $\x7bA" = "$$AB $\x7b\x7d $\x7bA" := by
  have hend : ∀ c ∈ ['\x7d'].head?, ¬IsNamePart c := by
    rintro _ ⟨⟩
    decide
  have hbare : Refers selfSample ['$', 'A'] ['\x7d'] "<$A>" :=
    .bare (by decide) (List.forall_mem_singleton.2 (by decide)) hend (by decide)
  have hscan : Scan selfSample "$\x7b$A\x7d".toList
      [.kept '$', .kept '\x7b', .reference ['$', 'A'] "<$A>", .kept '\x7d'] :=
    .kept (by decide) (.kept (by decide) (.reference hbare (.kept (by decide) .nil)))
  have hshown := (expand_scan selfSample "$\x7b$A\x7d").2.1 _ hscan
  refine ⟨hscan, String.toList_inj.1 hshown.2, (expand_scan selfSample _).2.2 fun rest hrest => ?_⟩
  have hnone : ∀ rest ∈ "$$AB $\x7b\x7d $\x7bA".toList.tails, ¬StartsReference selfSample rest := by
    decide
  exact hnone rest ((List.mem_tails _ _).2 hrest)

end PageLayout.Template
