import PageLayout.Proofs.Compilation.Count
import PageLayout.Proofs.Pattern.Reading
import PageLayout.Proofs.Pattern.Spans
import PageLayout.Proofs.Text.Words

/-!
# Stars as regular expressions

A pattern with stars can be written as a regular expression: the pieces between its stars, with a
backslash before each character that would mean something else, joined by `.*` and put between a
start and an end (`Glob.regexText`).  The expression is read character by character
(`Glob.finish_flatMap`), and it matches what the pattern matches (`Glob.matchesIn_regex_iff`).
So a count is the number of names that the expression matches (`Expr.eval_count`).
-/

namespace PageLayout

open Pattern

namespace Glob

/-! ## The expression -/

/-- A character that stands for itself in a regular expression. -/
def escape (c : Char) : List Char := if isMeta c then ['\\', c] else [c]

/-- The regular expression for a pattern with stars. -/
def regexText (pattern : List Char) : List Char :=
  '^' :: (['.', '*'].intercalate ((Text.splitAt (· == '*') pattern).map (List.flatMap escape)) ++
    ['$'])

/-- What stands in the regular expression for a character of the pattern. -/
def pieceText (c : Char) : List Char := if c = '*' then ['.', '*'] else escape c

theorem regexText_eq (pattern : List Char) :
    regexText pattern = '^' :: (pattern.flatMap pieceText ++ ['$']) := by
  have hpieces : ['.', '*'].intercalate
      ((Text.splitAt (· == '*') pattern).map (List.flatMap escape)) = pattern.flatMap pieceText := by
    induction pattern with
    | nil => rfl
    | cons c cs ih =>
        obtain ⟨piece, pieces, hcs⟩ := Text.exists_splitAt (· == '*') cs
        rw [hcs] at ih
        rw [Text.splitAt, hcs, List.flatMap_cons, ← ih, pieceText]
        by_cases hc : c = '*'
        · subst hc
          simp [List.intercalate_cons_cons]
        · simp only [hc, beq_iff_eq, if_false]
          cases pieces with
          | nil => simp
          | cons next pieces => simp [List.intercalate_cons_cons]
  rw [regexText, hpieces]

/-! ## Reading it -/

/-- What is read of the expression for a character of the pattern. -/
def piece (c : Char) : Tree := if c = '*' then .repeated 0 none .dot else .symbol ⟨c, false⟩

theorem readEscape_meta {c : Char} (hc : isMeta c = true) (b : Bool) (cs : List Char) :
    readEscape b (c :: cs) = some (.symbol ⟨c, false⟩, cs) := by
  have hmem : c ∈ ['\\', '.', '+', '*', '?', '(', ')', '|', '[', ']', '\x7b', '\x7d', '^', '$', '#',
      '&', '-', '~'] := List.contains_iff_mem.1 hc
  simp only [List.mem_cons, List.not_mem_nil, or_false] at hmem
  obtain rfl | rfl | rfl | rfl | rfl | rfl | rfl | rfl | rfl | rfl | rfl | rfl | rfl | rfl | rfl |
    rfl | rfl | rfl := hmem
  all_goals rfl

theorem notMem_specials {c : Char} (hc : isMeta c = false) : c ∉ Pattern.Reading.specials := by
  intro hmem
  have hall : Pattern.Reading.specials.all isMeta = true := by decide
  rw [List.all_eq_true.1 hall c hmem] at hc
  cases hc

variable {r : Pattern.Reading} {c : Char} {rest : List Char}

theorem finish_pieceText (hr : r.spaced = false) (hrest : rest.head? ≠ some '?') :
    r.finish ((pieceText c ++ rest).length + 1) (pieceText c ++ rest) =
      (r.push (piece c)).finish (rest.length + 1) rest := by
  unfold pieceText piece
  split
  next hc =>
    have hlazy : Pattern.Reading.dropLazy rest = rest := by
      unfold Pattern.Reading.dropLazy
      split
      next => exact absurd rfl hrest
      next => rfl
    have hdot : r.step '.' ('*' :: rest) = some (r.push .dot, '*' :: rest) := rfl
    have hstar : (r.push .dot).step '*' rest = some (r.push (.repeated 0 none .dot), rest) := by
      show some (r.push (.repeated 0 none .dot), Pattern.Reading.dropLazy rest) = _
      rw [hlazy]
    exact (Pattern.Reading.finish_cons hr hdot).trans
      (Pattern.Reading.finish_cons (r := r.push .dot) hr hstar)
  next hc =>
    unfold escape
    split
    next hmeta =>
      refine Pattern.Reading.finish_cons hr ?_
      show (readEscape r.spaced (c :: rest)).map _ = _
      rw [readEscape_meta hmeta]
      rfl
    next hmeta =>
      exact Pattern.Reading.finish_cons hr
        (Pattern.Reading.step_symbol (notMem_specials (Bool.not_eq_true _ ▸ hmeta)) rest)

/-- No piece starts with a question mark, which would change the repetition before it. -/
theorem head?_flatMap (pattern : List Char) :
    (pattern.flatMap pieceText ++ ['$']).head? ≠ some '?' := by
  cases pattern with
  | nil => decide
  | cons c cs =>
      have hhead : ∀ rest, (pieceText c ++ rest).head? ≠ some '?' := by
        intro rest
        unfold pieceText escape
        split
        next => exact nofun
        next =>
          split
          next => exact nofun
          next hmeta =>
            rintro ⟨⟩
            exact hmeta rfl
      rw [List.flatMap_cons, List.append_assoc]
      exact hhead _

/-- The pieces are read one after another. -/
theorem finish_flatMap (hr : r.spaced = false) (pattern : List Char) :
    r.finish ((pattern.flatMap pieceText ++ ['$']).length + 1)
        (pattern.flatMap pieceText ++ ['$']) =
      Pattern.Reading.finish { r with parts := (pattern.map piece).reverse ++ r.parts } 2 ['$'] := by
  induction pattern generalizing r with
  | nil => rfl
  | cons c cs ih =>
      rw [List.flatMap_cons, List.append_assoc, finish_pieceText hr (head?_flatMap cs),
        ih (r := r.push (piece c)) hr, List.map_cons, List.reverse_cons, List.append_assoc]
      rfl

/-- The tree of the expression. -/
def tree (pattern : List Char) : Tree :=
  .sequence (.anchor .lineStart :: (pattern.map piece ++ [.anchor .lineEnd]))

theorem finish_regexText (pattern : List Char) :
    Pattern.Reading.finish {} ((regexText pattern).length + 1) (regexText pattern) =
      some (tree pattern) := by
  have hstart : ∀ cs, Pattern.Reading.step {} '^' cs =
      some (Pattern.Reading.push {} (.anchor .lineStart), cs) := fun _ => rfl
  have hparts : (.anchor .lineEnd :: ((pattern.map piece).reverse ++ [.anchor .lineStart])).reverse =
      .anchor .lineStart :: (pattern.map piece ++ [.anchor .lineEnd]) := by simp
  have hsequence : Tree.ofParts (.anchor .lineStart :: (pattern.map piece ++ [.anchor .lineEnd])) =
      tree pattern := by cases pattern <;> rfl
  rw [regexText_eq, Pattern.Reading.finish_cons rfl (hstart _), finish_flatMap rfl]
  show some (Tree.ofParts (.anchor .lineEnd ::
    ((pattern.map piece).reverse ++ [.anchor .lineStart])).reverse) = _
  rw [hparts, hsequence]

/-! ## Its meaning -/

/-- What a character of the pattern matches. -/
def meaning (c : Char) : Regex :=
  if c = '*' then .repeated 0 none (.chars (.complement (.ranges [(0x0A, 0x0A)])))
  else .chars (.ranges [(c.toNat, c.toNat)])

/-- What is left of a pattern, up to the end of the text. -/
def remainder (pattern : List Char) : Regex :=
  pattern.foldr (fun c r => .seq (meaning c) r) (.seq (.look .textEnd) .empty)

/-- The meaning of the expression. -/
def regex (pattern : List Char) : Regex := .seq (.look .textStart) (remainder pattern)

theorem meaning?_piece (c : Char) : (piece c).meaning? {} = some (meaning c, {}) := by
  unfold piece meaning
  split <;> rfl

theorem meaning?_tree (pattern : List Char) : (tree pattern).meaning? {} = some (regex pattern, {}) := by
  have hrest : sequenceMeaning? {} (pattern.map piece ++ [.anchor .lineEnd]) =
      some (remainder pattern, {}) := by
    induction pattern with
    | nil => rfl
    | cons c cs ih =>
        rw [List.map_cons, List.cons_append, sequenceMeaning?, meaning?_piece]
        show (sequenceMeaning? {} (cs.map piece ++ _) >>= _) = _
        rw [ih]
        rfl
  rw [tree, Tree.meaning?, sequenceMeaning?]
  show (sequenceMeaning? {} (pattern.map piece ++ _) >>= _) = _
  rw [hrest]
  rfl

theorem depth_tree_le (pattern : List Char) : (tree pattern).depth ≤ depthLimit := by
  have hpiece : ∀ c, (piece c).depth ≤ 1 := by
    intro c
    unfold piece
    split <;> simp [Tree.depth]
  have hpieces : treeDepth (pattern.map piece ++ [.anchor .lineEnd]) ≤ 1 := by
    induction pattern with
    | nil => decide
    | cons c cs ih => exact Nat.max_le.2 ⟨hpiece c, ih⟩
  have hall : (tree pattern).depth ≤ 2 := Nat.succ_le_succ (Nat.max_le.2 ⟨Nat.zero_le _, hpieces⟩)
  exact Nat.le_trans hall (by decide)

theorem size_regex_le (pattern : List Char) : (regex pattern).size ≤ 96 + 112 * pattern.length := by
  have hmeaning : ∀ c, (meaning c).size ≤ 112 := by
    intro c
    unfold meaning
    split
    next => decide
    next => exact Nat.le_of_ble_eq_true rfl
  have hremainder : (remainder pattern).size ≤ 64 + 112 * pattern.length := by
    induction pattern with
    | nil => decide
    | cons c cs ih =>
        have hc := hmeaning c
        change (meaning c).size + (remainder cs).size ≤ _
        rw [List.length_cons]
        omega
  change 32 + (remainder pattern).size ≤ _
  omega

/-- The expression for a pattern is one, unless it is too large. -/
theorem ofText?_regexText (pattern : List Char) :
    Regex.ofText? (regexText pattern) =
      if (regex pattern).size ≤ sizeLimit then some (regex pattern) else none := by
  have htree : Tree.ofText? (regexText pattern) = some (tree pattern) := by
    rw [Tree.ofText?, finish_regexText]
    exact if_pos (depth_tree_le pattern)
  rw [Regex.ofText?, htree]
  show ((tree pattern).meaning? {} >>= _) = _
  rw [meaning?_tree]
  rfl

/-! ## What it matches -/

variable {text : List Char} {i j : Nat}

/-- A repetition of characters covers a run of them. -/
theorem times_chars_iff (s : CharSet) (count : Nat) :
    Times ((Regex.chars s).Spans text) count i j ↔
      ∃ run, run.length = count ∧ text.drop i = run ++ text.drop j ∧ i + count = j ∧
        ∀ c ∈ run, s.holds c.toNat = true := by
  induction count generalizing i with
  | zero =>
      constructor
      · rintro rfl
        exact ⟨[], rfl, rfl, rfl, nofun⟩
      · rintro ⟨_, _, _, rfl, _⟩
        rfl
  | succ count ih =>
      simp only [Times, ih]
      constructor
      · rintro ⟨k, ⟨c, hc, hs, rfl⟩, run, rfl, hdrop, hj, hrun⟩
        obtain ⟨hi, rfl⟩ := List.getElem?_eq_some_iff.1 hc
        refine ⟨text[i] :: run, rfl, ?_, by omega, List.forall_mem_cons.2 ⟨hs, hrun⟩⟩
        rw [List.drop_eq_getElem_cons hi, hdrop, List.cons_append]
      · rintro ⟨run, hlength, hdrop, hj, hrun⟩
        obtain ⟨c, run, rfl⟩ := List.exists_cons_of_length_eq_add_one hlength
        rw [List.forall_mem_cons] at hrun
        obtain ⟨hs, hrun⟩ := hrun
        have hc : text[i]? = some c := by
          rw [← List.head?_drop, hdrop]
          rfl
        obtain ⟨hi, rfl⟩ := List.getElem?_eq_some_iff.1 hc
        rw [List.drop_eq_getElem_cons hi, List.cons_append] at hdrop
        exact ⟨i + 1, ⟨_, hc, hs, rfl⟩, run, Nat.succ.inj hlength, (List.cons.inj hdrop).2, by omega,
          hrun⟩

theorem holds_single {c d : Char} :
    (CharSet.ranges [(c.toNat, c.toNat)]).holds d.toNat = true ↔ d = c := by
  rw [← Char.toNat_inj, CharSet.holds, CodeRanges.holds, CodeRanges.holds, Bool.or_false]
  split
  next => exact iff_of_false Bool.false_ne_true (by omega)
  next => rw [decide_eq_true_eq]; omega

theorem holds_not_lineFeed {c : Char} :
    (CharSet.complement (.ranges [(0x0A, 0x0A)])).holds c.toNat = true ↔ c ≠ '\n' := by
  have hline : (CharSet.ranges [('\n'.toNat, '\n'.toNat)]).holds c.toNat = true ↔ c = '\n' :=
    holds_single
  show (!(CharSet.ranges [('\n'.toNat, '\n'.toNat)]).holds c.toNat) = true ↔ _
  rw [Bool.not_eq_true', Bool.eq_false_iff, ne_eq, hline]

/-- A star covers a run within a line. -/
theorem spans_star_iff {k : Nat} :
    (meaning '*').Spans text i k ↔
      ∃ run, '\n' ∉ run ∧ text.drop i = run ++ text.drop k ∧ i + run.length = k := by
  have hline : ∀ run : List Char, (∀ c ∈ run, (CharSet.complement (.ranges [(0x0A, 0x0A)])).holds
      c.toNat = true) ↔ '\n' ∉ run := by
    intro run
    simp only [holds_not_lineFeed]
    exact ⟨fun h hmem => h _ hmem rfl, fun h c hc hn => h (hn ▸ hc)⟩
  show (∃ count, 0 ≤ count ∧ (∀ m ∈ none, count ≤ max 0 m) ∧ Times _ count i k) ↔ _
  simp only [times_chars_iff, hline]
  constructor
  · rintro ⟨_, -, -, run, rfl, hdrop, hk, hrun⟩
    exact ⟨run, hrun, hdrop, hk⟩
  · rintro ⟨run, hrun, hdrop, hk⟩
    exact ⟨run.length, Nat.zero_le _, nofun, run, rfl, hdrop, hk, hrun⟩

/-- Another character covers itself. -/
theorem spans_char_iff {c : Char} {k : Nat} (hc : c ≠ '*') :
    (meaning c).Spans text i k ↔ text[i]? = some c ∧ i + 1 = k := by
  rw [meaning, if_neg hc]
  show (∃ d, text[i]? = some d ∧ _ ∧ i + 1 = k) ↔ _
  simp only [holds_single]
  constructor
  · rintro ⟨_, hi, rfl, hk⟩
    exact ⟨hi, hk⟩
  · rintro ⟨hi, hk⟩
    exact ⟨c, hi, rfl, hk⟩

/-- What is known of the places of a text holds after a star of some rest behind a run. -/
theorem exists_star_iff {P : Nat → Prop} {Q : List Char → Prop}
    (h : ∀ k ≤ text.length, P k ↔ Q (text.drop k)) (hi : i ≤ text.length) :
    (∃ k, (meaning '*').Spans text i k ∧ P k) ↔
      ∃ run rest, '\n' ∉ run ∧ Q rest ∧ text.drop i = run ++ rest := by
  simp only [spans_star_iff]
  constructor
  · rintro ⟨k, ⟨run, hrun, hdrop, rfl⟩, hk⟩
    have hlength := congrArg List.length hdrop
    rw [List.length_append, List.length_drop, List.length_drop] at hlength
    exact ⟨run, _, hrun, (h _ (by omega)).1 hk, hdrop⟩
  · rintro ⟨run, rest, hrun, hrest, hdrop⟩
    have hlength := congrArg List.length hdrop
    rw [List.length_append, List.length_drop] at hlength
    have hrestDrop : text.drop (i + run.length) = rest := by
      rw [← List.drop_drop, hdrop, List.drop_left]
    refine ⟨i + run.length, ⟨run, hrun, by rw [hrestDrop, hdrop], rfl⟩, (h _ (by omega)).2 ?_⟩
    rwa [hrestDrop]

/-- The same after another character, of the rest behind it. -/
theorem exists_char_iff {c : Char} {P : Nat → Prop} {Q : List Char → Prop} (hc : c ≠ '*')
    (h : ∀ k ≤ text.length, P k ↔ Q (text.drop k)) :
    (∃ k, (meaning c).Spans text i k ∧ P k) ↔ ∃ rest, Q rest ∧ text.drop i = c :: rest := by
  simp only [spans_char_iff hc]
  constructor
  · rintro ⟨_, ⟨hget, rfl⟩, hk⟩
    obtain ⟨hlt, rfl⟩ := List.getElem?_eq_some_iff.1 hget
    exact ⟨_, (h _ hlt).1 hk, List.drop_eq_getElem_cons hlt⟩
  · rintro ⟨rest, hrest, hdrop⟩
    have hget : text[i]? = some c := by
      rw [← List.head?_drop, hdrop]
      rfl
    obtain ⟨hlt, rfl⟩ := List.getElem?_eq_some_iff.1 hget
    rw [List.drop_eq_getElem_cons hlt] at hdrop
    refine ⟨i + 1, ⟨hget, rfl⟩, (h _ hlt).2 ?_⟩
    rwa [(List.cons.inj hdrop).2]

/-- The end of the expression matches at the end of a text. -/
theorem exists_remainder_nil : (∃ j, (remainder []).Spans text i j) ↔ text.length ≤ i := by
  rw [← List.getElem?_eq_none_iff]
  show (∃ j k, ((text[i]?).isNone = true ∧ i = k) ∧ k = j) ↔ _
  simp

/-- The rest of a pattern matches the rest of a text. -/
theorem spans_remainder_iff (pattern : List Char) (hi : i ≤ text.length) :
    (∃ j, (remainder pattern).Spans text i j) ↔ Matches pattern (text.drop i) := by
  induction pattern generalizing i with
  | nil =>
      rw [exists_remainder_nil, ← List.drop_eq_nil_iff]
      constructor
      · intro hdrop
        rw [hdrop]
        exact .nil
      · intro hmatches
        generalize text.drop i = rest at hmatches
        cases hmatches
        rfl
  | cons c cs ih =>
      have hseq : (∃ j, (remainder (c :: cs)).Spans text i j) ↔
          ∃ k, (meaning c).Spans text i k ∧ ∃ j, (remainder cs).Spans text k j := by
        show (∃ j k, (meaning c).Spans text i k ∧ (remainder cs).Spans text k j) ↔ _
        rw [exists_comm]
        simp only [exists_and_left]
      rw [hseq]
      by_cases hc : c = '*'
      · subst hc
        rw [matches_star_iff, exists_star_iff (fun _ => ih) hi]
      · rw [matches_char_iff hc, exists_char_iff hc fun _ => ih]

/-- The expression matches what the pattern matches. -/
theorem matchesIn_regex_iff (pattern text : List Char) :
    (regex pattern).matchesIn text = true ↔ Matches pattern text := by
  have hrest : (∃ j, (remainder pattern).Spans text 0 j) ↔ Matches pattern text := by
    rw [spans_remainder_iff pattern (Nat.zero_le _), List.drop_zero]
  have hbefore : ∀ i ≤ text.length, (charBefore text i).isNone = true → i = 0 := by
    intro i hi hnone
    cases i with
    | zero => rfl
    | succ i =>
        rw [charBefore, List.getElem?_eq_getElem hi] at hnone
        cases hnone
  rw [Regex.matchesIn_iff, ← hrest]
  constructor
  · rintro ⟨i, j, hi, _, ⟨hnone, rfl⟩, hj⟩
    obtain rfl := hbefore i hi hnone
    exact ⟨j, hj⟩
  · rintro ⟨j, hj⟩
    exact ⟨0, j, Nat.zero_le _, 0, ⟨rfl, rfl⟩, hj⟩

end Glob

/-! ## The count -/

/-- A count has one value: the number of declared names that are the pattern with some text in
place of each star.  Any other character stands for itself, whatever it may mean elsewhere.  The
regular expression for the pattern matches the same names, and a pattern has one unless it is
too large.  `Scope.countMatching` leaves out this limit on the size, so the first part holds of
longer patterns as well, for which there is no regular expression. -/
theorem Expr.eval_count {π : Type} [Page π] {s : Scope π} {source : String} {argument : Expr}
    {pattern : Value} (hpattern : argument.eval s source = .ok pattern)
    (hline : ∀ name, s.objects.contains name = true → '\n' ∉ name.toList) :
    (Expr.call "count" [argument]).eval s source =
        .ok (.number (Float.ofNat {name | s.objects.contains name = true ∧
          Glob.Fits pattern.display.toList name.toList}.ncard)) ∧
      (96 + 112 * pattern.display.toList.length ≤ sizeLimit →
        ∃ r, Regex.ofText? (Glob.regexText pattern.display.toList) = some r ∧
          ∀ name, s.objects.contains name = true →
            (r.matchesIn name.toList = true ↔ Glob.Fits pattern.display.toList name.toList)) := by
  constructor
  · rw [← s.countMatching_eq_ncard hline, Expr.eval, evalAll, hpattern]
    rfl
  · intro hsize
    refine ⟨Glob.regex pattern.display.toList, ?_, fun name hname => ?_⟩
    · rw [Glob.ofText?_regexText, if_pos ((Glob.size_regex_le _).trans hsize)]
    · rw [Glob.matchesIn_regex_iff, Glob.matches_iff_fits (hline name hname)]

/-- The dot of the pattern is a dot, and its stars stand for runs of any length. -/
theorem Expr.eval_count_items :
    let s : Scope Snapshot := ⟨.empty, .ofList (["menu.item-1", "menu.-10", "menu-item-1",
      "sub.menu.item-1"].map fun name => (name, ⟨.id, name, none⟩)), none⟩
    (Expr.call "count" [.string "menu.*-*1*"]).eval s "" = .ok (.number (Float.ofNat 2)) ∧
      {name | s.objects.contains name = true ∧
        Glob.Fits "menu.*-*1*".toList name.toList}.ncard = 2 ∧
      ∃ r, Regex.ofText? "^menu\\..*\\-.*1.*$".toList = some r ∧
        ∀ name, s.objects.contains name = true →
          (r.matchesIn name.toList = true ↔ Glob.Fits "menu.*-*1*".toList name.toList) := by
  intro s
  have hline : ∀ name, s.objects.contains name = true → '\n' ∉ name.toList := by
    intro name hname
    rw [← Table.mem_names_iff] at hname
    exact (by decide : ∀ name ∈ s.objects.names, '\n' ∉ name.toList) name hname
  have hcount : {name | s.objects.contains name = true ∧
      Glob.Fits "menu.*-*1*".toList name.toList}.ncard = 2 := by
    rw [← s.countMatching_eq_ncard hline]
    decide +kernel
  have hpattern : (Expr.string "menu.*-*1*").eval s "" = .ok (.text "menu.*-*1*") := rfl
  have htext : Glob.regexText "menu.*-*1*".toList = "^menu\\..*\\-.*1.*$".toList := by decide
  obtain ⟨hvalue, hmatches⟩ := Expr.eval_count hpattern hline
  rw [show (Value.text "menu.*-*1*").display = "menu.*-*1*" from rfl] at hvalue hmatches
  rw [hcount] at hvalue
  rw [htext] at hmatches
  exact ⟨hvalue, hcount, hmatches (by decide)⟩

end PageLayout
