import PageLayout.Proofs.Pattern.Flags
import PageLayout.Proofs.Pattern.Reading
import PageLayout.Proofs.Requirement.Line

/-!
# Patterns for whole texts

A requirement on a text holds its pattern without the text for whole texts around it, and
whether a line with a pattern is accepted is decided for the pattern with that text
around it.  The two agree for a pattern that keeps to itself (`isPattern_wholeText_iff`):
it closes no group that it does not open, and it leaves no comment open.

The proof follows the reading of the pattern step by step (`Reading.finish_lift`), once
alone and once inside a group with `)$` after it.  As long as both do the same, the rest
of the pattern is read alike.  Where the step alone fails, the other one fails as well or
uses up a part of `)$`, and then the group is never closed (`finish_short`).

Both conditions are needed, as `read_textMatches_not_iff` shows.  A parenthesis too many
closes the group around the pattern, and a comment at the end hides the parenthesis that
should close it.
-/

namespace PageLayout.Pattern

namespace Reading

variable {r : Reading} {cs rest : List Char} {c : Char} {f : Frame} {n m : Nat}

/-! ## Reading on with the closing -/

/-- A word edge with an opening brace after it, and nothing else.  Alone it is no word edge. -/
def CutEdge (spaced : Bool) (cs : List Char) : Prop :=
  ∃ after, cs = 'b' :: '\x7b' :: after ∧ skip spaced after = []

theorem step_agree (hs : Settled r.spaced cs) (hedge : ¬(c = '\\' ∧ CutEdge r.spaced cs)) :
    Agree 2 (r.step c cs) (r.step c (cs ++ closing)) := by
  by_cases hc : c = '\\'
  · subst hc
    cases cs with
    | nil =>
        refine .lost fun r' rest h => ?_
        have h : (readEscape r.spaced [')', '$']).map (fun p => (r.push p.1, p.2)) =
          some (r', rest) := h
        obtain ⟨⟨tree, after⟩, hescape, h⟩ := Option.map_eq_some_iff.mp h
        cases h
        exact Nat.lt_succ_of_le (readEscape_suffix hescape).length_le
    | cons d cs =>
        by_cases hd : d = 'b'
        · subst hd
          refine (readEdge_agree (b := r.spaced) hs.tail fun after hafter hskip => ?_).map r.push
          exact hedge ⟨rfl, after, by rw [hafter], hskip⟩
        · exact (local_step_escape hd).agree hs.tail
  · exact (local_step hc).agree hs

theorem readNumber_closing (b : Bool) : readNumber b closing = none := by
  have hblank : closing.dropWhile isBlank = ')' :: ['$'] := by decide
  unfold readNumber readCount
  rw [hblank, readDecimals_cons, if_neg (by decide)]
  rfl

theorem finish_nil (hr : r.frames ≠ []) (n : Nat) : r.finish n [] = none := by
  cases n with
  | zero => rfl
  | succ n =>
      have hskip : skip r.spaced [] = [] := List.suffix_nil.mp (skip_suffix r.spaced [])
      rw [finish_succ, hskip]
      dsimp only
      rw [if_neg (by simpa using hr)]

theorem finish_dollar (r : Reading) (n : Nat) :
    r.finish (n + 1) ['$'] = (r.push (.anchor .lineEnd)).finish n [] := by
  have hskip : skip r.spaced ['$'] = ['$'] := by cases r.spaced <;> rfl
  rw [finish_succ, hskip]
  rfl

/-- The end of the closing does not close a group. -/
theorem finish_short (hr : r.frames ≠ []) (h : rest <:+ cs ++ closing) (hlength : rest.length < 2)
    (n : Nat) : r.finish n rest = none := by
  have hclosing : rest <:+ closing :=
    List.suffix_of_suffix_length_le h (List.suffix_append cs closing) (Nat.le_of_lt hlength)
  obtain rfl | hend := List.suffix_cons_iff.mp hclosing
  · exact absurd hlength (by decide)
  obtain rfl | hnil := List.suffix_cons_iff.mp hend
  · cases n with
    | zero => rfl
    | succ n =>
        rw [finish_dollar]
        exact finish_nil (r := r.push _) hr n
  · cases List.suffix_nil.mp hnil
    exact finish_nil hr n

theorem step_cutEdge (h : CutEdge r.spaced cs) : r.step '\\' cs = none := by
  obtain ⟨after, rfl, hskip⟩ := h
  change (readEdge r.spaced ('\x7b' :: after)).map _ = none
  rw [readEdge_brace_nil hskip]
  rfl

/-- A word edge that the closing completes is followed by a repetition that it does not. -/
theorem finish_cutEdge (hs : Settled r.spaced cs) (h : CutEdge r.spaced cs) (n : Nat) :
    (r.step '\\' (cs ++ closing) >>= fun p => p.1.finish n p.2) = none := by
  obtain ⟨after, rfl, hskip⟩ := h
  have happend : skip r.spaced (after ++ closing) = closing := by
    rw [skip_append _ hs.tail.tail, hskip]; rfl
  have hstep : r.step '\\' ('b' :: '\x7b' :: after ++ closing) =
      some (r.push (.anchor (.word .oneSide)), '\x7b' :: (after ++ closing)) := by
    change (readEdge r.spaced ('\x7b' :: (after ++ closing))).map _ = _
    simp only [readEdge, happend]
    rfl
  rw [hstep]
  change (r.push (.anchor (.word .oneSide))).finish n ('\x7b' :: (after ++ closing)) = none
  cases n with
  | zero => rfl
  | succ n =>
      have hbrace : ∀ (b : Bool) cs, skip b ('\x7b' :: cs) = '\x7b' :: cs := by
        intro b cs
        cases b <;> rfl
      rw [finish_succ, hbrace]
      change (r.push _).step '\x7b' (after ++ closing) >>= _ = none
      rw [step_brace, readBounds_eq]
      change (readNumber r.spaced (skip r.spaced (after ++ closing)) >>= _) >>= _ >>= _ = none
      rw [happend, readNumber_closing]
      rfl

/-- Whether a pattern keeps to itself: it closes no group that it does not open, and while
comments are skipped it leaves none open. -/
def selfContained (r : Reading) : (fuel : Nat) → List Char → Bool
  | 0, _ => true
  | fuel + 1, cs =>
      (!r.spaced || commentsEnd cs) &&
        match skip r.spaced cs with
        | [] => true
        | c :: cs =>
            (c != ')' || !r.frames.isEmpty) &&
              match r.step c cs with
              | some (r, rest) => r.selfContained fuel rest
              | none => true

theorem settled_of_selfContained (h : r.selfContained (n + 1) cs = true) :
    Settled r.spaced cs := by
  intro hspaced
  have hend := (Bool.and_eq_true_iff.mp h).1
  rwa [hspaced] at hend

theorem selfContained_next (h : r.selfContained (n + 1) cs = true)
    (hskip : skip r.spaced cs = c :: rest) :
    (c ≠ ')' ∨ r.frames ≠ []) ∧
      ∀ r' after, r.step c rest = some (r', after) → r'.selfContained n after = true := by
  have hnext := (Bool.and_eq_true_iff.mp h).2
  rw [hskip] at hnext
  obtain ⟨hopen, hrest⟩ := Bool.and_eq_true_iff.mp hnext
  refine ⟨?_, fun r' after hstep => by rwa [hstep] at hrest⟩
  simpa using hopen

/-- The pattern around a group that holds a tree, with the end of the text after the group. -/
def wrap (f : Frame) (t : Tree) : Tree :=
  body { parts := .anchor .lineEnd :: .group f.change t :: f.parts, branches := f.branches }

/-- At the end of a pattern the closing ends the group around it, if no other group is open. -/
theorem finish_close (n : Nat) :
    ((r.lift f).step ')' ['$'] >>= fun p => p.1.finish (n + 2) p.2) =
      (if r.frames.isEmpty then some r.body else none).map (wrap f) := by
  obtain ⟨parts, branches, frames, spaced, names⟩ := r
  cases frames with
  | nil =>
      change finish _ (n + 2) ['$'] = _
      have hskip : skip f.spaced [] = [] := List.suffix_nil.mp (skip_suffix f.spaced [])
      rw [finish_dollar, finish_succ]
      change (match skip f.spaced [] with | [] => _ | _ :: _ => _) = _
      rw [hskip]
      rfl
  | cons g frames =>
      change finish _ (n + 2) ['$'] = none
      rw [finish_dollar]
      exact finish_nil (List.append_ne_nil_of_right_ne_nil frames (List.cons_ne_nil f [])) _

/-- A pattern is read inside a group as it is read alone. -/
theorem finish_lift (hn : cs.length < n) (hm : (cs ++ closing).length < m)
    (h : r.selfContained n cs = true) :
    (r.lift f).finish m (cs ++ closing) = (r.finish n cs).map (wrap f) := by
  induction n generalizing r cs m with
  | zero => cases hn
  | succ n ih =>
      obtain _ | m := m
      · cases hm
      have hs := settled_of_selfContained h
      rw [finish_succ, finish_succ, lift_spaced, skip_append _ hs]
      cases hskip : skip r.spaced cs with
      | nil =>
          have hlength : closing.length = 2 := rfl
          rw [List.length_append] at hm
          obtain ⟨m, rfl⟩ := Nat.exists_eq_add_of_le' (show 2 ≤ m by omega)
          exact finish_close m
      | cons c after =>
          have hsafter := hs.of_suffix (suffix_of_skip hskip)
          have hlength := length_lt_of_skip hskip
          obtain ⟨hopen, hrest⟩ := selfContained_next h hskip
          dsimp only [List.cons_append]
          rw [step_lift hopen]
          by_cases hedge : c = '\\' ∧ CutEdge r.spaced after
          · obtain ⟨rfl, hcut⟩ := hedge
            rw [step_cutEdge hcut]
            have hnone := finish_cutEdge (r := r.lift f) hsafter hcut m
            rwa [step_lift hopen] at hnone
          · obtain ⟨r', rest, hstep, hwhole⟩ | ⟨hstep, hlost⟩ := (step_agree hsafter hedge).cases
            · rw [hstep, hwhole]
              have hsuffix := step_suffix hstep
              have hshorter := hsuffix.length_le
              rw [List.length_append] at hm
              exact ih (by omega) (by rw [List.length_append]; omega) (hrest r' rest hstep)
            · rw [hstep]
              cases hwhole : r.step c (after ++ closing) with
              | none => rfl
              | some p =>
                  exact finish_short (r := p.1.lift f) (by simp [lift]) (step_suffix hwhole)
                    (hlost p.1 p.2 hwhole) m

/-- What is read to the end closes no group that is not open. -/
theorem selfContained_of_finish {t : Tree} (h : r.finish n cs = some t) (hcomment : '#' ∉ cs) :
    r.selfContained n cs = true := by
  induction n generalizing r cs with
  | zero => rfl
  | succ n ih =>
      have hsettled : (!r.spaced || commentsEnd cs) = true := by
        rw [settled_of_not_mem (b := true) hcomment rfl, Bool.or_true]
      rw [finish_succ] at h
      rw [selfContained, hsettled, Bool.true_and]
      cases hskip : skip r.spaced cs with
      | nil => rfl
      | cons c after =>
          rw [hskip] at h
          obtain ⟨⟨r', rest⟩, hstep, h⟩ := Option.bind_eq_some_iff.mp h
          have hopen : (c != ')' || !r.frames.isEmpty) = true := by
            by_contra hn
            simp at hn
            obtain ⟨rfl, hframes⟩ := hn
            have hnone : r.step ')' after = none := by
              change r.closeGroup?.map _ = none
              rw [closeGroup?, hframes]
              rfl
            cases hnone.symm.trans hstep
          dsimp only
          rw [hopen, hstep, Bool.true_and]
          have hrest := (step_suffix hstep).trans (suffix_of_skip hskip)
          exact ih h fun hmem => hcomment (hrest.subset hmem)

end Reading

/-! ## Patterns alone and in the text for whole texts -/

/-- A text is a pattern, whatever its depth and its size. -/
def IsPattern (cs : List Char) : Prop :=
  ∃ t, Reading.finish {} (cs.length + 1) cs = some t ∧ (t.meaning? {}).isSome

/-- A text closes no group that it does not open, and leaves no comment open. -/
def SelfContained (cs : List Char) : Prop :=
  Reading.selfContained {} (cs.length + 1) cs = true

/-- If a text is a pattern, it is neither too deep nor too large. -/
def InLimits (cs : List Char) : Prop :=
  ∀ t r f, Reading.finish {} (cs.length + 1) cs = some t → t.meaning? {} = some (r, f) →
    t.depth ≤ depthLimit ∧ r.size ≤ sizeLimit

theorem isSome_ofText?_iff (cs : List Char) :
    (Regex.ofText? cs).isSome ↔ IsPattern cs ∧ InLimits cs := by
  unfold IsPattern InLimits Regex.ofText? Tree.ofText?
  cases Reading.finish {} (cs.length + 1) cs with
  | none => simp
  | some t =>
      cases hmeaning : t.meaning? {} with
      | none =>
          by_cases hdepth : t.depth ≤ depthLimit <;> simp [hmeaning, hdepth]
      | some p =>
          obtain ⟨r, f⟩ := p
          have hlimits : (∀ u r f, some t = some u → u.meaning? {} = some (r, f) →
              u.depth ≤ depthLimit ∧ r.size ≤ sizeLimit) ↔
              t.depth ≤ depthLimit ∧ r.size ≤ sizeLimit := by
            constructor
            · exact fun h => h t r f rfl hmeaning
            · rintro h _ _ _ ⟨⟩ hu
              cases hmeaning.symm.trans hu
              exact h
          rw [hlimits]
          by_cases hdepth : t.depth ≤ depthLimit <;>
            by_cases hsize : r.size ≤ sizeLimit <;> simp [hmeaning, hdepth, hsize]

/-- The group around a pattern in the text for whole texts. -/
def outer : Frame := ⟨[.anchor .lineStart, .flags [(.dotAll, true)]], [], [], false⟩

theorem wholeText_eq (p : List Char) :
    wholeText p = '(' :: '?' :: 's' :: ')' :: '^' :: '(' :: '?' :: ':' :: (p ++ closing) := rfl

theorem length_wholeText (p : List Char) : (wholeText p).length = p.length + 10 := by
  rw [wholeText_eq]
  simp only [List.length_cons, List.length_append]
  rfl

theorem finish_wholeText (n : Nat) (p : List Char) :
    Reading.finish {} (n + 3) (wholeText p) = (Reading.lift {} outer).finish n (p ++ closing) :=
  rfl

/-- The text around a pattern adds two places and a change of flags. -/
theorem isSome_meaning?_wrap (t : Tree) :
    ((Reading.wrap outer t).meaning? {}).isSome = (t.meaning? {}).isSome := by
  have hsame := (t.meaning?_dotAll (f := {}) ⟨true, rfl⟩).isSome_eq
  have hwrap : Reading.wrap outer t = .sequence
      [.flags [(.dotAll, true)], .anchor .lineStart, .group [] t, .anchor .lineEnd] := rfl
  rw [hsame, hwrap]
  cases hmeaning : t.meaning? { dotAll := true } <;>
    simp [Tree.meaning?, sequenceMeaning?, Flags.change, Flags.set, hmeaning]

variable {p : List Char}

theorem isPattern_wholeText_iff (h : SelfContained p) :
    IsPattern (wholeText p) ↔ IsPattern p := by
  have hread : Reading.finish {} ((wholeText p).length + 1) (wholeText p) =
      (Reading.finish {} (p.length + 1) p).map (Reading.wrap outer) := by
    rw [length_wholeText, show p.length + 10 + 1 = p.length + 8 + 3 from rfl, finish_wholeText]
    exact Reading.finish_lift (Nat.lt_succ_self _)
      (by rw [List.length_append, show closing.length = 2 from rfl]; omega) h
  unfold IsPattern
  rw [hread]
  constructor
  · rintro ⟨_, ht, hmeaning⟩
    obtain ⟨t, hfinish, rfl⟩ := Option.map_eq_some_iff.mp ht
    exact ⟨t, hfinish, isSome_meaning?_wrap t ▸ hmeaning⟩
  · rintro ⟨t, hfinish, hmeaning⟩
    exact ⟨_, Option.map_eq_some_iff.mpr ⟨t, hfinish, rfl⟩, (isSome_meaning?_wrap t).trans hmeaning⟩

/-- A pattern without comments stays one in the text for whole texts. -/
theorem IsPattern.wholeText (h : IsPattern p) (hcomment : '#' ∉ p) : IsPattern (wholeText p) := by
  obtain ⟨t, hread, -⟩ := id h
  exact (isPattern_wholeText_iff (Reading.selfContained_of_finish hread hcomment)).mpr h

end PageLayout.Pattern

/-! ## Lines with a pattern -/

namespace PageLayout.Requirement

open Pattern

variable {tolerance : Float} {p : List Char}

theorem read_textMatches (p : List Char) :
    read tolerance ("text matches:".toList ++ p) =
      if (Regex.whole? (String.ofList (Text.trim p))).isNone then
        .error (.badPattern (String.ofList (Text.trim p)))
      else .ok (.text .matches (String.ofList (Text.trim p)) []) := by
  have hsplit : splitLine ("text matches:".toList ++ p) =
      (Text.spaced (textWords .matches []), (String.ofList (Text.trim p)).toList) := by
    rw [splitLine, show "text matches:".toList ++ p =
      "text matches".toList ++ (':' :: [] ++ p) from rfl, Text.splitOnce_append (by decide)]
    exact Prod.ext
      (show Text.trim "text matches".toList = Text.spaced (textWords .matches []) by decide)
      String.toList_ofList.symm
  have hwords : (Text.words (Text.spaced (textWords .matches []))).drop 1 = ["matches".toList] := by
    rw [Text.words_spaced fun w hw => (textWords_word w hw).1]
    rfl
  have hcheck : TextCheck.ofWord? (String.ofList "matches".toList) = some .matches := by decide
  rw [read_text hsplit, readText, hwords]
  dsimp only [List.getLastD, List.getLast, List.dropLast, List.mapM_nil]
  rw [hcheck, String.ofList_toList]
  rfl

/-- A line asks for a pattern that is one alone. -/
theorem read_textMatches_iff (h : SelfContained (Text.trim p)) :
    (∃ r, read tolerance ("text matches:".toList ++ p) = .ok r) ↔
      IsPattern (Text.trim p) ∧ InLimits (wholeText (Text.trim p)) := by
  rw [read_textMatches, ← isPattern_wholeText_iff h, ← isSome_ofText?_iff, Regex.whole?,
    String.toList_ofList]
  cases Regex.ofText? (wholeText (Text.trim p)) <;> simp

theorem read_textMatches_iff_choice :
    let p := " (?<n>#a|b)*c".toList
    SelfContained (Text.trim p) ∧ ∃ r, read 2 ("text matches:".toList ++ p) = .ok r := by
  intro p
  have h : SelfContained (Text.trim p) := by
    unfold SelfContained
    decide +kernel
  refine ⟨h, (read_textMatches_iff h).mpr ⟨?_, ?_⟩⟩
  · exact ((isSome_ofText?_iff _).mp (by decide +kernel)).1
  · exact ((isSome_ofText?_iff _).mp (by decide +kernel)).2

/-- A parenthesis that the pattern does not open closes the group around it.  A comment that it
does not end hides the end of that group. -/
theorem read_textMatches_not_iff :
    (∃ r, read 2 ("text matches:".toList ++ " a)|(b".toList) = .ok r) ∧
      ¬IsPattern "a)|(b".toList ∧
      IsPattern "(?x)a #".toList ∧
      ¬∃ r, read 2 ("text matches:".toList ++ " (?x)a #".toList) = .ok r := by
  have hread : ∀ p : List Char, (∃ r, read 2 ("text matches:".toList ++ p) = .ok r) ↔
      (Regex.ofText? (wholeText (Text.trim p))).isSome := by
    intro p
    rw [read_textMatches, Regex.whole?, String.toList_ofList]
    cases Regex.ofText? (wholeText (Text.trim p)) <;> simp
  refine ⟨(hread _).mpr (by decide +kernel), ?_, ((isSome_ofText?_iff _).mp (by decide +kernel)).1,
    fun h => absurd ((hread _).mp h) (by decide +kernel)⟩
  rintro ⟨t, ht, -⟩
  have hnone : (Reading.finish {} ("a)|(b".toList.length + 1) "a)|(b".toList).isNone := by
    decide +kernel
  rw [ht] at hnone
  cases hnone

end PageLayout.Requirement
