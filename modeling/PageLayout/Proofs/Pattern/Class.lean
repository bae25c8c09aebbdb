import PageLayout.Proofs.Pattern.Escape

/-!
# Classes with something after them

A class that is not closed in a text is not closed by `)$` either, so a class is read
alike alone and with `)$` after it (`local_readClass`).  Inside the class this is not so
for every part.  After the last character of the text a class could start or an item
could end, with the parenthesis as what comes next.  Such a part leaves one character
more over than the others, and the rest of the class makes up for it, since it uses up at
least one (`readClassFrom_length`).

The edge of a word is the one escape that `)$` can complete, and no class has it as an
item (`readClassItem_agree`).
-/

namespace PageLayout.Pattern

variable {β : Type} {b : Bool} {cs rest : List Char} {k : Nat}

/-! ## Signs and names -/

/-- Whether a class is negated, and what stands after the sign. -/
def classSign : List Char → Bool × List Char
  | '^' :: rest => (true, rest)
  | cs => (false, cs)

theorem classSign_of_ne {c : Char} (h : c ≠ '^') (cs : List Char) :
    classSign (c :: cs) = (false, c :: cs) := by
  unfold classSign
  split
  next heq => exact absurd (List.cons.inj heq).1 h
  next => rfl

theorem classSign_append (cs : List Char) :
    classSign (cs ++ closing) = ((classSign cs).1, (classSign cs).2 ++ closing) := by
  cases cs with
  | nil => rfl
  | cons c cs =>
      by_cases hc : c = '^'
      · subst hc; rfl
      · rw [List.cons_append, classSign_of_ne hc, classSign_of_ne hc]; rfl

theorem classSign_suffix (cs : List Char) : (classSign cs).2 <:+ cs := by
  unfold classSign
  split
  · exact List.suffix_cons _ _
  · exact List.suffix_refl _

theorem takeWhile_closing {p : Char → Bool} {c : Char} (h : cs.dropWhile p = c :: rest) :
    (cs ++ closing).takeWhile p = cs.takeWhile p := by
  have hlength := congrArg List.length (List.takeWhile_append_dropWhile (p := p) (l := cs))
  rw [List.length_append, h, List.length_cons] at hlength
  rw [List.takeWhile_append, if_neg (by omega)]

theorem dropWhile_closing {p : Char → Bool} {c : Char} (h : cs.dropWhile p = c :: rest) :
    (cs ++ closing).dropWhile p = c :: rest ++ closing := by
  rw [List.dropWhile_append, h]
  rfl

/-- The name of a class of ASCII characters, with its end. -/
def readAsciiName (negated : Bool) (cs : List Char) : Option (ClassTree × List Char) :=
  match cs.dropWhile (· != ':') with
  | ':' :: ']' :: rest =>
      if asciiClassNames.contains (String.ofList (cs.takeWhile (· != ':'))) then
        some (.ascii negated (cs.takeWhile (· != ':')), rest)
      else none
  | _ => none

theorem readAsciiName_append (negated : Bool) (cs : List Char) :
    readAsciiName negated (cs ++ closing) =
      (readAsciiName negated cs).map fun p => (p.1, p.2 ++ closing) := by
  unfold readAsciiName
  cases hdrop : cs.dropWhile (· != ':') with
  | nil => rw [List.dropWhile_append, hdrop]; rfl
  | cons d more =>
      rw [takeWhile_closing hdrop, dropWhile_closing hdrop]
      by_cases hend : ∃ rest, d :: more = ':' :: ']' :: rest
      · obtain ⟨rest, hend⟩ := hend
        rw [hend]
        simp only [List.cons_append]
        split <;> rfl
      · -- The closing does not complete the end of a name either.
        have hother := append_closing_ne_two (d := ':') (e := ']') (by decide) (by decide)
          (not_exists.mp hend)
        split
        next rest h => exact absurd h (hother rest)
        next =>
          split
          next rest h => exact absurd ⟨rest, h⟩ hend
          next => rfl

theorem readAsciiName_suffix {negated : Bool} {item : ClassTree}
    (h : readAsciiName negated cs = some (item, rest)) : rest <:+ cs := by
  unfold readAsciiName at h
  split at h
  next after hdrop =>
    split at h
    next =>
      cases h
      have hsuffix : ':' :: ']' :: rest <:+ cs := hdrop ▸ List.dropWhile_suffix _
      exact ((List.suffix_cons _ _).trans (List.suffix_cons _ _)).trans hsuffix
    next => cases h
  next => cases h

theorem readAsciiClass_cons (c : Char) (cs : List Char) :
    readAsciiClass (c :: cs) =
      if c = ':' then readAsciiName (classSign cs).1 (classSign cs).2 else none := by
  by_cases hc : c = ':'
  · subst hc; rfl
  · rw [if_neg hc]
    unfold readAsciiClass
    split
    next heq => exact absurd (List.cons.inj heq).1 hc
    next => rfl

theorem readAsciiClass_suffix {item : ClassTree} (h : readAsciiClass cs = some (item, rest)) :
    rest <:+ cs := by
  cases cs with
  | nil => cases h
  | cons c cs =>
      rw [readAsciiClass_cons] at h
      split at h
      · exact (readAsciiName_suffix h).trans
          ((classSign_suffix cs).trans (List.suffix_cons c cs))
      · cases h

theorem readAsciiClass_append (cs : List Char) :
    readAsciiClass (cs ++ closing) = (readAsciiClass cs).map fun p => (p.1, p.2 ++ closing) := by
  cases cs with
  | nil => rfl
  | cons c cs =>
      rw [List.cons_append, readAsciiClass_cons, readAsciiClass_cons]
      split
      · rw [classSign_append, readAsciiName_append]
      · rfl

/-! ## The start of a class -/

theorem readHyphens_eq (b : Bool) (cs : List Char) :
    readHyphens b cs =
      match skip b cs with
      | '-' :: rest => (.symbol ⟨'-', false⟩ :: (readHyphens b rest).1, (readHyphens b rest).2)
      | cs => ([], cs) := by
  rw [readHyphens]
  split <;> simp [*]

theorem readHyphens_of_ne {cs : List Char} (h : ∀ rest, skip b cs ≠ '-' :: rest) :
    readHyphens b cs = ([], skip b cs) := by
  rw [readHyphens_eq]
  split
  next rest hskip => exact absurd hskip (h rest)
  next => rfl

theorem readHyphens_append (hs : Settled b cs) :
    readHyphens b (cs ++ closing) =
      ((readHyphens b cs).1, (readHyphens b cs).2 ++ closing) := by
  induction cs using readHyphens.induct b with
  | case1 cs after hskip hlt _ _ _ ih =>
      rw [readHyphens_eq, readHyphens_eq b cs, skip_append b hs, hskip]
      simp only [List.cons_append, ih (hs.of_suffix (suffix_of_skip hskip))]
  | case2 cs hn =>
      rw [readHyphens_of_ne hn, readHyphens_of_ne, skip_append b hs]
      rw [skip_append b hs]
      exact append_closing_ne (by decide) hn

theorem readHyphens_suffix (b : Bool) (cs : List Char) : (readHyphens b cs).2 <:+ cs := by
  induction cs using readHyphens.induct b with
  | case1 cs after hskip hlt _ _ _ ih =>
      rw [readHyphens_eq, hskip]
      exact ih.trans (suffix_of_skip hskip)
  | case2 cs hn =>
      rw [readHyphens_of_ne hn]
      exact skip_suffix b cs

theorem local_readHyphens : Local b k fun cs => some (readHyphens b cs) where
  suffix {cs _ rest} h := by
    have hrest : rest = (readHyphens b cs).2 := by rw [Option.some.inj h]
    exact hrest ▸ readHyphens_suffix b cs
  agree hs := by rw [readHyphens_append hs]; exact .kept _ _

/-- The start of a class after its sign, with the hyphens that were read. -/
def classBody (negated : Bool) :
    List ClassTree × List Char → Option ((Bool × List ClassTree) × List Char)
  | (_, []) => none
  | ([], ']' :: rest) => some ((negated, [.symbol ⟨']', false⟩]), rest)
  | (hyphens, rest) => some ((negated, hyphens), rest)

theorem readClassStart_eq (b : Bool) (cs : List Char) :
    (readClassStart b cs).map (fun p => ((p.1, p.2.1), p.2.2)) =
      classBody (classSign (skip b cs)).1 (readHyphens b (classSign (skip b cs)).2) := by
  unfold readClassStart
  change Option.map _ (match readHyphens b (classSign (skip b cs)).2 with
    | (_, []) => none
    | ([], ']' :: rest) => some ((classSign (skip b cs)).1, [.symbol ⟨']', false⟩], rest)
    | (hyphens, rest) => some ((classSign (skip b cs)).1, hyphens, rest)) = _
  unfold classBody
  split <;> rfl

/-- With nothing left, the first character of the closing would be the first item. -/
theorem local_classBody (negated : Bool) (hyphens : List ClassTree) :
    Local b 3 fun cs => classBody negated (hyphens, cs) where
  suffix h := by
    unfold classBody at h
    split at h
    next => cases h
    next heq => cases heq; cases h; exact List.suffix_cons _ _
    next heq => cases heq; cases h; exact List.suffix_refl _
  agree {cs} _ := by
    cases cs with
    | nil =>
        refine .lost fun p rest h => ?_
        cases hyphens <;> (cases h; decide)
    | cons c cs =>
        by_cases hbracket : hyphens = [] ∧ c = ']'
        · obtain ⟨rfl, rfl⟩ := hbracket
          exact .kept _ cs
        · have hother : ∀ cs, classBody negated (hyphens, c :: cs) =
              some ((negated, hyphens), c :: cs) := by
            intro cs
            unfold classBody
            split
            next heq => cases heq
            next heq => cases heq; exact absurd ⟨rfl, rfl⟩ hbracket
            next heq => cases heq; rfl
          rw [List.cons_append, hother, hother]
          exact .kept _ (c :: cs)

theorem local_readClassStart :
    Local b 3 fun cs => (readClassStart b cs).map fun p => ((p.1, p.2.1), p.2.2) := by
  have hbody : ∀ negated, Local b 3 fun cs => classBody negated (readHyphens b cs) :=
    fun negated => local_readHyphens.bind fun hyphens => local_classBody negated hyphens
  refine ⟨fun {cs _ _} h => ?_, fun {cs} hs => ?_⟩
  · rw [readClassStart_eq] at h
    exact ((hbody _).suffix h).trans ((classSign_suffix _).trans (skip_suffix b cs))
  · rw [readClassStart_eq, readClassStart_eq, skip_append b hs, classSign_append]
    exact (hbody _).agree ((hs.skip b).of_suffix (classSign_suffix _))

theorem readClassStart_suffix {negated : Bool} {first : List ClassTree}
    (h : readClassStart b cs = some (negated, first, rest)) : rest <:+ cs :=
  (local_readClassStart (b := b)).suffix (a := (negated, first)) (by rw [h]; rfl)

/-! ## Items and ranges -/

theorem readClassItem_of_ne {c : Char} (hc : c ≠ '\\') (cs : List Char) :
    readClassItem b (c :: cs) = some (.symbol ⟨c, false⟩, cs) := by
  unfold readClassItem
  split
  next heq => cases heq
  next heq => exact absurd (List.cons.inj heq).1 hc
  next heq => cases heq; rfl

theorem readClassItem_suffix {c : Char} {tree : Tree}
    (h : readClassItem b (c :: cs) = some (tree, rest)) : rest <:+ cs := by
  by_cases hc : c = '\\'
  · subst hc
    cases cs with
    | nil => cases h
    | cons d cs => exact (readEscape_suffix (b := b) h).trans (List.suffix_cons d cs)
  · rw [readClassItem_of_ne hc] at h
    cases h
    exact List.suffix_refl _

/-- An item that is read only because of the closing is a place, which no class has. -/
theorem readClassItem_agree (hs : Settled b cs) :
    Agree 2 (readClassItem b cs) (readClassItem b (cs ++ closing)) ∨
      readClassItem b cs = none ∧ ∀ tree rest,
        readClassItem b (cs ++ closing) = some (tree, rest) → ∃ a, tree = .anchor a := by
  have hlost : ∀ c, cs = [] ∨ cs = [c] ∧ c = '\\' → readClassItem b cs = none →
      Agree 2 (readClassItem b cs) (readClassItem b (cs ++ closing)) := by
    intro c hcs hnone
    rw [hnone]
    refine .lost fun tree rest h => ?_
    obtain rfl | ⟨rfl, rfl⟩ := hcs
    · exact Nat.lt_succ_of_le (readClassItem_suffix h).length_le
    · have h : readEscape b [')', '$'] = some (tree, rest) := h
      exact Nat.lt_succ_of_le (readEscape_suffix h).length_le
  cases cs with
  | nil => exact .inl (hlost '\\' (.inl rfl) rfl)
  | cons c cs =>
      by_cases hc : c = '\\'
      · subst hc
        cases cs with
        | nil => exact .inl (hlost '\\' (.inr ⟨rfl, rfl⟩) rfl)
        | cons d cs =>
            by_cases hd : d = 'b'
            · subst hd
              by_cases hn : ∀ after, cs = '\x7b' :: after → skip b after ≠ []
              · exact .inl (readEdge_agree hs.tail.tail hn)
              · refine .inr ⟨?_, fun tree rest h => ?_⟩
                · push Not at hn
                  obtain ⟨after, rfl, hskip⟩ := hn
                  exact readEdge_brace_nil (b := b) hskip
                · obtain ⟨edge, htree⟩ := (readEdge_suffix (b := b) h).2
                  exact ⟨.word edge, htree⟩
            · exact .inl ((local_readEscape hd).agree hs.tail.tail)
      · rw [List.cons_append, readClassItem_of_ne hc, readClassItem_of_ne hc]
        exact .inl (.kept _ cs)

/-- What follows the first item of a range, or an item alone. -/
def readRangeEnd (spaced : Bool) (first : Tree) (cs : List Char) :
    Option (ClassTree × List Char) :=
  let alone := fun (rest : List Char) => (itemOf? first).map fun item => (item, rest)
  match skip spaced cs with
  | [] => none
  | '-' :: after =>
      match skip spaced after with
      | [] => none
      | ']' :: _ => alone ('-' :: after)
      | '-' :: _ => alone ('-' :: after)
      | second => do
          let (last, rest) ← readClassItem spaced second
          let range ← rangeOf? first last
          return (range, rest)
  | rest => alone rest

theorem readClassRange_eq (b : Bool) (cs : List Char) :
    readClassRange b cs = readClassItem b cs >>= fun p => readRangeEnd b p.1 p.2 := rfl

theorem readRangeEnd_item {first : Tree} {c : Char} (hcs : skip b cs = c :: rest)
    (hc : c ≠ '-') :
    readRangeEnd b first cs = (itemOf? first).map fun item => (item, c :: rest) := by
  unfold readRangeEnd
  rw [hcs]
  split
  next heq => cases heq
  next heq => exact absurd (List.cons.inj heq).1 hc
  next => rfl

theorem readRangeEnd_second {first : Tree} {c : Char} {after : List Char}
    (hcs : skip b cs = '-' :: after) (hafter : skip b after = c :: rest)
    (hc : c ≠ ']' ∧ c ≠ '-') :
    readRangeEnd b first cs = readClassItem b (c :: rest) >>= fun p =>
      (rangeOf? first p.1).map fun range => (range, p.2) := by
  have hrange : (fun p : Tree × List Char => (rangeOf? first p.1).map fun range => (range, p.2)) =
      fun p => rangeOf? first p.1 >>= fun range => some (range, p.2) := by
    funext p
    cases rangeOf? first p.1 <;> rfl
  rw [hrange]
  simp only [readRangeEnd, hcs, hafter]
  split
  next heq => cases heq
  next heq => exact absurd (List.cons.inj heq).1 hc.1
  next heq => exact absurd (List.cons.inj heq).1 hc.2
  next => rfl

theorem readRangeEnd_anchor (b : Bool) (a : Anchor) (cs : List Char) :
    readRangeEnd b (.anchor a) cs = none := by
  unfold readRangeEnd
  split
  · rfl
  · split
    · rfl
    · rfl
    · rfl
    · exact Option.bind_eq_none_iff.mpr fun p _ => rfl
  · rfl

theorem readRangeEnd_suffix {first : Tree} {item : ClassTree}
    (h : readRangeEnd b first cs = some (item, rest)) : rest <:+ cs := by
  unfold readRangeEnd at h
  have halone : ∀ {l}, (itemOf? first).map (fun item => (item, l)) = some (item, rest) →
      l <:+ cs → rest <:+ cs := by
    intro l h hl
    obtain ⟨item, -, h⟩ := Option.map_eq_some_iff.mp h
    cases h
    exact hl
  split at h
  next => cases h
  next after hskip =>
    have hafter : '-' :: after <:+ cs := hskip ▸ skip_suffix b cs
    split at h
    next => cases h
    next => exact halone h hafter
    next => exact halone h hafter
    next =>
      obtain ⟨⟨last, rest'⟩, hlast, h⟩ := Option.bind_eq_some_iff.mp h
      obtain ⟨range, -, h⟩ := Option.bind_eq_some_iff.mp h
      cases h
      cases hmore : skip b after with
      | nil => rw [hmore] at hlast; cases hlast
      | cons d more =>
          rw [hmore] at hlast
          exact (readClassItem_suffix hlast).trans ((suffix_of_skip hmore).trans
            ((List.suffix_cons _ _).trans hafter))
  next => exact halone h (skip_suffix b cs)

theorem readClassRange_suffix {c : Char} {item : ClassTree}
    (h : readClassRange b (c :: cs) = some (item, rest)) : rest <:+ cs := by
  obtain ⟨⟨first, after⟩, hfirst, h⟩ := Option.bind_eq_some_iff.mp h
  have hend : readRangeEnd b first after = some (item, rest) := h
  exact (readRangeEnd_suffix hend).trans (readClassItem_suffix hfirst)

theorem rangeTo_agree {first : Tree} (hs : Settled b cs) :
    Agree 3
      (readClassItem b cs >>= fun p => (rangeOf? first p.1).map fun range => (range, p.2))
      (readClassItem b (cs ++ closing) >>= fun p =>
        (rangeOf? first p.1).map fun range => (range, p.2)) := by
  obtain h | ⟨hnone, hplace⟩ := readClassItem_agree (b := b) hs
  · refine (h.mono (by decide)).bind (fun last after _ => ?_) fun last after item rest h => ?_
    · cases rangeOf? first last with
      | none => exact .none
      | some range => exact .kept range after
    · obtain ⟨range, -, h⟩ := Option.map_eq_some_iff.mp h
      cases h
      exact List.suffix_refl _
  · rw [hnone]
    refine .lost fun item rest h => ?_
    obtain ⟨⟨last, after⟩, hlast, h⟩ := Option.bind_eq_some_iff.mp h
    obtain ⟨a, rfl⟩ := hplace last after hlast
    cases first <;> cases h

theorem itemAlone_agree (first : Tree) (rest : List Char) :
    Agree 3 ((itemOf? first).map fun item => (item, rest))
      ((itemOf? first).map fun item => (item, rest ++ closing)) := by
  cases itemOf? first with
  | none => exact .none
  | some item => exact .kept item rest

/-- After a hyphen comes the end of a range, or the hyphen is an item of its own. -/
theorem readRangeEnd_hyphen_agree {first : Tree} {after : List Char} (hs : Settled b cs)
    (hcs : skip b cs = '-' :: after) :
    Agree 3 (readRangeEnd b first cs) (readRangeEnd b first (cs ++ closing)) := by
  have hskip : skip b (cs ++ closing) = '-' :: (after ++ closing) := by
    rw [skip_append b hs, hcs]
    rfl
  have hsafter := hs.of_suffix (suffix_of_skip hcs)
  have hskipafter := skip_append b hsafter
  cases hafter : skip b after with
  | nil =>
      rw [hafter] at hskipafter
      rw [readRangeEnd_second hskip hskipafter (by decide),
        show readRangeEnd b first cs = none by simp only [readRangeEnd, hcs, hafter]]
      refine .lost fun item rest h => ?_
      obtain ⟨⟨last, rest'⟩, hlast, h⟩ := Option.bind_eq_some_iff.mp h
      obtain ⟨range, -, h⟩ := Option.map_eq_some_iff.mp h
      cases h
      cases hlast
      decide
  | cons d more =>
      rw [hafter] at hskipafter
      by_cases hd : d ≠ ']' ∧ d ≠ '-'
      · rw [readRangeEnd_second hskip hskipafter hd, readRangeEnd_second hcs hafter hd]
        exact rangeTo_agree (hafter ▸ hsafter.skip b)
      · have halone : ∀ {cs after more}, skip b cs = '-' :: after →
            skip b after = d :: more → readRangeEnd b first cs =
              (itemOf? first).map fun item => (item, '-' :: after) := by
          intro cs after more hcs hafter
          rw [not_and_or, not_not, not_not] at hd
          obtain rfl | rfl := hd <;> simp only [readRangeEnd, hcs, hafter]
        rw [halone hcs hafter, halone hskip hskipafter]
        exact itemAlone_agree first ('-' :: after)

theorem readRangeEnd_agree {first : Tree} (hs : Settled b cs) :
    Agree 3 (readRangeEnd b first cs) (readRangeEnd b first (cs ++ closing)) := by
  have hskip := skip_append b hs
  cases hcs : skip b cs with
  | nil =>
      rw [hcs] at hskip
      rw [readRangeEnd_item hskip (by decide), show readRangeEnd b first cs = none by
        simp only [readRangeEnd, hcs]]
      refine .lost fun item rest h => ?_
      obtain ⟨_, -, h⟩ := Option.map_eq_some_iff.mp h
      cases h
      decide
  | cons c after =>
      rw [hcs] at hskip
      by_cases hc : c = '-'
      · subst hc
        exact readRangeEnd_hyphen_agree hs hcs
      · rw [readRangeEnd_item hskip hc, readRangeEnd_item hcs hc]
        exact itemAlone_agree first (c :: after)

theorem readClassRange_agree (hs : Settled b cs) :
    Agree 3 (readClassRange b cs) (readClassRange b (cs ++ closing)) := by
  rw [readClassRange_eq, readClassRange_eq]
  obtain h | ⟨hnone, hplace⟩ := readClassItem_agree (b := b) hs
  · refine (h.mono (by decide)).bind (fun first after hfirst => readRangeEnd_agree ?_)
      fun first after item rest => readRangeEnd_suffix
    cases cs with
    | nil => cases hfirst
    | cons c cs => exact hs.tail.of_suffix (readClassItem_suffix hfirst)
  · rw [hnone]
    refine .lost fun item rest h => ?_
    obtain ⟨⟨first, after⟩, hfirst, h⟩ := Option.bind_eq_some_iff.mp h
    obtain ⟨a, rfl⟩ := hplace first after hfirst
    cases (readRangeEnd_anchor b a after).symm.trans h

/-! ## Whole classes -/

variable {fuel : Nat} {frames : List ClassFrame} {items : List ClassTree}

/-- Reading a class uses up a character. -/
theorem readClassFrom_suffix {tree : Tree}
    (h : readClassFrom b fuel frames items cs = some (tree, rest)) :
    ∃ c after, skip b cs = c :: after ∧ rest <:+ after := by
  induction fuel generalizing frames items cs with
  | zero => cases h
  | succ fuel ih =>
      have ih : ∀ {frames items cs}, readClassFrom b fuel frames items cs = some (tree, rest) →
          rest <:+ cs := by
        intro frames items cs h
        obtain ⟨c, after, hskip, hrest⟩ := ih h
        exact hrest.trans (suffix_of_skip hskip)
      unfold readClassFrom at h
      dsimp only at h
      split at h
      next => cases h
      next after hskip =>
        refine ⟨_, after, hskip, ?_⟩
        split at h
        next item rest' hitem => exact (ih h).trans (readAsciiClass_suffix hitem)
        next =>
          obtain ⟨⟨negated, first, rest'⟩, hstart, h⟩ := Option.bind_eq_some_iff.mp h
          exact (ih h).trans (readClassStart_suffix hstart)
      next after hskip =>
        refine ⟨_, after, hskip, ?_⟩
        split at h
        next => cases h; exact List.suffix_refl _
        next => exact ih h
        next => cases h
      next after hskip => exact ⟨_, _, hskip, (ih h).trans (List.suffix_cons _ _)⟩
      next after hskip => exact ⟨_, _, hskip, (ih h).trans (List.suffix_cons _ _)⟩
      next after hskip => exact ⟨_, _, hskip, (ih h).trans (List.suffix_cons _ _)⟩
      next =>
        obtain ⟨⟨item, rest'⟩, hitem, h⟩ := Option.bind_eq_some_iff.mp h
        cases hskip : skip b cs with
        | nil => rw [hskip] at hitem; cases hitem
        | cons c after =>
            rw [hskip] at hitem
            exact ⟨c, after, rfl, (ih h).trans (readClassRange_suffix hitem)⟩

theorem readClassFrom_length {tree : Tree}
    (h : readClassFrom b fuel frames items cs = some (tree, rest)) : rest.length < cs.length := by
  obtain ⟨c, after, hskip, hrest⟩ := readClassFrom_suffix h
  exact Nat.lt_of_le_of_lt hrest.length_le (length_lt_of_skip hskip)

/-- What comes next in a class is an item. -/
structure ItemNext (cs : List Char) : Prop where
  nil : cs ≠ []
  opening : ∀ rest, cs ≠ '[' :: rest
  ending : ∀ rest, cs ≠ ']' :: rest
  intersection : ∀ rest, cs ≠ '&' :: '&' :: rest
  difference : ∀ rest, cs ≠ '-' :: '-' :: rest
  symmetric : ∀ rest, cs ≠ '~' :: '~' :: rest

theorem ItemNext.append (h : ItemNext cs) : ItemNext (cs ++ closing) := by
  have htwo : ∀ d, d ≠ ')' → (∀ rest, cs ≠ d :: d :: rest) →
      ∀ rest, cs ++ closing ≠ d :: d :: rest := fun d hd => append_closing_ne_two hd hd
  exact ⟨List.append_ne_nil_of_left_ne_nil h.nil closing,
    append_closing_ne (by decide) h.opening, append_closing_ne (by decide) h.ending,
    htwo _ (by decide) h.intersection, htwo _ (by decide) h.difference,
    htwo _ (by decide) h.symmetric⟩

theorem ItemNext.of_not (h : ¬ItemNext cs) :
    cs = [] ∨ (∃ rest, cs = '[' :: rest) ∨ (∃ rest, cs = ']' :: rest) ∨
      (∃ rest, cs = '&' :: '&' :: rest) ∨ (∃ rest, cs = '-' :: '-' :: rest) ∨
      ∃ rest, cs = '~' :: '~' :: rest := by
  by_contra hn
  simp only [not_or, not_exists] at hn
  exact h ⟨hn.1, hn.2.1, hn.2.2.1, hn.2.2.2.1, hn.2.2.2.2.1, hn.2.2.2.2.2⟩

theorem readClassFrom_item (h : ItemNext (skip b cs)) :
    readClassFrom b (fuel + 1) frames items cs =
      readClassRange b (skip b cs) >>= fun p => readClassFrom b fuel frames (p.1 :: items) p.2 := by
  rw [readClassFrom]
  split
  next heq => exact absurd heq h.nil
  next heq => exact absurd heq (h.opening _)
  next heq => exact absurd heq (h.ending _)
  next heq => exact absurd heq (h.intersection _)
  next heq => exact absurd heq (h.difference _)
  next heq => exact absurd heq (h.symmetric _)
  next => rfl

/-- What follows the start of a class, if it uses up a character. -/
theorem readClassStart_bind_agree {f : Bool → List ClassTree → List Char → Option (β × List Char)}
    (hs : Settled b cs)
    (hf : ∀ negated first rest, Settled b rest →
      Agree 2 (f negated first rest) (f negated first (rest ++ closing)))
    (hstrict : ∀ negated first rest t after,
      f negated first rest = some (t, after) → after.length < rest.length) :
    Agree 2 (readClassStart b cs >>= fun p => f p.1 p.2.1 p.2.2)
      (readClassStart b (cs ++ closing) >>= fun p => f p.1 p.2.1 p.2.2) := by
  have hpair : ∀ cs, (readClassStart b cs >>= fun p => f p.1 p.2.1 p.2.2) =
      ((readClassStart b cs).map fun p => ((p.1, p.2.1), p.2.2)) >>= fun p =>
        f p.1.1 p.1.2 p.2 := by
    intro cs
    cases readClassStart b cs <;> rfl
  rw [hpair, hpair]
  exact (local_readClassStart.agree hs).bind_strict
    (fun _ _ hstart => hf _ _ _ (hs.of_suffix (local_readClassStart.suffix hstart)))
    fun _ _ _ _ => hstrict _ _ _ _ _

/-- The reading of a class goes on alike, by induction on the fuel. -/
theorem readClassFrom_agree (hs : Settled b cs) :
    Agree 2 (readClassFrom b fuel frames items cs)
      (readClassFrom b fuel frames items (cs ++ closing)) := by
  induction fuel generalizing frames items cs with
  | zero => exact .none
  | succ fuel ih =>
      have hskip := skip_append b hs
      by_cases hitem : ItemNext (skip b cs)
      · rw [readClassFrom_item hitem, readClassFrom_item (hskip ▸ hitem.append), hskip]
        refine (readClassRange_agree (hs.skip b)).bind_strict (fun item after hr => ih ?_) ?_
        · cases hcs : skip b cs with
          | nil => exact absurd hcs hitem.nil
          | cons c rest =>
              rw [hcs] at hr
              exact hs.of_suffix ((readClassRange_suffix hr).trans (suffix_of_skip hcs))
        · exact fun item after tree rest h => readClassFrom_length h
      · have hafter : ∀ {c after}, skip b cs = c :: after → Settled b after :=
          fun hcs => hs.of_suffix (suffix_of_skip hcs)
        obtain hcs | ⟨after, hcs⟩ | ⟨after, hcs⟩ | ⟨after, hcs⟩ | ⟨after, hcs⟩ | ⟨after, hcs⟩ :=
          ItemNext.of_not hitem
        · rw [show readClassFrom b (fuel + 1) frames items cs = none by
            simp only [readClassFrom, hcs]]
          refine .lost fun tree rest h => ?_
          obtain ⟨c, more, hmore, hrest⟩ := readClassFrom_suffix h
          rw [hskip, hcs] at hmore
          cases hmore
          exact Nat.lt_succ_of_le hrest.length_le
        · have hs' := hafter hcs
          simp only [readClassFrom, hskip, hcs, List.cons_append]
          rw [readAsciiClass_append]
          cases hascii : readAsciiClass after with
          | some p => exact ih (hs'.of_suffix (readAsciiClass_suffix hascii))
          | none =>
              exact readClassStart_bind_agree
                (f := fun negated first rest =>
                  readClassFrom b fuel (.opened negated items :: frames) first.reverse rest)
                hs' (fun _ _ _ hr => ih hr) fun _ _ _ _ _ => readClassFrom_length
        · simp only [readClassFrom, hskip, hcs, List.cons_append]
          obtain ⟨inner, _ | ⟨⟨negated, before⟩ | ⟨op, left⟩, _ | ⟨frame, more⟩⟩⟩ :=
            closeOperator items frames
          · exact .none
          · exact .kept _ after
          · exact ih (hafter hcs)
          · exact .none
          · exact .none
        · simp only [readClassFrom, hskip, hcs, List.cons_append]
          exact ih (hafter hcs).tail
        · simp only [readClassFrom, hskip, hcs, List.cons_append]
          exact ih (hafter hcs).tail
        · simp only [readClassFrom, hskip, hcs, List.cons_append]
          exact ih (hafter hcs).tail

/-- More fuel than characters makes no difference. -/
theorem readClassFrom_fuel {n m : Nat} (hn : cs.length < n) (hm : cs.length < m) :
    readClassFrom b n frames items cs = readClassFrom b m frames items cs := by
  induction n generalizing m frames items cs with
  | zero => cases hn
  | succ n ih =>
      obtain _ | m := m
      · cases hm
      have ih : ∀ {frames items rest}, rest.length < cs.length →
          readClassFrom b n frames items rest = readClassFrom b m frames items rest :=
        fun h => ih (by omega) (by omega)
      by_cases hitem : ItemNext (skip b cs)
      · rw [readClassFrom_item hitem, readClassFrom_item hitem]
        refine Option.bind_congr fun p hp => ih ?_
        cases hcs : skip b cs with
        | nil => exact absurd hcs hitem.nil
        | cons c after =>
            rw [hcs] at hp
            exact Nat.lt_of_le_of_lt (readClassRange_suffix hp).length_le (length_lt_of_skip hcs)
      · obtain hcs | ⟨after, hcs⟩ | ⟨after, hcs⟩ | ⟨after, hcs⟩ | ⟨after, hcs⟩ | ⟨after, hcs⟩ :=
          ItemNext.of_not hitem
        · simp only [readClassFrom, hcs]
        · have hlength := length_lt_of_skip hcs
          simp only [readClassFrom, hcs]
          cases hascii : readAsciiClass after with
          | some p =>
              exact ih (Nat.lt_of_le_of_lt (readAsciiClass_suffix hascii).length_le hlength)
          | none =>
              refine Option.bind_congr fun ⟨negated, first, rest⟩ hstart => ih ?_
              exact Nat.lt_of_le_of_lt (readClassStart_suffix hstart).length_le hlength
        · have hlength := length_lt_of_skip hcs
          simp only [readClassFrom, hcs]
          split
          · rfl
          · exact ih hlength
          · rfl
        all_goals
          have hlength := length_lt_of_skip hcs
          simp only [readClassFrom, hcs]
          exact ih (Nat.lt_of_succ_lt hlength)

theorem readClass_suffix {tree : Tree} (h : readClass b cs = some (tree, rest)) : rest <:+ cs := by
  obtain ⟨⟨negated, first, after⟩, hstart, h⟩ := Option.bind_eq_some_iff.mp h
  obtain ⟨c, more, hmore, hrest⟩ := readClassFrom_suffix h
  exact (hrest.trans (suffix_of_skip hmore)).trans (readClassStart_suffix hstart)

theorem readClass_agree (hs : Settled b cs) :
    Agree 2 (readClass b cs) (readClass b (cs ++ closing)) := by
  -- Both texts are read with the fuel of the longer one.
  have hfuel : readClass b cs = readClassStart b cs >>= fun p =>
      readClassFrom b ((cs ++ closing).length + 1) [.opened p.1 []] p.2.1.reverse p.2.2 := by
    refine Option.bind_congr fun ⟨negated, first, rest⟩ hstart => readClassFrom_fuel ?_ ?_
    · exact Nat.lt_succ_of_le (readClassStart_suffix hstart).length_le
    · rw [List.length_append]
      exact Nat.lt_succ_of_le (Nat.le_add_right_of_le (readClassStart_suffix hstart).length_le)
  rw [hfuel]
  exact readClassStart_bind_agree
    (f := fun negated first rest => readClassFrom b ((cs ++ closing).length + 1)
      [.opened negated []] first.reverse rest)
    hs (fun _ _ _ hr => readClassFrom_agree hr) fun _ _ _ _ _ => readClassFrom_length

theorem local_readClass : Local b 2 (readClass b) := ⟨readClass_suffix, readClass_agree⟩

end PageLayout.Pattern
