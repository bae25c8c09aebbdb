import PageLayout.Proofs.Expression.Spacing

/-!
# The position in an expression

`round` is one round of the loop that cuts an expression into tokens, as a machine carries it
out.  The text stays as it is, and a round finds the position where the next one starts.  Two
loops inside it move that position: `skip` moves it forward over characters of a class, and
`stepBack` moves it back over the hyphens at the end of a name.

A round finds the token that is read where it starts, and ends where the rest of the text begins
(`round_eq_lexeme`).  So it takes a piece of the text, which is a blank or the spelling of one
token, and the next round starts behind that piece (`exists_piece`).  Therefore the loop ends
after no more rounds than there are characters (`exists_runs`), and the pieces of its rounds make
up the text (`Runs.exists_pieces`).
-/

namespace PageLayout.Token

/-! ## One round -/

/-- The first position from `i` on where no character of a class stands, or the end. -/
def skip (p : Char → Bool) (text : List Char) (i : Nat) : Nat :=
  if h : text[i]?.any p then skip p text (i + 1) else i
termination_by text.length - i
decreasing_by
  obtain ⟨c, hc, -⟩ := (Option.any_eq_true p _).1 h
  obtain ⟨hi, -⟩ := List.getElem?_eq_some_iff.1 hc
  omega

/-- The position that steps back over hyphens lead to, none of them beyond `least`. -/
def stepBack (text : List Char) (least : Nat) : Nat → Nat
  | 0 => 0
  | i + 1 => if least < i + 1 ∧ text[i]? = some '-' then stepBack text least i else i + 1

/-- One round at the position `i`, where `c` stands: the token that is found, unless `c` is
blank, and the position of the next round. -/
def round (text : List Char) (i : Nat) (c : Char) : Except ParseFault (Option Token × Nat) :=
  if isBlank c then .ok (none, i + 1)
  else if isNumberPart c then
    let j := skip isNumberPart text i
    match Decimal.read? (text.extract i j) with
    | some x => .ok (some (.number x), j)
    | none => .error (.badNumber (String.ofList (text.extract i j)))
  else if c == '"' || c == '\'' then
    let j := skip (· != c) text (i + 1)
    if j < text.length then
      .ok (some (.string (String.ofList (text.extract (i + 1) j))), j + 1)
    else .error .unterminatedString
  else if startsName c then
    let j := stepBack text (i + 1) (skip isNamePart text i)
    .ok (some (.name (String.ofList (text.extract i j))), j)
  else
    match Operator.ofChar? c with
    | some op => .ok (some (.operator op), i + 1)
    | none =>
        if c == '(' then .ok (some .opening, i + 1)
        else if c == ')' then .ok (some .closing, i + 1)
        else if c == ',' then .ok (some .comma, i + 1)
        else .error (.unexpectedCharacter c)

/-- `Runs text n i ts r` says that the loop ends after `n` rounds with the result `r`, if it goes
on at the position `i` with the tokens `ts` so far. -/
inductive Runs (text : List Char) :
    Nat → Nat → List Token → Except ParseFault (List Token) → Prop
  | done {i : Nat} {ts : List Token} : text.length ≤ i → Runs text 0 i ts (.ok ts)
  | fault {i : Nat} {ts : List Token} {c : Char} {f : ParseFault} :
      text[i]? = some c → round text i c = .error f → Runs text 1 i ts (.error f)
  | next {n i j : Nat} {ts : List Token} {c : Char} {t : Option Token}
      {r : Except ParseFault (List Token)} :
      text[i]? = some c → round text i c = .ok (t, j) → Runs text n j (ts ++ t.toList) r →
        Runs text (n + 1) i ts r

/-- The loop can end in one way only. -/
theorem Runs.deterministic {text : List Char} {n m i : Nat} {ts : List Token}
    {r r' : Except ParseFault (List Token)} (h : Runs text n i ts r) (h' : Runs text m i ts r') :
    m = n ∧ r' = r := by
  induction h generalizing m with
  | done hi =>
      have hnone := List.getElem?_eq_none hi
      cases h' with
      | done => exact ⟨rfl, rfl⟩
      | fault hc | next hc => rw [hnone] at hc; cases hc
  | fault hc hround =>
      cases h' with
      | done hi => rw [List.getElem?_eq_none hi] at hc; cases hc
      | fault hc' hround' =>
          cases hc.symm.trans hc'
          cases hround.symm.trans hround'
          exact ⟨rfl, rfl⟩
      | next hc' hround' =>
          cases hc.symm.trans hc'
          cases hround.symm.trans hround'
  | next hc hround _ ih =>
      cases h' with
      | done hi => rw [List.getElem?_eq_none hi] at hc; cases hc
      | fault hc' hround' =>
          cases hc.symm.trans hc'
          cases hround.symm.trans hround'
      | next hc' hround' h' =>
          cases hc.symm.trans hc'
          cases hround.symm.trans hround'
          obtain ⟨rfl, rfl⟩ := ih h'
          exact ⟨rfl, rfl⟩

/-! ## The loops inside a round -/

section Loops

variable {p : Char → Bool} {c : Char} {word cs : List Char} (before : List Char)

theorem getElem?_head (c : Char) (cs : List Char) :
    (before ++ c :: cs)[before.length]? = some c := by
  rw [List.getElem?_append_right (Nat.le_refl _), Nat.sub_self]
  rfl

/-- A run of characters is passed to its end. -/
theorem skip_length (p : Char → Bool) (cs : List Char) :
    skip p (before ++ cs) before.length = before.length + (cs.takeWhile p).length := by
  induction cs generalizing before with
  | nil =>
      rw [skip, List.append_nil, List.getElem?_length]
      rfl
  | cons c cs ih =>
      rw [skip, getElem?_head]
      cases hc : p c with
      | false => simp [hc]
      | true =>
          have hnext := ih (before ++ [c])
          rw [List.length_append, List.length_singleton, ← List.append_cons] at hnext
          rw [dif_pos (c := (some c).any p = true) hc, hnext, List.takeWhile_cons_of_pos hc,
            List.length_cons]
          omega

theorem skip_head (hc : p c = true) (cs : List Char) :
    skip p (before ++ c :: cs) before.length = before.length + (c :: cs.takeWhile p).length := by
  rw [skip_length, List.takeWhile_cons_of_pos hc]

theorem skip_behind (p : Char → Bool) (c : Char) (cs : List Char) :
    skip p (before ++ c :: cs) (before.length + 1) =
      before.length + 1 + (cs.takeWhile p).length := by
  have hbehind := skip_length (before ++ [c]) p cs
  rwa [List.length_append, List.length_singleton, ← List.append_cons] at hbehind

theorem stepBack_self (text : List Char) (least : Nat) : stepBack text least least = least := by
  cases least with
  | zero => rfl
  | succ i => simp [stepBack]

/-- The hyphens at the end of a run are given back. -/
theorem stepBack_length (run rest : List Char) :
    stepBack (before ++ (run ++ rest)) before.length (before.length + run.length) =
      before.length + (Text.dropEndWhile (· == '-') run).length := by
  -- The induction is from the end of the run, where the steps back start.
  induction run using List.reverseRecOn generalizing rest with
  | nil => exact stepBack_self _ _
  | append_singleton run c ih =>
      have hi : (before ++ (run ++ [c] ++ rest))[before.length + run.length]? = some c := by
        have hmid := getElem?_head (before ++ run) c rest
        rwa [List.length_append, List.append_assoc, List.append_cons] at hmid
      have hlength : before.length + (run ++ [c]).length = before.length + run.length + 1 := by
        simp [Nat.add_assoc]
      rw [hlength, stepBack, hi]
      by_cases hc : c = '-'
      · have hlt : before.length < before.length + run.length + 1 := by omega
        have hdrop : Text.dropEndWhile (· == '-') (run ++ [c]) = Text.dropEndWhile (· == '-') run :=
          Text.dropEndWhile_concat (p := (· == '-')) (beq_iff_eq.2 hc) run
        rw [if_pos ⟨hlt, congrArg some hc⟩, List.append_assoc, ih ([c] ++ rest), hdrop]
      · have hlast : ∀ d ∈ (run ++ [c]).getLast?, (d == '-') = false := by
          intro d hd
          rw [List.getLast?_concat] at hd
          cases hd
          exact beq_eq_false_iff_ne.2 hc
        rw [if_neg fun h => hc (Option.some.inj h.2), Text.dropEndWhile_of_getLast hlast, hlength]

/-- Behind a name are the hyphens that it does not end in. -/
theorem stepBack_skip (hc : isNamePart c = true) (cs : List Char) :
    stepBack (before ++ c :: cs) (before.length + 1)
        (skip isNamePart (before ++ c :: cs) before.length) =
      before.length + (c :: nameTail cs).length := by
  have hback := stepBack_length (before ++ [c]) (cs.takeWhile isNamePart) (cs.dropWhile isNamePart)
  rw [List.takeWhile_append_dropWhile, ← List.append_cons, List.length_append,
    List.length_singleton] at hback
  have hstart : before.length + (c :: cs.takeWhile isNamePart).length =
      before.length + 1 + (cs.takeWhile isNamePart).length := by
    rw [List.length_cons]
    omega
  rw [skip_head before hc, hstart, hback, List.length_cons, nameTail]
  omega

/-- The text between two positions. -/
theorem extract_length (h : word <+: cs) :
    (before ++ cs).extract before.length (before.length + word.length) = word := by
  obtain ⟨rest, rfl⟩ := h
  rw [List.extract_eq_take_drop, List.drop_left, Nat.add_sub_cancel_left, List.take_left]

theorem extract_head (h : word <+: cs) :
    (before ++ c :: cs).extract before.length (before.length + (c :: word).length) = c :: word :=
  extract_length before (List.cons_prefix_cons.2 ⟨rfl, h⟩)

theorem extract_behind (h : word <+: cs) :
    (before ++ c :: cs).extract (before.length + 1) (before.length + 1 + word.length) = word := by
  have hbehind := extract_length (before ++ [c]) h
  rwa [List.length_append, List.length_singleton, ← List.append_cons] at hbehind

end Loops

/-! ## What one round finds -/

/-- What a round finds that reads a token up to a rest of the text. -/
def found (text : List Char) (r : Token × List Char) : Option Token × Nat :=
  (some r.1, text.length - r.2.length)

/-- The round at a character finds the token that is read there. -/
def Finds (before : List Char) (c : Char) (cs : List Char) : Prop :=
  round (before ++ c :: cs) before.length c =
    ((lexeme c cs).map (·.1)).map (found (before ++ c :: cs))

section Round

variable {c : Char} {cs : List Char} (before : List Char)

theorem found_eq {t : Token} {word rest : List Char} (h : c :: cs = word ++ rest) :
    found (before ++ c :: cs) (t, rest) = (some t, before.length + word.length) := by
  have hlength : (before ++ c :: cs).length - rest.length = before.length + word.length := by
    rw [h, List.length_append, List.length_append]
    omega
  rw [found, hlength]

/-- A round at a blank finds nothing. -/
theorem round_blank (hc : isBlank c = true) (text : List Char) (i : Nat) :
    round text i c = .ok (none, i + 1) := by
  rw [round, if_pos hc]

theorem finds_number (hc : isBlank c = false) (hnumber : isNumberPart c = true) :
    Finds before c cs := by
  have hword : c :: cs = c :: cs.takeWhile isNumberPart ++ cs.dropWhile isNumberPart := by
    rw [List.cons_append, List.takeWhile_append_dropWhile]
  rw [Finds, round, if_neg (Bool.eq_false_iff.1 hc), if_pos hnumber, skip_head before hnumber,
    lexeme, if_pos hnumber]
  simp only [extract_head before (List.takeWhile_prefix isNumberPart)]
  cases hx : Decimal.read? (c :: cs.takeWhile isNumberPart) with
  | none => rfl
  | some x => exact congrArg Except.ok (found_eq before hword).symm

/-- A round at a quote goes as far as the next quote of its kind. -/
theorem round_quote (hquote : c = '"' ∨ c = '\'') (cs : List Char) :
    round (before ++ c :: cs) before.length c =
      if (cs.takeWhile (· != c)).length < cs.length then
        .ok (some (.string (String.ofList (cs.takeWhile (· != c)))),
          before.length + 1 + (cs.takeWhile (· != c)).length + 1)
      else .error .unterminatedString := by
  have hc : ¬isBlank c = true := by obtain rfl | rfl := hquote <;> decide
  have hnumber : ¬isNumberPart c = true := by obtain rfl | rfl := hquote <;> decide
  have hquote' : (c == '"' || c == '\'') = true := by obtain rfl | rfl := hquote <;> decide
  have hlt : before.length + 1 + (cs.takeWhile (· != c)).length < (before ++ c :: cs).length ↔
      (cs.takeWhile (· != c)).length < cs.length := by
    rw [List.length_append, List.length_cons]
    omega
  rw [round, if_neg hc, if_neg hnumber, if_pos hquote', skip_behind]
  simp only [extract_behind before (List.takeWhile_prefix (· != c)), hlt]

theorem finds_string (hquote : c = '"' ∨ c = '\'') {inner : List Char} (hinner : c ∉ inner)
    (rest : List Char) : Finds before c (inner ++ c :: rest) := by
  have htake : (inner ++ c :: rest).takeWhile (· != c) = inner :=
    Text.takeWhile_run (fun d hd => bne_iff_ne.2 fun heq => hinner (heq ▸ hd))
      fun d hd => by cases hd; exact bne_self_eq_false c
  have hlt : inner.length < (inner ++ c :: rest).length := by
    rw [List.length_append, List.length_cons]
    omega
  have hword : c :: (inner ++ c :: rest) = c :: (inner ++ [c]) ++ rest := by simp
  have hend : before.length + (c :: (inner ++ [c])).length =
      before.length + 1 + inner.length + 1 := by
    rw [List.length_cons, List.length_append, List.length_singleton]
    omega
  have hread := @lexeme_string inner rest c hquote hinner
  have hfound := found_eq (t := .string (String.ofList inner)) before hword
  rw [hend] at hfound
  rw [List.append_assoc, List.singleton_append] at hread
  rw [Finds, round_quote before hquote, htake, if_pos hlt, hread]
  exact congrArg Except.ok hfound.symm

theorem finds_unterminated (hquote : c = '"' ∨ c = '\'') (h : c ∉ cs) : Finds before c cs := by
  have htake : cs.takeWhile (· != c) = cs :=
    List.takeWhile_eq_self_iff.2 fun d hd => bne_iff_ne.2 fun heq => h (heq ▸ hd)
  rw [Finds, round_quote before hquote, htake, if_neg (Nat.lt_irrefl _),
    lexeme_unterminated hquote h]
  rfl

theorem finds_name (hc : isBlank c = false) (hnumber : ¬isNumberPart c = true)
    (hquote : ¬(c == '"' || c == '\'') = true) (hstart : startsName c = true) :
    Finds before c cs := by
  have htail : nameTail cs <+: cs :=
    (Text.dropEndWhile_isPrefix _ _).trans (List.takeWhile_prefix _)
  have hword : c :: cs = c :: nameTail cs ++ cs.drop (nameTail cs).length :=
    congrArg (c :: ·) (List.prefix_iff_eq_append.1 htail).symm
  rw [Finds, round, if_neg (Bool.eq_false_iff.1 hc), if_neg hnumber, if_neg hquote, if_pos hstart,
    stepBack_skip before (isNamePart_of_startsName hstart), lexeme, if_neg hnumber, if_neg hquote,
    if_pos hstart]
  simp only [extract_head before htail]
  exact congrArg Except.ok (found_eq before hword).symm

theorem finds_mark (hc : isBlank c = false) (hnumber : ¬isNumberPart c = true)
    (hquote : ¬(c == '"' || c == '\'') = true) (hstart : ¬startsName c = true) :
    Finds before c cs := by
  have hone (t : Token) : found (before ++ c :: cs) (t, cs) = (some t, before.length + 1) :=
    @found_eq c cs before t [c] cs rfl
  rw [Finds, round, if_neg (Bool.eq_false_iff.1 hc), if_neg hnumber, if_neg hquote, if_neg hstart,
    lexeme, if_neg hnumber, if_neg hquote, if_neg hstart]
  cases Operator.ofChar? c with
  | some op => exact congrArg Except.ok (hone _).symm
  | none =>
      dsimp only
      split
      next => exact congrArg Except.ok (hone _).symm
      next =>
        split
        next => exact congrArg Except.ok (hone _).symm
        next =>
          split
          next => exact congrArg Except.ok (hone _).symm
          next => rfl

/-- A round at a character that is not blank finds the token that is read there. -/
theorem round_eq_lexeme (hc : isBlank c = false) (cs : List Char) :
    round (before ++ c :: cs) before.length c =
      ((lexeme c cs).map (·.1)).map (found (before ++ c :: cs)) := by
  by_cases hnumber : isNumberPart c = true
  · exact finds_number before hc hnumber
  by_cases hquote : (c == '"' || c == '\'') = true
  · rw [Bool.or_eq_true, beq_iff_eq, beq_iff_eq] at hquote
    by_cases hmem : c ∈ cs
    · obtain ⟨inner, rest, rfl, hinner⟩ := List.eq_append_cons_of_mem hmem
      exact finds_string before hquote hinner rest
    · exact finds_unterminated before hquote hmem
  by_cases hstart : startsName c = true
  · exact finds_name before hc hnumber hquote hstart
  · exact finds_mark before hc hnumber hquote hstart

/-- The next round starts behind the spelling of a token that is found. -/
theorem exists_spelled {t : Token} {rest : List Char} (hc : isBlank c = false)
    (h : (lexeme c cs).map (·.1) = .ok (t, rest)) :
    ∃ word, c :: cs = word ++ rest ∧ Spelled t word ∧
      round (before ++ c :: cs) before.length c = .ok (some t, before.length + word.length) := by
  obtain ⟨word, hword, hspelled⟩ := spelled_of_lexeme h
  have hround := round_eq_lexeme before hc cs
  rw [h] at hround
  exact ⟨word, hword, hspelled, hround.trans (congrArg Except.ok (found_eq before hword))⟩

end Round

/-! ## Pieces of the text -/

/-- A piece of a text, which one round takes. -/
inductive Piece where
  /-- A blank. -/
  | blank (b : Char)
  /-- A token and its spelling. -/
  | token (t : Token) (word : List Char)

namespace Piece

/-- The characters of a piece. -/
def written : Piece → List Char
  | .blank b => [b]
  | .token _ word => word

/-- The token of a piece. -/
def token? : Piece → Option Token
  | .blank _ => none
  | .token t _ => some t

/-- A piece is one blank, or spells its token and no other one. -/
def Sound : Piece → Prop
  | .blank b => isBlank b = true
  | .token t word => word ≠ [] ∧ ∀ u, Spelled u word ↔ u = t

theorem Sound.written_ne_nil {p : Piece} (h : p.Sound) : p.written ≠ [] := by
  cases p with
  | blank b => exact List.cons_ne_nil b []
  | token t word => exact h.1

end Piece

/-- Characters spell at most one token. -/
theorem Spelled.unique {t u : Token} {word : List Char} (h : Spelled t word)
    (h' : Spelled u word) : u = t := by
  obtain ⟨c, cs, rfl, -⟩ := h.head
  have hread := @lexeme_of_spelled c cs [] t h nofun
  have hread' := @lexeme_of_spelled c cs [] u h' nofun
  cases hread'.symm.trans hread
  rfl

theorem Spelled.sound {t : Token} {word : List Char} (h : Spelled t word) :
    (Piece.token t word).Sound := by
  obtain ⟨c, cs, hword, -⟩ := h.head
  refine ⟨hword ▸ List.cons_ne_nil c cs, fun u => ⟨h.unique, ?_⟩⟩
  rintro rfl
  exact h

section Pieces

variable {text : List Char} {i j : Nat} {c : Char} {t : Option Token}

theorem exists_eq_append_of_getElem? (hi : text[i]? = some c) :
    ∃ before cs, text = before ++ c :: cs ∧ i = before.length := by
  obtain ⟨hlt, rfl⟩ := List.getElem?_eq_some_iff.1 hi
  refine ⟨text.take i, text.drop (i + 1), ?_, ?_⟩
  · rw [← List.drop_eq_getElem_cons hlt, List.take_append_drop]
  · rw [List.length_take, Nat.min_eq_left (Nat.le_of_lt hlt)]

/-- A round takes a piece of the text, and the next one starts behind it. -/
theorem exists_piece (hi : text[i]? = some c) (h : round text i c = .ok (t, j)) :
    ∃ p : Piece, p.Sound ∧ p.token? = t ∧ j = i + p.written.length ∧
      text.drop i = p.written ++ text.drop j := by
  obtain ⟨before, cs, rfl, rfl⟩ := exists_eq_append_of_getElem? hi
  have hdrop {word rest : List Char} (hword : c :: cs = word ++ rest) :
      (before ++ c :: cs).drop before.length =
        word ++ (before ++ c :: cs).drop (before.length + word.length) := by
    rw [List.drop_left, hword, ← List.drop_drop, List.drop_left, List.drop_left]
  cases hc : isBlank c with
  | true =>
      rw [round_blank hc] at h
      cases h
      exact ⟨.blank c, hc, rfl, rfl, @hdrop [c] cs rfl⟩
  | false =>
      cases hread : (lexeme c cs).map (·.1) with
      | error f =>
          rw [round_eq_lexeme before hc cs, hread] at h
          cases h
      | ok r =>
          obtain ⟨word, hword, hspelled, hround⟩ := exists_spelled before hc hread
          cases hround.symm.trans h
          exact ⟨.token r.1 word, hspelled.sound, rfl, rfl, hdrop hword⟩

/-- A round moves the position forward, and not beyond the end. -/
theorem round_advances (hi : text[i]? = some c) (h : round text i c = .ok (t, j)) :
    i < j ∧ j ≤ text.length := by
  obtain ⟨p, hp, -, rfl, hdrop⟩ := exists_piece hi h
  have hpos := List.length_pos_of_ne_nil hp.written_ne_nil
  have hlength := congrArg List.length hdrop
  rw [List.length_append, List.length_drop, List.length_drop] at hlength
  omega

/-- The rounds of a loop that finds tokens take pieces that make up the rest of the text. -/
theorem Runs.exists_pieces {n : Nat} {ts us : List Token} (h : Runs text n i ts (.ok us)) :
    ∃ pieces : List Piece, pieces.length = n ∧ (∀ p ∈ pieces, p.Sound) ∧
      pieces.flatMap Piece.written = text.drop i ∧
      us = ts ++ pieces.filterMap Piece.token? := by
  -- The induction is on the rounds, and each of them puts its piece in front.
  generalize hr : Except.ok us = r at h
  induction h with
  | done hi =>
      cases hr
      exact ⟨[], rfl, nofun, (List.drop_eq_nil_of_le hi).symm, (List.append_nil _).symm⟩
  | fault => cases hr
  | next hc hround _ ih =>
      obtain ⟨pieces, rfl, hsound, hwritten, rfl⟩ := ih hr
      obtain ⟨p, hp, rfl, -, hdrop⟩ := exists_piece hc hround
      refine ⟨p :: pieces, rfl, List.forall_mem_cons.2 ⟨hp, hsound⟩, ?_, ?_⟩
      · rw [List.flatMap_cons, hwritten, hdrop]
      · rw [List.append_assoc]
        cases p <;> rfl

end Pieces

/-- The loop reads what a scan reads, in no more rounds than there are characters. -/
theorem exists_runs (before cs : List Char) (ts : List Token) :
    ∃ n ≤ cs.length, Runs (before ++ cs) n before.length ts ((scan cs).map (ts ++ ·)) := by
  -- The induction is on the scan of the rest.  What a round takes goes to the text before it.
  fun_induction scan cs generalizing before ts with
  | case1 =>
      have hdone : Runs (before ++ []) 0 before.length ts (.ok (ts ++ [])) := by
        rw [List.append_nil, List.append_nil]
        exact .done (Nat.le_refl _)
      exact ⟨0, Nat.le_refl 0, hdone⟩
  | case2 c cs hc ih =>
      obtain ⟨n, hn, hruns⟩ := ih (before ++ [c]) ts
      rw [← List.append_cons, List.length_append, List.length_singleton] at hruns
      refine ⟨n + 1, Nat.succ_le_succ hn, .next (getElem?_head before c cs) (round_blank hc _ _) ?_⟩
      rwa [Option.toList_none, List.append_nil]
  | case3 c cs hc fault hlexeme =>
      have hround := round_eq_lexeme before (Bool.eq_false_iff.2 hc) cs
      rw [hlexeme] at hround
      exact ⟨1, Nat.succ_le_succ (Nat.zero_le _), .fault (getElem?_head before c cs) hround⟩
  | case4 c cs hc t rest _ hlexeme ih =>
      obtain ⟨word, hword, hspelled, hround⟩ :=
        exists_spelled before (Bool.eq_false_iff.2 hc) (congrArg (·.map (·.1)) hlexeme)
      obtain ⟨n, hn, hruns⟩ := ih (before ++ word) (ts ++ [t])
      rw [List.length_append, List.append_assoc, ← hword] at hruns
      have hmap : (scan rest).map (ts ++ [t] ++ ·) = ((scan rest).map (t :: ·)).map (ts ++ ·) := by
        cases scan rest with
        | error fault => rfl
        | ok us => exact congrArg Except.ok (List.append_assoc ts [t] us)
      rw [hmap] at hruns
      have hpos : 0 < word.length := List.length_pos_of_ne_nil hspelled.sound.1
      have hlength : (c :: cs).length = word.length + rest.length := by
        rw [hword, List.length_append]
      exact ⟨n + 1, by omega, .next (getElem?_head before c cs) hround hruns⟩

/-- Every round moves the position forward, also one that steps back over hyphens.  So the loop
over a text ends after no more rounds than there are characters, and in one way only, with what a
scan of the text reads.  If these are tokens, every round took a piece of the text: the pieces in
their order make up the text, each of them is one blank or spells exactly one token, and the
tokens of the pieces are those that are read. -/
theorem scan_pieces (text : List Char) :
    (∀ i c t j, text[i]? = some c → round text i c = .ok (t, j) → i < j ∧ j ≤ text.length) ∧
    ∃ n ≤ text.length,
      (∀ m r, Runs text m 0 [] r ↔ m = n ∧ r = scan text) ∧
      ∀ ts, scan text = .ok ts →
        ∃ pieces : List Piece, pieces.length = n ∧ (∀ p ∈ pieces, p.Sound) ∧
          pieces.flatMap Piece.written = text ∧ pieces.filterMap Piece.token? = ts := by
  obtain ⟨n, hn, hruns⟩ := exists_runs [] text []
  have hscan : (scan text).map ([] ++ ·) = scan text := by cases scan text <;> rfl
  rw [hscan, List.nil_append, List.length_nil] at hruns
  refine ⟨fun i c t j => round_advances, n, hn, fun m r => ⟨hruns.deterministic, ?_⟩, fun ts hts => ?_⟩
  · rintro ⟨rfl, rfl⟩
    exact hruns
  · rw [hts] at hruns
    obtain ⟨pieces, hlength, hsound, hwritten, htokens⟩ := hruns.exists_pieces
    exact ⟨pieces, hlength, hsound, hwritten, htokens.symm⟩

/-- A name that two hyphens follow, and a hyphen in quotes. -/
def hyphenSample : String := "a-- 'b-'"

/-- The first round goes as far as the blank, and then back to the first hyphen.  So both hyphens
are operators, and the one in quotes is none. -/
theorem scan_pieces_hyphens :
    skip isNamePart hyphenSample.toList 0 = 3 ∧
      round hyphenSample.toList 0 'a' = .ok (some (.name "a"), 1) ∧
      (0 < 1 ∧ 1 ≤ hyphenSample.toList.length) ∧
      scan hyphenSample.toList =
        .ok [.name "a", .operator .minus, .operator .minus, .string "b-"] ∧
      ∃ pieces : List Piece, (∀ p ∈ pieces, p.Sound) ∧
        pieces.flatMap Piece.written = hyphenSample.toList ∧
        pieces.filterMap Piece.token? =
          [.name "a", .operator .minus, .operator .minus, .string "b-"] := by
  have hskip : skip isNamePart hyphenSample.toList 0 = 3 := by decide +kernel
  have hround : round hyphenSample.toList 0 'a' = .ok (some (.name "a"), 1) := by decide +kernel
  have hscan : scan hyphenSample.toList =
      .ok [.name "a", .operator .minus, .operator .minus, .string "b-"] := by
    decide +kernel
  obtain ⟨hadvances, n, -, -, hpieces⟩ := scan_pieces hyphenSample.toList
  obtain ⟨pieces, -, hsound, hwritten, htokens⟩ := hpieces _ hscan
  exact ⟨hskip, hround, hadvances 0 'a' _ 1 (by decide +kernel) hround, hscan,
    pieces, hsound, hwritten, htokens⟩

end PageLayout.Token
