import PageLayout.Proofs.Pattern.Class

/-!
# Groups and repetitions with something after them

What follows a parenthesis that opens a group, and what follows the brace of a repetition,
is read alike alone and with `)$` after it.  Flags end at their parenthesis or colon and
a name ends at its bracket.  The one reader that finds more with `)$` after the text is
that for flags (`readFlags_agree`): it takes the parenthesis for the end of a change of
flags, and the group around the text is left without its end.

The readers for an extension and for bounds each go through several characters in one
match.  They are taken apart here into functions of one character, and `readBounds_eq`
and the proof of `local_readOpening` put them together again.
-/

namespace PageLayout.Pattern

variable {b : Bool} {cs rest : List Char}

/-! ## Groups and flags -/

theorem readFlags_suffix {change changed : FlagChange} {cleared dangling : Bool} {c : Char}
    (h : readFlags change cleared dangling cs = some (changed, c, rest)) :
    rest <:+ cs := by
  induction cs generalizing change cleared dangling with
  | nil => cases h
  | cons d cs ih =>
      have hcons : ∀ {change cleared dangling},
          readFlags change cleared dangling cs = some (changed, c, rest) → rest <:+ d :: cs :=
        fun h => (ih h).trans (List.suffix_cons d cs)
      simp only [readFlags] at h
      split at h
      · split at h
        · cases h
        · cases h; exact List.suffix_cons _ _
      · split at h
        · split at h
          · cases h
          · exact hcons h
        · split at h
          · cases h
          · split at h
            · cases h
            · exact hcons h

theorem readFlags_agree {change : FlagChange} {cleared dangling : Bool} (cs : List Char) :
    Agree 2 ((readFlags change cleared dangling cs).map fun p => ((p.1, p.2.1), p.2.2))
      ((readFlags change cleared dangling (cs ++ closing)).map fun p => ((p.1, p.2.1), p.2.2)) := by
  induction cs generalizing change cleared dangling with
  | nil =>
      refine .lost fun a rest h => ?_
      obtain ⟨⟨changed, c, after⟩, hflags, h⟩ := Option.map_eq_some_iff.mp h
      cases h
      simp only [readFlags, List.nil_append, closing] at hflags
      split at hflags
      · split at hflags
        · cases hflags
        · cases hflags; exact Nat.lt_succ_self 1
      · contradiction
  | cons d cs ih =>
      simp only [readFlags, List.cons_append]
      split
      · split
        · exact .none
        · exact .kept _ cs
      · split
        · split
          · exact .none
          · exact ih
        · split
          · exact .none
          · split
            · exact .none
            · exact ih

theorem readGroupName_suffix {name : List Char} (h : readGroupName cs = some (name, rest)) :
    rest <:+ cs := by
  unfold readGroupName at h
  dsimp only at h
  split at h
  next first others c rest' htake hdrop =>
    split at h
    · cases h
      exact (List.suffix_cons c _).trans (hdrop ▸ List.dropWhile_suffix _)
    · cases h
  next => cases h

theorem readGroupName_of_nil (h : cs.dropWhile (· != '>') = []) : readGroupName cs = none := by
  unfold readGroupName
  dsimp only
  rw [h]
  cases cs.takeWhile (· != '>') <;> rfl

theorem local_readGroupName : Local b 2 readGroupName where
  suffix := readGroupName_suffix
  agree {cs} _ := by
    cases hdrop : cs.dropWhile (· != '>') with
    | nil =>
        have hclosing : (cs ++ closing).dropWhile (· != '>') = [] := by
          rw [List.dropWhile_append, hdrop]
          rfl
        rw [readGroupName_of_nil hdrop, readGroupName_of_nil hclosing]
        exact .none
    | cons d more =>
        unfold readGroupName
        dsimp only
        rw [takeWhile_closing hdrop, dropWhile_closing hdrop, hdrop]
        cases cs.takeWhile (· != '>') with
        | nil => exact .none
        | cons first others =>
            dsimp only [List.cons_append]
            split
            · exact .kept _ more
            · exact .none

namespace Reading

variable {r : Reading}

theorem local_openNamed : Local b 2 r.openNamed :=
  local_readGroupName.bind fun _ => .branch .fail (.pure _)

/-- The flags after a question mark, and what they are for. -/
def readFlagGroup (r : Reading) (cs : List Char) : Option (Reading × List Char) := do
  let (change, last, rest) ← readFlags [] false false cs
  if last == ':' then some (r.openGroup change, rest)
  else if change.isEmpty then none
  else some (r.changeFlags change, rest)

theorem local_readFlagGroup : Local b 2 r.readFlagGroup := by
  have hflags : Local b 2 fun cs =>
      (readFlags [] false false cs).map fun p => ((p.1, p.2.1), p.2.2) := by
    refine ⟨fun {cs a rest} h => ?_, fun {cs} _ => readFlags_agree cs⟩
    obtain ⟨⟨change, c, after⟩, hflags, h⟩ := Option.map_eq_some_iff.mp h
    cases h
    exact readFlags_suffix hflags
  have heq : r.readFlagGroup = fun cs =>
      ((readFlags [] false false cs).map fun p => ((p.1, p.2.1), p.2.2)) >>= fun p =>
        if p.1.2 == ':' then some (r.openGroup p.1.1, p.2)
        else if p.1.1.isEmpty then none
        else some (r.changeFlags p.1.1, p.2) := by
    funext cs
    unfold readFlagGroup
    cases readFlags [] false false cs <;> rfl
  rw [heq]
  refine hflags.bind fun p => ?_
  dsimp only
  exact .branch (.pure _) (.branch .fail (.pure _))

/-- What follows a parenthesis and a question mark. -/
def readExtension (r : Reading) : List Char → Option (Reading × List Char)
  | '=' :: _ => none
  | '!' :: _ => none
  | '<' :: '=' :: _ => none
  | '<' :: '!' :: _ => none
  | 'P' :: '<' :: rest => r.openNamed rest
  | '<' :: rest => r.openNamed rest
  | cs => r.readFlagGroup cs

/-- The text after a parenthesis and a question mark starts with flags. -/
structure FlagsNext (cs : List Char) : Prop where
  ahead : ∀ rest, cs ≠ '=' :: rest
  notAhead : ∀ rest, cs ≠ '!' :: rest
  named : ∀ rest, cs ≠ 'P' :: '<' :: rest
  angle : ∀ rest, cs ≠ '<' :: rest

theorem FlagsNext.append (h : FlagsNext cs) : FlagsNext (cs ++ closing) where
  ahead := append_closing_ne (by decide) h.ahead
  notAhead := append_closing_ne (by decide) h.notAhead
  named := append_closing_ne_two (by decide) (by decide) h.named
  angle := append_closing_ne (by decide) h.angle

theorem readExtension_flags (h : FlagsNext cs) : r.readExtension cs = r.readFlagGroup cs := by
  unfold readExtension
  split
  next => exact absurd rfl (h.ahead _)
  next => exact absurd rfl (h.notAhead _)
  next => exact absurd rfl (h.angle _)
  next => exact absurd rfl (h.angle _)
  next => exact absurd rfl (h.named _)
  next => exact absurd rfl (h.angle _)
  next => rfl

theorem readExtension_angle {c : Char} (h : c ≠ '=' ∧ c ≠ '!') (cs : List Char) :
    r.readExtension ('<' :: c :: cs) = r.openNamed (c :: cs) := by
  unfold readExtension
  split <;> simp_all

theorem local_readExtension : Local b 2 r.readExtension := by
  have hopen := local_openNamed (b := b) (r := r)
  refine ⟨fun {cs _ _} h => ?_, fun {cs} hs => ?_⟩
  · unfold readExtension at h
    split at h
    · cases h
    · cases h
    · cases h
    · cases h
    · exact (hopen.suffix h).trans ((List.suffix_cons _ _).trans (List.suffix_cons _ _))
    · exact (hopen.suffix h).trans (List.suffix_cons _ _)
    · exact (local_readFlagGroup (b := b)).suffix h
  · by_cases hflags : FlagsNext cs
    · rw [readExtension_flags hflags, readExtension_flags hflags.append]
      exact local_readFlagGroup.agree hs
    · have hcases : (∃ rest, cs = '=' :: rest) ∨ (∃ rest, cs = '!' :: rest) ∨
          (∃ rest, cs = 'P' :: '<' :: rest) ∨ ∃ rest, cs = '<' :: rest := by
        by_contra hn
        simp only [not_or, not_exists] at hn
        exact hflags ⟨hn.1, hn.2.1, hn.2.2.1, hn.2.2.2⟩
      obtain ⟨rest, rfl⟩ | ⟨rest, rfl⟩ | ⟨rest, rfl⟩ | ⟨rest, rfl⟩ := hcases
      · exact .none
      · exact .none
      · exact hopen.agree hs.tail.tail
      · cases rest with
        | nil => exact hopen.agree hs.tail
        | cons c rest =>
            by_cases hc : c ≠ '=' ∧ c ≠ '!'
            · rw [List.cons_append, List.cons_append, readExtension_angle hc,
                readExtension_angle hc]
              exact hopen.agree hs.tail
            · rw [not_and_or, not_not, not_not] at hc
              obtain rfl | rfl := hc
              · exact .none
              · exact .none

theorem local_readOpening : Local r.spaced 2 r.readOpening := by
  refine .peek r.spaced '?' (g := r.readExtension) (h := fun cs => some (r.openGroup [], cs))
    (fun cs rest h => ?_) (fun cs rest h hn => ?_) local_readExtension (.pure _)
  · unfold readOpening readExtension
    rw [h]
    split
    all_goals first
      | cases ‹_ :: _ = _›; rfl
      | cases ‹_ :: _ = _›; split <;> first | rfl | simp_all
      | simp_all
  · rw [readOpening, h]
    split
    all_goals first
      | exact absurd rfl (hn _)
      | rfl

/-! ## Repetitions -/

theorem dropLazy_append (cs : List Char) : dropLazy (cs ++ closing) = dropLazy cs ++ closing := by
  cases cs with
  | nil => rfl
  | cons c cs =>
      by_cases hc : c = '?'
      · subst hc; rfl
      · have hne : ∀ cs, dropLazy (c :: cs) = c :: cs := by
          intro cs
          unfold dropLazy
          split
          next heq => exact absurd (List.cons.inj heq).1 hc
          next => rfl
        rw [List.cons_append, hne, hne]; rfl

theorem dropLazy_suffix (cs : List Char) : dropLazy cs <:+ cs := by
  unfold dropLazy
  split
  · exact List.suffix_cons _ _
  · exact List.suffix_refl _

theorem readDecimals_cons (b : Bool) (c : Char) (cs : List Char) :
    readDecimals b (c :: cs) =
      if isLatinDigit c then
        (c :: (readDecimals b (skip b cs)).1, (readDecimals b (skip b cs)).2)
      else ([], c :: cs) := by
  rw [readDecimals]

theorem readDecimals_append (hs : Settled b cs) :
    readDecimals b (cs ++ closing) = ((readDecimals b cs).1, (readDecimals b cs).2 ++ closing) := by
  induction cs using readDecimals.induct b with
  | case1 =>
      rw [List.nil_append, closing, readDecimals_cons]
      simp only [readDecimals]
      rfl
  | case2 c cs hc _ _ _ _ ih =>
      rw [List.cons_append, readDecimals_cons, readDecimals_cons, if_pos hc, if_pos hc,
        skip_append b hs.tail, ih (hs.tail.skip b)]
  | case3 c cs hc =>
      rw [List.cons_append, readDecimals_cons, readDecimals_cons, if_neg hc, if_neg hc]
      rfl

theorem readDecimals_suffix (b : Bool) (cs : List Char) : (readDecimals b cs).2 <:+ cs := by
  induction cs using readDecimals.induct b with
  | case1 => simp [readDecimals]
  | case2 c cs hc _ _ _ _ ih =>
      rw [readDecimals_cons, if_pos hc]
      exact (ih.trans (skip_suffix b cs)).trans (List.suffix_cons c cs)
  | case3 c cs hc =>
      rw [readDecimals_cons, if_neg hc]

theorem dropBlanks_append (cs : List Char) :
    (cs ++ closing).dropWhile isBlank = cs.dropWhile isBlank ++ closing := by
  rw [List.dropWhile_append]
  split
  next h => rw [List.isEmpty_iff.mp h]; decide
  next => rfl

theorem readCount_append (hs : Settled b cs) :
    readCount b (cs ++ closing) = ((readCount b cs).1, (readCount b cs).2 ++ closing) := by
  have hs' := hs.of_suffix (List.dropWhile_suffix isBlank)
  unfold readCount
  rw [dropBlanks_append, readDecimals_append hs']
  dsimp only
  rw [dropBlanks_append, skip_append b ((hs'.of_suffix (readDecimals_suffix b _)).of_suffix
    (List.dropWhile_suffix isBlank))]

theorem readCount_suffix (b : Bool) (cs : List Char) : (readCount b cs).2 <:+ cs := by
  unfold readCount
  exact (skip_suffix b _).trans ((List.dropWhile_suffix isBlank).trans
    ((readDecimals_suffix b _).trans (List.dropWhile_suffix isBlank)))

/-- A number that is there and has 32 bits. -/
def readNumber (spaced : Bool) (cs : List Char) : Option (Nat × List Char) :=
  (readCount spaced cs).1.map fun n => (n, (readCount spaced cs).2)

theorem local_readNumber : Local b 2 (readNumber b) := by
  refine ⟨fun {cs a rest} h => ?_, fun {cs} hs => ?_⟩
  · obtain ⟨n, -, h⟩ := Option.map_eq_some_iff.mp h
    cases h
    exact readCount_suffix b cs
  · unfold readNumber
    rw [readCount_append hs]
    cases (readCount b cs).1 with
    | none => exact .none
    | some n => exact .kept n _

/-- The end of a repetition in braces. -/
def readBrace {α : Type} (a : α) : List Char → Option (α × List Char)
  | '\x7d' :: rest => some (a, rest)
  | _ => none

theorem local_readBrace {α : Type} (a : α) : Local b 2 (readBrace a) := by
  refine .uncons nofun (s := false) (g := fun c rest => if c = '\x7d' then some (a, rest) else none)
    (fun cs h => ?_) (fun cs c rest h => ?_) fun c => .branch (.pure a) .fail
  · cases (show cs = [] from h)
    rfl
  · cases (show cs = c :: rest from h)
    unfold readBrace
    split
    next heq => cases heq; rfl
    next hn => exact (if_neg fun hc => hn rest (by rw [hc])).symm

/-- The upper number of a repetition and what is after it. -/
def readUpper (spaced : Bool) (min : Nat) (cs : List Char) :
    Option ((Nat × Option Nat) × List Char) := do
  let (max, rest) ← readNumber spaced cs
  if min ≤ max then readBrace (min, some max) rest else none

theorem local_readUpper (min : Nat) : Local b 2 (readUpper b min) :=
  local_readNumber.bind fun max => .branch (local_readBrace (min, some max)) .fail

/-- What follows the lower number of a repetition and a comma. -/
def readBoundsEnd (spaced : Bool) (min : Nat) (cs : List Char) :
    Option ((Nat × Option Nat) × List Char) :=
  match skip spaced cs with
  | '\x7d' :: rest => some ((min, none), rest)
  | rest => readUpper spaced min rest

theorem readBoundsEnd_of_ne {min : Nat} (h : ∀ rest, skip b cs ≠ '\x7d' :: rest) :
    readBoundsEnd b min cs = readUpper b min (skip b cs) := by
  unfold readBoundsEnd
  split
  next rest heq => exact absurd heq (h rest)
  next => rfl

theorem local_readBoundsEnd (min : Nat) : Local b 2 (readBoundsEnd b min) :=
  .peek b '\x7d' (fun cs rest h => by rewrite [readBoundsEnd, h]; rfl)
    (fun cs rest h hn => by rw [readBoundsEnd_of_ne (h ▸ hn), h]) (.pure (min, none))
    (local_readUpper min)

/-- What follows the lower number of a repetition. -/
def readBoundsAfter (spaced : Bool) (min : Nat) : List Char →
    Option ((Nat × Option Nat) × List Char)
  | '\x7d' :: rest => some ((min, some min), rest)
  | ',' :: rest => readBoundsEnd spaced min rest
  | _ => none

theorem local_readBoundsAfter (min : Nat) : Local b 2 (readBoundsAfter b min) := by
  refine .uncons nofun (s := false)
    (g := fun c rest =>
      if c = '\x7d' then some ((min, some min), rest)
      else if c = ',' then readBoundsEnd b min rest else none)
    (fun cs h => ?_) (fun cs c rest h => ?_) fun c =>
      .branch (.pure _) (.branch (local_readBoundsEnd min) .fail)
  · cases (show cs = [] from h)
    rfl
  · cases (show cs = c :: rest from h)
    unfold readBoundsAfter
    split
    next heq => cases heq; rfl
    next heq => cases heq; rfl
    next hbrace hcomma =>
      rw [if_neg fun hc => hbrace rest (by rw [hc]), if_neg fun hc => hcomma rest (by rw [hc])]

theorem readBounds_eq (b : Bool) (cs : List Char) :
    (readBounds b cs).map (fun p => ((p.1, p.2.1), p.2.2)) =
      readNumber b (skip b cs) >>= fun p => readBoundsAfter b p.1 p.2 := by
  unfold readBounds readNumber
  obtain ⟨_ | min, rest⟩ := readCount b (skip b cs)
  · rfl
  · change _ = readBoundsAfter b min rest
    unfold readBoundsAfter
    split
    next heq => cases heq; rfl
    next after heq =>
      cases heq
      change _ = readBoundsEnd b min after
      split
      next h => rw [readBoundsEnd, h]; rfl
      next hn =>
        rw [readBoundsEnd_of_ne hn]
        unfold readUpper readNumber
        obtain ⟨_ | max, more⟩ := readCount b (skip b after)
        · rfl
        · change _ = if min ≤ max then readBrace (min, some max) more else none
          split
          next heq => cases heq; split <;> rfl
          next hbrace =>
            have hnone : readBrace (min, some max) more = none := by
              unfold readBrace
              split
              next => exact absurd rfl (hbrace _ _)
              next => rfl
            rw [hnone, ite_self]
            rfl
    next hbrace hcomma =>
      split
      next => exact absurd rfl (hbrace _ _)
      next => exact absurd rfl (hcomma _ _)
      next => rfl

end Reading

end PageLayout.Pattern
