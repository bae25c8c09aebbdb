import Mathlib.Data.List.Induction
import PageLayout.Expression.Token
import PageLayout.Proofs.Text.Rows

/-!
# Tokens with blanks between them

`Token.Spelled` says which characters spell a token.  `Token.Spaced` says that a text
consists of spelled tokens with blanks between any two of them, and maybe before the
first and after the last.

A token ends at a blank, because no token but a string has a blank inside.  So
`scan_of_spaced` reads the same tokens off the text again, and blanks around a text do not
matter for its tokens (`scan_trim`).
-/

namespace PageLayout

namespace Token

/-! ## Spellings -/

/-- Characters spell a token. -/
inductive Spelled : Token → List Char → Prop
  | number {x : Float} {c : Char} {cs : List Char} :
      (∀ d ∈ c :: cs, isNumberPart d = true) → Decimal.read? (c :: cs) = some x →
        Spelled (.number x) (c :: cs)
  | string {quote : Char} {cs : List Char} :
      quote = '"' ∨ quote = '\'' → quote ∉ cs →
        Spelled (.string (String.ofList cs)) (quote :: (cs ++ [quote]))
  | name {c : Char} {cs : List Char} :
      startsName c = true → (∀ d ∈ cs, isNamePart d = true) → cs.getLast? ≠ some '-' →
        Spelled (.name (String.ofList (c :: cs))) (c :: cs)
  | operator {op : Operator} : Spelled (.operator op) [op.char]
  | opening : Spelled .opening ['(']
  | closing : Spelled .closing [')']
  | comma : Spelled .comma [',']

/-- A text has these tokens, with at least one blank between any two of them. -/
inductive Spaced : List Token → List Char → Prop
  | nil {blanks : List Char} : (∀ b ∈ blanks, isBlank b = true) → Spaced [] blanks
  | cons {t : Token} {ts : List Token} {blanks word rest : List Char} :
      (∀ b ∈ blanks, isBlank b = true) → Spelled t word →
        (∀ c ∈ rest.head?, isBlank c = true) → Spaced ts rest →
          Spaced (t :: ts) (blanks ++ (word ++ rest))

namespace Spaced

variable {t : Token} {ts : List Token} {b : Char} {word cs : List Char}

/-- A blank may stand in front. -/
theorem blank (hb : isBlank b = true) (h : Spaced ts cs) : Spaced ts (b :: cs) := by
  have hcons : ∀ {blanks : List Char}, (∀ d ∈ blanks, isBlank d = true) →
      ∀ d ∈ b :: blanks, isBlank d = true := fun hblanks =>
    List.forall_mem_cons.mpr ⟨hb, hblanks⟩
  cases h with
  | nil hblanks => exact .nil (hcons hblanks)
  | cons hblanks hword hrest h => exact .cons (hcons hblanks) hword hrest h

/-- One more token in front, and a blank after it. -/
theorem next (hword : Spelled t word) (hb : isBlank b = true) (h : Spaced ts cs) :
    Spaced (t :: ts) (word ++ b :: cs) := by
  have hhead : ∀ c ∈ (b :: cs).head?, isBlank c = true := by
    intro c hc
    cases hc
    exact hb
  exact @cons t ts [] word (b :: cs) nofun hword hhead (h.blank hb)

end Spaced

/-! ## The classes of characters -/

/-- The characters that are blank. -/
def blankChars : List Char :=
  [9, 10, 11, 12, 13, 0x20, 0x85, 0xA0, 0x1680, 0x2000, 0x2001, 0x2002, 0x2003, 0x2004, 0x2005,
    0x2006, 0x2007, 0x2008, 0x2009, 0x200A, 0x2028, 0x2029, 0x202F, 0x205F, 0x3000].map Char.ofNat

theorem mem_blankChars {c : Char} (h : isBlank c = true) : c ∈ blankChars := by
  have hmem : c.toNat ∈ [9, 10, 11, 12, 13, 0x20, 0x85, 0xA0, 0x1680, 0x2000, 0x2001, 0x2002,
      0x2003, 0x2004, 0x2005, 0x2006, 0x2007, 0x2008, 0x2009, 0x200A, 0x2028, 0x2029, 0x202F,
      0x205F, 0x3000] := by
    simp only [isBlank, Bool.or_eq_true, Bool.and_eq_true, decide_eq_true_eq, beq_iff_eq] at h
    simp only [List.mem_cons, List.not_mem_nil, or_false]
    omega
  rw [← Char.ofNat_toNat c]
  exact List.mem_map_of_mem hmem

theorem isNamePart_of_startsName {c : Char} (h : startsName c = true) : isNamePart c = true := by
  rw [startsName, Bool.or_eq_true] at h
  rw [isNamePart, isLetterOrNumeral]
  obtain h | h := h <;> rw [h] <;> simp

theorem isNamePart_of_name {c : Char} {cs : List Char} (hc : startsName c = true)
    (hparts : ∀ d ∈ cs, isNamePart d = true) : ∀ d ∈ c :: cs, isNamePart d = true :=
  List.forall_mem_cons.2 ⟨isNamePart_of_startsName hc, hparts⟩

/-- No part of a number or a name is blank. -/
theorem not_part_of_isBlank {c : Char} (h : isBlank c = true) :
    isNumberPart c = false ∧ isNamePart c = false := by
  have hall : (blankChars.all fun c => !isNumberPart c && !isNamePart c) = true := by
    decide +kernel
  have hc := List.all_eq_true.mp hall c (mem_blankChars h)
  rwa [Bool.and_eq_true, Bool.not_eq_true', Bool.not_eq_true'] at hc

/-- A name starts neither like a number nor like a string. -/
theorem not_startsName {c : Char} (h : isNumberPart c = true ∨ c = '"' ∨ c = '\'') :
    startsName c = false := by
  have hdigits : (Decimal.digitChars.all fun c => !startsName c) = true := by decide
  obtain h | rfl | rfl := h
  · rw [isNumberPart, Bool.or_eq_true, beq_iff_eq] at h
    obtain h | rfl := h
    · exact (Bool.not_eq_true' _).mp (Decimal.all_of_isDigit (p := fun c => !startsName c) hdigits h)
    · decide
  · decide
  · decide

/-- A token starts with a character that is not blank. -/
theorem Spelled.head {t : Token} {word : List Char} (h : Spelled t word) :
    ∃ c cs, word = c :: cs ∧ isBlank c = false := by
  cases h with
  | @number _ c cs hparts _ =>
      refine ⟨c, cs, rfl, Bool.eq_false_iff.mpr fun hb => ?_⟩
      have hc := hparts c List.mem_cons_self
      rw [(not_part_of_isBlank hb).1] at hc
      cases hc
  | @string quote cs hquote _ => exact ⟨quote, _, rfl, by obtain rfl | rfl := hquote <;> decide⟩
  | @name c cs hc _ _ =>
      refine ⟨c, cs, rfl, Bool.eq_false_iff.mpr fun hb => ?_⟩
      have hpart := isNamePart_of_startsName hc
      rw [(not_part_of_isBlank hb).2] at hpart
      cases hpart
  | @operator op => exact ⟨op.char, [], rfl, by cases op <;> decide⟩
  | opening | closing | comma => exact ⟨_, [], rfl, by decide⟩

/-! ## One token -/

section Lexeme

variable {c : Char} {cs rest : List Char}

theorem lexeme_number {x : Float} (hparts : ∀ d ∈ c :: cs, isNumberPart d = true)
    (hx : Decimal.read? (c :: cs) = some x) (hrest : ∀ d ∈ rest.head?, isNumberPart d = false) :
    (lexeme c (cs ++ rest)).map (·.1) = .ok (.number x, rest) := by
  have htail : ∀ d ∈ cs, isNumberPart d = true := fun d hd => hparts d (List.mem_cons_of_mem c hd)
  rw [lexeme, if_pos (hparts c List.mem_cons_self)]
  simp only [Text.takeWhile_run htail hrest, Text.dropWhile_run htail hrest, hx]
  rfl

theorem lexeme_string {quote : Char} (hquote : quote = '"' ∨ quote = '\'') (hcs : quote ∉ cs) :
    (lexeme quote (cs ++ [quote] ++ rest)).map (·.1) =
      .ok (.string (String.ofList cs), rest) := by
  have hrun : ∀ d ∈ cs, (d != quote) = true := fun d hd =>
    bne_iff_ne.mpr fun heq => hcs (heq ▸ hd)
  have hend : ∀ d ∈ (quote :: rest).head?, (d != quote) = false := by
    intro d hd
    cases hd
    exact bne_self_eq_false quote
  have hnumber : isNumberPart quote = false := by obtain rfl | rfl := hquote <;> decide
  have hq : (quote == '"' || quote == '\'') = true := by obtain rfl | rfl := hquote <;> decide
  rw [List.append_assoc, List.singleton_append, lexeme,
    if_neg (Bool.eq_false_iff.mp hnumber), if_pos hq]
  split
  next heq =>
    rw [Text.dropWhile_run hrun hend] at heq
    cases heq
  next rest' heq =>
    rw [Text.dropWhile_run hrun hend] at heq
    cases heq
    simp only [Text.takeWhile_run hrun hend]
    rfl

theorem lexeme_name (hc : startsName c = true) (hparts : ∀ d ∈ cs, isNamePart d = true)
    (hlast : cs.getLast? ≠ some '-') (hrest : ∀ d ∈ rest.head?, isNamePart d = false) :
    (lexeme c (cs ++ rest)).map (·.1) = .ok (.name (String.ofList (c :: cs)), rest) := by
  have hstart : ¬startsName c = false := by rw [hc]; decide
  have hnumber : ¬isNumberPart c = true := fun h => hstart (not_startsName (.inl h))
  have hquote : ¬(c == '"' || c == '\'') = true := by
    rw [Bool.or_eq_true, beq_iff_eq, beq_iff_eq]
    exact fun h => hstart (not_startsName (.inr h))
  -- Hyphens at the end are given back, so a name must not end in one.
  have htail : nameTail (cs ++ rest) = cs := by
    rw [nameTail, Text.takeWhile_run hparts hrest]
    exact Text.dropEndWhile_of_getLast fun d hd =>
      beq_eq_false_iff_ne.mpr fun heq => hlast (heq ▸ hd)
  rw [lexeme, if_neg hnumber, if_neg hquote, if_pos hc]
  simp only [htail, List.drop_left]
  rfl

theorem lexeme_operator (op : Operator) :
    (lexeme op.char rest).map (·.1) = .ok (.operator op, rest) := by
  cases op <;> rfl

/-- A spelled token is read up to a blank. -/
theorem lexeme_of_spelled {t : Token} (h : Spelled t (c :: cs))
    (hrest : ∀ d ∈ rest.head?, isBlank d = true) :
    (lexeme c (cs ++ rest)).map (·.1) = .ok (t, rest) := by
  cases h with
  | number hparts hx =>
      exact lexeme_number hparts hx fun d hd => (not_part_of_isBlank (hrest d hd)).1
  | string hquote hcs => exact lexeme_string hquote hcs
  | name hc hparts hlast =>
      exact lexeme_name hc hparts hlast fun d hd => (not_part_of_isBlank (hrest d hd)).2
  | operator => exact lexeme_operator _
  | opening | closing | comma => rfl

/-- Whatever is read as a token is spelled by the characters before the rest. -/
theorem spelled_of_lexeme {t : Token} (h : (lexeme c cs).map (·.1) = .ok (t, rest)) :
    ∃ word, c :: cs = word ++ rest ∧ Spelled t word := by
  revert h
  -- Numbers, strings, names and operators in this order, and then the three marks.
  fun_cases lexeme c cs with
  | case1 hnumber digits x hx =>
      rintro ⟨⟩
      refine ⟨digits, ?_, .number ?_ hx⟩
      · rw [List.cons_append, List.takeWhile_append_dropWhile]
      · exact List.forall_mem_cons.mpr ⟨hnumber, fun d hd => List.mem_takeWhile_imp hd⟩
  | case4 _ hquote d rest' hrest =>
      rintro ⟨⟩
      rw [Bool.or_eq_true, beq_iff_eq, beq_iff_eq] at hquote
      have hend := List.head?_dropWhile_not (· != c) cs
      rw [hrest] at hend
      obtain rfl : d = c := by simpa using hend
      refine ⟨d :: (cs.takeWhile (· != d) ++ [d]), ?_, .string hquote fun hmem => ?_⟩
      · rw [List.cons_append, List.append_assoc, List.singleton_append, ← hrest,
          List.takeWhile_append_dropWhile]
      · have hne := List.mem_takeWhile_imp hmem
        simp at hne
  | case5 _ _ hstart tail =>
      rintro ⟨⟩
      have htail : tail <+: cs.takeWhile isNamePart := Text.dropEndWhile_isPrefix _ _
      refine ⟨c :: tail, ?_, .name hstart (fun d hd => ?_) fun hlast => ?_⟩
      · have hcs := List.prefix_iff_eq_append.mp (htail.trans (List.takeWhile_prefix _))
        exact congrArg (c :: ·) hcs.symm
      · exact List.mem_takeWhile_imp (htail.subset hd)
      · have hhyphen := Text.getLast_dropEndWhile (· == '-') (cs.takeWhile isNamePart) '-' hlast
        cases hhyphen
  | case6 _ _ _ op hop =>
      rintro ⟨⟩
      obtain rfl : op.char = c := by simpa using List.find?_some hop
      exact ⟨[op.char], rfl, .operator⟩
  | case7 _ _ _ _ hc =>
      rintro ⟨⟩
      exact ⟨['('], by rw [beq_iff_eq.mp hc]; rfl, .opening⟩
  | case8 _ _ _ _ _ hc =>
      rintro ⟨⟩
      exact ⟨[')'], by rw [beq_iff_eq.mp hc]; rfl, .closing⟩
  | case9 _ _ _ _ _ _ hc =>
      rintro ⟨⟩
      exact ⟨[','], by rw [beq_iff_eq.mp hc]; rfl, .comma⟩
  | case2 | case3 | case10 => rintro ⟨⟩

/-- A quote that is not closed is an error. -/
theorem lexeme_unterminated (hc : c = '"' ∨ c = '\'') (h : c ∉ cs) :
    lexeme c cs = .error .unterminatedString := by
  have hnumber : ¬isNumberPart c = true := by obtain rfl | rfl := hc <;> decide
  have hquote : (c == '"' || c == '\'') = true := by obtain rfl | rfl := hc <;> decide
  have hnone : cs.dropWhile (· != c) = [] :=
    List.dropWhile_eq_nil_iff.2 fun d hd => bne_iff_ne.2 fun heq => h (heq ▸ hd)
  rw [lexeme, if_neg hnumber, if_pos hquote]
  split
  next => rfl
  next heq =>
    rw [hnone] at heq
    cases heq

/-- A blank after a text is not part of its first token. -/
theorem lexeme_concat {b : Char} (hb : isBlank b = true) (c : Char) (cs : List Char) :
    (lexeme c (cs ++ [b])).map (·.1) =
      ((lexeme c cs).map (·.1)).map fun r => (r.1, r.2 ++ [b]) := by
  obtain ⟨hnumber, hname⟩ := not_part_of_isBlank hb
  by_cases hc : c = '"' ∨ c = '\''
  · by_cases hmem : c ∈ cs
    · obtain ⟨inner, rest, rfl, hinner⟩ := List.eq_append_cons_of_mem hmem
      have hread := @lexeme_string inner rest c hc hinner
      have hmore := @lexeme_string inner (rest ++ [b]) c hc hinner
      rw [List.append_assoc, List.singleton_append] at hread hmore
      rw [List.append_assoc, List.cons_append, hmore, hread]
      rfl
    · have hb : c ∉ cs ++ [b] := fun hmem' => (List.mem_append.1 hmem').elim hmem fun heq => by
        rw [List.mem_singleton.1 heq] at hc
        obtain rfl | rfl := hc <;> cases hb
      rw [lexeme_unterminated hc hmem, lexeme_unterminated hc hb]
      rfl
  · have hquote : ¬(c == '"' || c == '\'') = true := by
      rwa [Bool.or_eq_true, beq_iff_eq, beq_iff_eq]
    have htail : nameTail (cs ++ [b]) = nameTail cs := by
      rw [nameTail, nameTail, Text.takeWhile_append_stop hname]
    have hlength : (nameTail cs).length ≤ cs.length :=
      ((Text.dropEndWhile_isPrefix _ _).trans (List.takeWhile_prefix _)).length_le
    unfold lexeme
    simp only [if_neg hquote, Text.takeWhile_append_stop hnumber,
      Text.dropWhile_append_stop hnumber, htail, List.drop_append_of_le_length hlength]
    split
    next => split <;> rfl
    next =>
      split
      next => rfl
      next =>
        split
        next => rfl
        next => split <;> [rfl; (split <;> [rfl; (split <;> rfl)])]

end Lexeme

/-! ## All tokens -/

theorem scan_blank {b : Char} (h : isBlank b = true) (cs : List Char) :
    scan (b :: cs) = scan cs := by
  rw [scan, if_pos h]

theorem scan_blanks {blanks : List Char} (h : ∀ b ∈ blanks, isBlank b = true) (cs : List Char) :
    scan (blanks ++ cs) = scan cs := by
  induction blanks with
  | nil => rfl
  | cons b blanks ih =>
      rw [List.cons_append, scan_blank (h b List.mem_cons_self)]
      exact ih fun d hd => h d (List.mem_cons_of_mem b hd)

theorem scan_lexeme {c : Char} {cs rest : List Char} {t : Token} (hc : isBlank c = false)
    (h : (lexeme c cs).map (·.1) = .ok (t, rest)) :
    scan (c :: cs) = (scan rest).map (t :: ·) := by
  rw [scan, if_neg (Bool.eq_false_iff.mp hc)]
  generalize lexeme c cs = r at h
  cases r with
  | error fault => cases h
  | ok r =>
      obtain ⟨_, _⟩ := r
      cases h
      rfl

/-- Blanks after a text do not count. -/
theorem scan_concat {b : Char} (hb : isBlank b = true) (cs : List Char) : scan (cs ++ [b]) = scan cs := by
  fun_induction scan cs with
  | case1 => rw [List.nil_append, scan_blank hb, scan]
  | case2 c cs hc ih => rw [List.cons_append, scan_blank hc, ih]
  | case3 c cs hc fault hlexeme =>
      have hmore := lexeme_concat hb c cs
      rw [hlexeme] at hmore
      rw [List.cons_append, scan, if_neg hc]
      cases hconcat : lexeme c (cs ++ [b]) with
      | error fault' =>
          rw [hconcat] at hmore
          cases hmore
          rfl
      | ok r =>
          rw [hconcat] at hmore
          cases hmore
  | case4 c cs hc t rest _ hlexeme ih =>
      have hmore := lexeme_concat hb c cs
      rw [hlexeme] at hmore
      rw [List.cons_append, scan_lexeme (Bool.eq_false_iff.2 hc) hmore, ih]

/-- Blanks around a text do not count. -/
theorem scan_trim (cs : List Char) : scan (Text.trim cs) = scan cs := by
  have hstart : scan (Text.trimStart cs) = scan cs := by
    have hcs : cs.takeWhile isBlank ++ Text.trimStart cs = cs := List.takeWhile_append_dropWhile
    rw [← scan_blanks (fun b => List.mem_takeWhile_imp) (Text.trimStart cs), hcs]
  have hend : ∀ cs, scan (Text.trimEnd cs) = scan cs := by
    intro cs
    induction cs using List.reverseRecOn with
    | nil => rfl
    | append_singleton cs b ih =>
        cases hb : isBlank b with
        | true => rw [Text.trimEnd, Text.dropEndWhile_concat hb, scan_concat hb, ← ih, Text.trimEnd]
        | false =>
            refine congrArg scan (Text.dropEndWhile_of_getLast fun c hc => ?_)
            rw [List.getLast?_concat] at hc
            cases hc
            exact hb
  rw [Text.trim, hend, hstart]

/-- The tokens of a text with blanks between its tokens. -/
theorem scan_of_spaced {ts : List Token} {cs : List Char} (h : Spaced ts cs) :
    scan cs = .ok ts := by
  induction h with
  | @nil blanks hblanks =>
      rw [← List.append_nil blanks, scan_blanks hblanks, scan]
  | cons hblanks hword hrest _ ih =>
      obtain ⟨c, cs, rfl, hc⟩ := hword.head
      rw [scan_blanks hblanks, List.cons_append, scan_lexeme hc (lexeme_of_spelled hword hrest), ih]
      rfl

end Token

end PageLayout
