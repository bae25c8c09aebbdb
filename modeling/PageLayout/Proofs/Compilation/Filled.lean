import Mathlib.Data.List.Induction
import PageLayout.Proofs.Compilation.Opening
import PageLayout.Proofs.Expression.Spacing
import PageLayout.Proofs.Text.Rows

/-!
# Rows with indexes in place of their placeholders

`Placeholder.fillChars` puts an index in place of the placeholders of a text.  What it writes
there starts with a digit or a minus sign and ends in a digit (`Filled`).  So the filled row
has the margin of the row, counts as a line if the row does, and without the blanks at its
ends it is the filled line.
-/

namespace PageLayout

/-- A blank is no digit of any script. -/
theorem isDecimalDigit_eq_false {b : Char} (h : isBlank b = true) : isDecimalDigit b = false := by
  have hall : (Token.blankChars.all fun c => !isDecimalDigit c) = true := by decide +kernel
  have hb := List.all_eq_true.1 hall b (Token.mem_blankChars h)
  rwa [Bool.not_eq_true'] at hb

namespace Placeholder

/-! ## Indexes -/

/-- The characters that an index is written with. -/
def isIndexPart (c : Char) : Bool := Decimal.isDigit c || c == '-'

theorem toList_toString (i : Int) :
    (toString i).toList = (if i < 0 then ['-'] else []) ++ Nat.toDigits 10 i.natAbs := by
  cases i with
  | ofNat n => exact Nat.toList_repr
  | negSucc n =>
      have hneg : Int.negSucc n < 0 := Int.negSucc_lt_zero n
      rw [if_pos hneg]
      show ("-" ++ (n + 1).repr).toList = _
      rw [String.toList_append, Nat.toList_repr]
      rfl

theorem isDigit_of_mem_toDigits {n : Nat} {c : Char} (h : c ∈ Nat.toDigits 10 n) :
    Decimal.isDigit c = true := by
  have hdigit := Nat.isDigit_of_mem_toDigits (by decide) (by decide) h
  rw [Char.isDigit, Bool.and_eq_true, decide_eq_true_eq, decide_eq_true_eq] at hdigit
  rw [Decimal.isDigit, Bool.and_eq_true, decide_eq_true_eq, decide_eq_true_eq]
  exact hdigit

theorem isIndexPart_of_mem {i : Int} {c : Char} (h : c ∈ (toString i).toList) :
    isIndexPart c = true := by
  rw [toList_toString, List.mem_append] at h
  rw [isIndexPart, Bool.or_eq_true, beq_iff_eq]
  obtain h | h := h
  · split at h
    · exact .inr (List.mem_singleton.1 h)
    · cases h
  · exact .inl (isDigit_of_mem_toDigits h)

/-- An index ends in a digit. -/
theorem getLast?_toString (i : Int) :
    ∃ c, (toString i).toList.getLast? = some c ∧ Decimal.isDigit c = true := by
  have hne : Nat.toDigits 10 i.natAbs ≠ [] := Nat.toDigits_ne_nil
  obtain ⟨c, hc⟩ : ∃ c, (Nat.toDigits 10 i.natAbs).getLast? = some c :=
    ⟨_, List.getLast?_eq_some_getLast hne⟩
  refine ⟨c, ?_, isDigit_of_mem_toDigits (List.mem_of_getLast? hc)⟩
  rw [toList_toString, List.getLast?_append, hc, Option.some_or]

theorem toList_toString_ne_nil (i : Int) : (toString i).toList ≠ [] := by
  obtain ⟨c, hc, -⟩ := getLast?_toString i
  intro hnil
  rw [hnil] at hc
  cases hc

/-! ## Offsets and what follows them -/

theorem eq_of_dropPrefix? {ps cs rest : List Char} (h : Text.dropPrefix? ps cs = some rest) :
    cs = ps ++ rest := by
  induction ps generalizing cs with
  | nil =>
      cases h
      rfl
  | cons p ps ih =>
      cases cs with
      | nil => cases h
      | cons c cs =>
          rw [Text.dropPrefix?] at h
          split at h
          next heq => rw [heq, ih h, List.cons_append]
          next => cases h

theorem suffix_readSign? {cs rest : List Char} {negative : Bool}
    (h : readSign? cs = some (negative, rest)) : rest <:+ cs := by
  unfold readSign? at h
  split at h
  next =>
    cases h
    exact List.suffix_cons ..
  next =>
    cases h
    exact List.suffix_cons ..
  next => cases h

/-- What follows an offset is the end of the text. -/
theorem suffix_readOffset? {cs rest : List Char} {o : Offset} (h : readOffset? cs = some (o, rest)) :
    rest <:+ cs := by
  simp only [readOffset?, Option.bind_eq_bind, Option.bind_eq_some_iff] at h
  obtain ⟨inner, hinner, ⟨negative, afterSign⟩, hsign, last, hlast, hdigits⟩ := h
  split at hdigits
  · cases hdigits
  · cases hdigits
    have hclosed : rest <:+ Text.trimStart ((Text.trimStart afterSign).dropWhile isDecimalDigit) := by
      rw [eq_of_dropPrefix? hlast]
      exact List.suffix_append ..
    have hopen : inner <:+ cs := by
      rw [eq_of_dropPrefix? hinner]
      exact List.suffix_append ..
    exact hclosed.trans <| (List.dropWhile_suffix _).trans <| (List.dropWhile_suffix _).trans <|
      (List.dropWhile_suffix _).trans <| (suffix_readSign? hsign).trans <|
        (List.dropWhile_suffix _).trans hopen

/-- A text with a character after it, unless it is empty. -/
def followed (b : Char) (cs : List Char) : List Char := if cs = [] then [] else cs ++ [b]

variable {b : Char}

theorem dropPrefix?_followed (p : Char) (cs : List Char) :
    Text.dropPrefix? [p] (followed b cs) = (Text.dropPrefix? [p] cs).map (· ++ [b]) := by
  cases cs with
  | nil => rfl
  | cons c cs =>
      show (if p = c then _ else _) = Option.map _ (if p = c then _ else _)
      split <;> rfl

theorem readSign?_followed (cs : List Char) :
    readSign? (followed b cs) =
      (readSign? cs).map fun (negative, rest) => (negative, rest ++ [b]) := by
  cases cs with
  | nil => rfl
  | cons c cs =>
      show readSign? (c :: (cs ++ [b])) = _
      unfold readSign?
      split <;> simp_all

theorem takeWhile_followed {p : Char → Bool} (hb : p b = false) (cs : List Char) :
    (followed b cs).takeWhile p = cs.takeWhile p := by
  cases cs with
  | nil => rfl
  | cons c cs => exact Text.takeWhile_append_stop hb (c :: cs) []

/-- A blank stays behind what is left. -/
theorem trimStart_dropWhile_followed {p : Char → Bool} (hblank : isBlank b = true)
    (hb : p b = false) (cs : List Char) :
    Text.trimStart ((followed b cs).dropWhile p) = followed b (Text.trimStart (cs.dropWhile p)) := by
  cases cs with
  | nil => rfl
  | cons c cs =>
      show Text.trimStart ((c :: cs ++ [b]).dropWhile p) = _
      rw [Text.dropWhile_append_stop hb]
      exact Text.trimStart_concat hblank _

/-- A blank after a text is not part of an offset at its start. -/
theorem readOffset?_concat (hb : isBlank b = true) (cs : List Char) :
    readOffset? (cs ++ [b]) = (readOffset? cs).map fun (o, rest) => (o, rest ++ [b]) := by
  have hdigit : isDecimalDigit b = false := isDecimalDigit_eq_false hb
  have hopen : Text.dropPrefix? ['\x7b'] (cs ++ [b]) =
      (Text.dropPrefix? ['\x7b'] cs).map (· ++ [b]) := by
    cases cs with
    | nil =>
        have hne : '\x7b' ≠ b := by
          rintro rfl
          cases hb
        exact if_neg hne
    | cons c cs => exact dropPrefix?_followed '\x7b' (c :: cs)
  unfold readOffset?
  rw [hopen]
  cases Text.dropPrefix? ['\x7b'] cs with
  | none => rfl
  | some inner =>
      have hinner : Text.trimStart (inner ++ [b]) = followed b (Text.trimStart inner) :=
        Text.trimStart_concat hb inner
      simp only [Option.map_some, Option.bind_eq_bind, Option.bind_some, hinner, readSign?_followed]
      cases readSign? (Text.trimStart inner) with
      | none => rfl
      | some signed =>
          obtain ⟨negative, after⟩ := signed
          have hafter : Text.trimStart (after ++ [b]) = followed b (Text.trimStart after) :=
            Text.trimStart_concat hb after
          simp only [Option.map_some, Option.bind_some, hafter, takeWhile_followed hdigit,
            trimStart_dropWhile_followed hb hdigit, dropPrefix?_followed]
          cases Text.dropPrefix? ['\x7d']
              (Text.trimStart ((Text.trimStart after).dropWhile isDecimalDigit)) with
          | none => rfl
          | some rest =>
              simp only [Option.map_some, Option.bind_some]
              split <;> rfl

/-! ## Filling step by step -/

variable {i : Int} {c : Char} {cs rest : List Char}

theorem fillChars_nil (i : Int) : fillChars i [] = .ok [] := by
  rw [fillChars]

theorem fillChars_char (hc : c ≠ '@') : fillChars i (c :: cs) = (fillChars i cs).map (c :: ·) := by
  rw [fillChars, if_neg (by simpa using hc)]

/-- A text without placeholders stays as it is. -/
theorem fillChars_append {run : List Char} (h : '@' ∉ run) (cs : List Char) :
    fillChars i (run ++ cs) = (fillChars i cs).map (run ++ ·) := by
  induction run with
  | nil =>
      rw [List.nil_append]
      cases fillChars i cs <;> rfl
  | cons c run ih =>
      obtain ⟨hc, hrun⟩ := not_or.1 (mt List.mem_cons.2 h)
      rw [List.cons_append, fillChars_char (Ne.symm hc), ih hrun]
      cases fillChars i cs <;> rfl

theorem fillChars_index (h : readOffset? cs = none) :
    fillChars i ('@' :: cs) = (fillChars i cs).map ((toString i).toList ++ ·) := by
  rw [fillChars, if_pos (beq_self_eq_true _)]
  split
  next hread =>
    rw [h] at hread
    cases hread
  next => rfl

theorem fillChars_offset {o : Offset} (h : readOffset? cs = some (o, rest)) :
    fillChars i ('@' :: cs) =
      match shift? i o with
      | some moved => (fillChars i rest).map ((toString moved).toList ++ ·)
      | none => .error (.badIndex (String.ofList (('@' :: cs).take (cs.length + 1 - rest.length)))) := by
  rw [fillChars, if_pos (beq_self_eq_true _)]
  split
  next hread =>
    rw [h] at hread
    cases hread
    rfl
  next hread =>
    rw [h] at hread
    cases hread

/-- A blank after a text is left as it is. -/
theorem fillChars_concat (hb : isBlank b = true) (i : Int) (cs : List Char) :
    fillChars i (cs ++ [b]) = (fillChars i cs).map (· ++ [b]) := by
  have hread := readOffset?_concat hb
  fun_induction fillChars i cs with
  | case1 =>
      have hb : b ≠ '@' := by
        rintro rfl
        cases hb
      rw [List.nil_append, fillChars_char hb, fillChars_nil]
      rfl
  | case2 c cs hc offset rest hoffset _ moved hmoved ih =>
      obtain rfl := eq_of_beq hc
      rw [List.cons_append, fillChars_offset (by rw [hread, hoffset]; rfl), hmoved]
      dsimp only
      rw [ih]
      cases fillChars i rest <;> simp [Except.map]
  | case3 c cs hc offset rest hoffset hlt hmoved whole =>
      obtain rfl := eq_of_beq hc
      rw [List.cons_append, fillChars_offset (by rw [hread, hoffset]; rfl), hmoved]
      -- The blank is not part of the placeholder that the error shows.
      have hwhole : ('@' :: (cs ++ [b])).take ((cs ++ [b]).length + 1 - (rest ++ [b]).length) =
          whole := by
        rw [List.length_append, List.length_append, ← List.cons_append, List.take_append_of_le_length]
        · congr 1
          simp
        · simp
      rw [hwhole]
      rfl
  | case4 c cs hc hnone ih =>
      obtain rfl := eq_of_beq hc
      rw [List.cons_append, fillChars_index (by rw [hread, hnone]; rfl), ih]
      cases fillChars i cs <;> simp [Except.map]
  | case5 c cs hc ih =>
      rw [List.cons_append, fillChars_char (by simpa using hc), ih]
      cases fillChars i cs <;> rfl

/-! ## What is written -/

/-- A text comes from another one by writing indexes in place of some parts of it that start
with an `@`. -/
inductive Filled : List Char → List Char → Prop
  | nil : Filled [] []
  | char {c : Char} {cs ds : List Char} : c ≠ '@' → Filled cs ds → Filled (c :: cs) (c :: ds)
  | index {cs rest ds : List Char} (i : Int) :
      rest <:+ cs → Filled rest ds → Filled ('@' :: cs) ((toString i).toList ++ ds)

theorem filled_of_fillChars {i : Int} {cs ds : List Char} (h : fillChars i cs = .ok ds) :
    Filled cs ds := by
  fun_induction fillChars i cs generalizing ds with
  | case1 =>
      cases h
      exact .nil
  | case2 c cs hc offset rest hread _ moved hmoved ih =>
      obtain ⟨ds', hds', rfl⟩ := map_eq_ok_iff.1 h
      rw [eq_of_beq hc]
      exact .index moved (suffix_readOffset? hread) (ih hds')
  | case3 => cases h
  | case4 c cs hc hread ih =>
      obtain ⟨ds', hds', rfl⟩ := map_eq_ok_iff.1 h
      rw [eq_of_beq hc]
      exact .index i (List.suffix_refl _) (ih hds')
  | case5 c cs hc ih =>
      obtain ⟨ds', hds', rfl⟩ := map_eq_ok_iff.1 h
      exact .char (by simpa using hc) (ih hds')

namespace Filled

variable {cs ds : List Char}

/-- Only the characters of indexes are new. -/
theorem mem (h : Filled cs ds) {d : Char} (hd : d ∈ ds) : d ∈ cs ∨ isIndexPart d = true := by
  induction h with
  | nil => cases hd
  | char _ _ ih =>
      obtain rfl | hd := List.mem_cons.1 hd
      · exact .inl List.mem_cons_self
      · exact (ih hd).imp_left (List.mem_cons_of_mem _)
  | index i hrest _ ih =>
      obtain hd | hd := List.mem_append.1 hd
      · exact .inr (isIndexPart_of_mem hd)
      · exact (ih hd).imp_left fun hd => List.mem_cons_of_mem _ (hrest.mem hd)

/-- A text ends as before or in a digit. -/
theorem getLast? (h : Filled cs ds) :
    ds.getLast? = cs.getLast? ∨ ∃ d, ds.getLast? = some d ∧ Decimal.isDigit d = true := by
  induction h with
  | nil => exact .inl rfl
  | @char c cs ds _ hds ih =>
      rw [List.getLast?_cons, List.getLast?_cons]
      obtain ih | ⟨d, hd, hdigit⟩ := ih
      · exact .inl (by rw [ih])
      · exact .inr ⟨d, by rw [hd]; rfl, hdigit⟩
  | @index cs rest ds i hrest hds ih =>
      obtain ⟨d, hd, hdigit⟩ := getLast?_toString i
      obtain ⟨offset, rfl⟩ := hrest
      rw [List.getLast?_append, hd]
      cases rest with
      | nil =>
          cases hds
          exact .inr ⟨d, rfl, hdigit⟩
      | cons r rest =>
          have hend : ('@' :: (offset ++ r :: rest)).getLast? = (r :: rest).getLast? := by
            rw [← List.cons_append, List.getLast?_append, List.getLast?_cons, Option.some_or]
          rw [hend]
          obtain ih | ⟨e, he, hdigit⟩ := ih
          · rw [ih, List.getLast?_cons]
            exact .inl rfl
          · exact .inr ⟨e, by rw [he]; rfl, hdigit⟩

/-- A text without a placeholder is left as it is, and another one has a digit afterwards. -/
theorem eq_or_exists_digit (h : Filled cs ds) :
    ds = cs ∨ ∃ d ∈ ds, Decimal.isDigit d = true := by
  induction h with
  | nil => exact .inl rfl
  | char _ _ ih =>
      obtain rfl | ⟨d, hd, hdigit⟩ := ih
      · exact .inl rfl
      · exact .inr ⟨d, List.mem_cons_of_mem _ hd, hdigit⟩
  | index i _ _ _ =>
      obtain ⟨d, hd, hdigit⟩ := getLast?_toString i
      exact .inr ⟨d, List.mem_append_left _ (List.mem_of_getLast? hd), hdigit⟩

/-- An index starts a text where a placeholder did. -/
theorem head?_index (h : Filled ('@' :: cs) ds) : ∃ d, ds.head? = some d ∧ isIndexPart d = true := by
  cases h with
  | char hc _ => exact absurd rfl hc
  | @index _ _ ds i _ _ =>
      have hne := toList_toString_ne_nil i
      refine ⟨(toString i).toList.head hne, ?_, isIndexPart_of_mem (List.head_mem hne)⟩
      rw [List.head?_append, List.head?_eq_some_head hne, Option.some_or]

/-- A text starts as before or where a placeholder stood. -/
theorem of_cons {c : Char} (h : Filled (c :: cs) ds) :
    (c = '@' ∧ ∃ d, ds.head? = some d ∧ isIndexPart d = true) ∨
      c ≠ '@' ∧ ∃ ds', ds = c :: ds' ∧ Filled cs ds' := by
  by_cases hc : c = '@'
  · subst hc
    exact .inl ⟨rfl, h.head?_index⟩
  · cases h with
    | char _ h => exact .inr ⟨hc, _, rfl, h⟩
    | index => exact absurd rfl hc

end Filled

/-! ## Rows -/

theorem not_isBlank_of_isIndexPart (h : isIndexPart c = true) : isBlank c = false := by
  have hdigits : Decimal.digitChars.all (fun c => !isBlank c) = true := by decide
  rw [isIndexPart, Bool.or_eq_true, beq_iff_eq] at h
  obtain h | rfl := h
  · have hc := Decimal.all_of_isDigit (p := fun c => !isBlank c) hdigits h
    rwa [Bool.not_eq_true'] at hc
  · rfl

variable {ds : List Char}

/-- A row is filled behind the blanks in front of it. -/
theorem fillChars_trimStart (h : fillChars i cs = .ok ds) :
    Line.margin ds = Line.margin cs ∧ fillChars i (Text.trimStart cs) = .ok (Text.trimStart ds) := by
  have hstay : ∀ {c : Char} {cs : List Char}, isBlank c = false →
      Line.margin (c :: cs) = [] ∧ Text.trimStart (c :: cs) = c :: cs := by
    intro c cs hc
    exact ⟨List.takeWhile_cons_of_neg (by simpa using hc),
      List.dropWhile_cons_of_neg (by simpa using hc)⟩
  induction cs generalizing ds with
  | nil =>
      rw [fillChars_nil] at h
      cases h
      exact ⟨rfl, fillChars_nil i⟩
  | cons c cs ih =>
      cases hb : isBlank c with
      | true =>
          have hc : c ≠ '@' := by
            rintro rfl
            cases hb
          rw [fillChars_char hc, map_eq_ok_iff] at h
          obtain ⟨ds, hds, rfl⟩ := h
          obtain ⟨hmargin, hrest⟩ := ih hds
          refine ⟨?_, ?_⟩
          · rw [Line.margin, Line.margin, List.takeWhile_cons_of_pos hb,
              List.takeWhile_cons_of_pos hb]
            exact congrArg (c :: ·) hmargin
          · rw [Text.trimStart, Text.trimStart, List.dropWhile_cons_of_pos hb,
              List.dropWhile_cons_of_pos hb]
            exact hrest
      | false =>
          obtain ⟨d, ds, rfl, hd⟩ : ∃ d ds', ds = d :: ds' ∧ isBlank d = false := by
            obtain ⟨-, d, hd, hpart⟩ | ⟨-, ds', rfl, -⟩ := (filled_of_fillChars h).of_cons
            · obtain ⟨ds', rfl⟩ := List.head?_eq_some_iff.1 hd
              exact ⟨d, ds', rfl, not_isBlank_of_isIndexPart hpart⟩
            · exact ⟨c, ds', rfl, hb⟩
          rw [(hstay hb).1, (hstay hb).2, (hstay hd).1, (hstay hd).2]
          exact ⟨rfl, h⟩

/-- A row is filled before the blanks at its end. -/
theorem fillChars_trimEnd (h : fillChars i cs = .ok ds) :
    fillChars i (Text.trimEnd cs) = .ok (Text.trimEnd ds) := by
  induction cs using List.reverseRecOn generalizing ds with
  | nil =>
      rw [fillChars_nil] at h
      cases h
      exact fillChars_nil i
  | append_singleton cs b ih =>
      cases hb : isBlank b with
      | true =>
          rw [fillChars_concat hb, map_eq_ok_iff] at h
          obtain ⟨ds, hds, rfl⟩ := h
          rw [Text.trimEnd, Text.trimEnd, Text.dropEndWhile_concat hb, Text.dropEndWhile_concat hb]
          exact ih hds
      | false =>
          have hlast : ∀ d ∈ ds.getLast?, isBlank d = false := by
            intro d hd
            obtain hend | ⟨e, he, hdigit⟩ := (filled_of_fillChars h).getLast?
            · rw [hend, List.getLast?_concat] at hd
              cases hd
              exact hb
            · rw [he] at hd
              cases hd
              exact not_isBlank_of_isIndexPart (by rw [isIndexPart, hdigit, Bool.true_or])
          have hcs : ∀ d ∈ (cs ++ [b]).getLast?, isBlank d = false := by
            intro d hd
            rw [List.getLast?_concat] at hd
            cases hd
            exact hb
          rw [Text.trimEnd, Text.trimEnd, Text.dropEndWhile_of_getLast hlast,
            Text.dropEndWhile_of_getLast hcs]
          exact h

theorem fillChars_trim (h : fillChars i cs = .ok ds) :
    fillChars i (Text.trim cs) = .ok (Text.trim ds) :=
  fillChars_trimEnd (fillChars_trimStart h).2

/-- A row says as much as before. -/
theorem isSilent_of_fillChars (h : fillChars i cs = .ok ds) :
    Line.isSilent ds = Line.isSilent cs := by
  have hstart := (fillChars_trimStart h).2
  unfold Line.isSilent
  generalize Text.trimStart ds = ds at *
  cases hcs : Text.trimStart cs with
  | nil =>
      rw [hcs, fillChars_nil] at hstart
      cases hstart
      rfl
  | cons c cs =>
      rw [hcs] at hstart
      obtain ⟨rfl, d, hd, hpart⟩ | ⟨-, ds', rfl, -⟩ := (filled_of_fillChars hstart).of_cons
      · obtain ⟨ds', rfl⟩ := List.head?_eq_some_iff.1 hd
        have hne : d ≠ '#' := by
          rintro rfl
          cases hpart
        simpa using hne
      · rfl

end Placeholder

/-! ## Names of objects -/

/-- What the name of an object does not look like. -/
theorem LineKind.of_eq_objectName_iff {cs : List Char} :
    LineKind.of false cs = .objectName ↔
      isRuler '=' cs = false ∧ cs.head? ≠ some '@' ∧ isRuler '-' cs = false ∧
        bracketed? cs = false := by
  unfold LineKind.of
  cases hruler : isRuler '=' cs with
  | true => simp
  | false =>
      simp only [Bool.false_eq_true, if_false]
      split
      next => simp
      next => simp
      next hne =>
        have hhead : cs.head? ≠ some '@' := by
          intro hhead
          obtain ⟨rest, rfl⟩ := List.head?_eq_some_iff.1 hhead
          exact hne rest rfl
        cases isRuler '-' cs <;> cases bracketed? cs <;> simp [hhead]

namespace Placeholder

variable {i : Int} {cs ds : List Char}

/-- The name of an object is still one. -/
theorem objectName_of_fillChars (h : fillChars i cs = .ok ds)
    (hk : LineKind.of false cs = .objectName) : LineKind.of false ds = .objectName := by
  have hfilled := filled_of_fillChars h
  obtain rfl | ⟨d, hd, hdigit⟩ := hfilled.eq_or_exists_digit
  · exact hk
  · rw [LineKind.of_eq_objectName_iff] at hk ⊢
    obtain ⟨-, hhead, -, hbrackets⟩ := hk
    have hruler : ∀ c, Decimal.isDigit c = false → isRuler c ds = false := by
      intro c hc
      have hall : ds.all (· == c) = false := by
        rw [List.all_eq_false]
        refine ⟨d, hd, fun heq => ?_⟩
        rw [eq_of_beq heq, hc] at hdigit
        cases hdigit
      rw [isRuler, hall, Bool.and_false]
    have hfirst : ds.head? = cs.head? := by
      cases cs with
      | nil =>
          cases hfilled
          rfl
      | cons c cs =>
          obtain ⟨rfl, -⟩ | ⟨-, ds', rfl, -⟩ := hfilled.of_cons
          · exact absurd rfl hhead
          · rfl
    refine ⟨hruler '=' rfl, hfirst ▸ hhead, hruler '-' rfl, ?_⟩
    rw [bracketed?, hfirst]
    obtain hlast | ⟨e, he, hdigit⟩ := hfilled.getLast?
    · rw [hlast]
      exact hbrackets
    · have hne : (some e == some ']') = false := by
        refine beq_false_of_ne fun heq => ?_
        cases heq
        cases hdigit
      rw [he, hne, Bool.and_false]

end Placeholder

end PageLayout
