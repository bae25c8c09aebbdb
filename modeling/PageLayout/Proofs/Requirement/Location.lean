import PageLayout.Proofs.Decimal.Plain
import PageLayout.Proofs.Requirement.Line
import PageLayout.Proofs.Text.Separators

/-!
# Ranges in front of sides

A location has a range in front of its sides.  It takes the words that look like a range, and puts
them together again with single spaces.  `Range.Spells` says what the words of a range are.  It
holds of the words of every range that is read (`Range.spells_of_read`), and words that are put
together again are read as the same range (`Range.Spells.read`).

The two readers do not agree on what looks like a range.  A number may start with a plus sign, and
a word that does is none of a range to the reader of locations.  So a location accepts those ranges
that have no such word, and no others (`Requirement.ofText_located`).
-/

namespace PageLayout

/-! ## Numbers -/

/-- A text is read as a finite number. -/
structure Number.Spelled (x : Float) (w : List Char) : Prop where
  read : Decimal.read? w = some x
  finite : Number.isFinite x = true

namespace Number.Spelled

variable {x : Float} {w : List Char}

theorem plain (h : Spelled x w) : Decimal.Plain w := Decimal.plain_of_read? h.read h.finite

theorem word (h : Spelled x w) : Text.Word w := h.plain.word

end Number.Spelled

namespace Range

variable {tolerance x y : Float} {r : Range} {c : Char} {w text : List Char} {ws vs : List (List Char)}

/-- The words of a number in a range: the number without its unit, with it, and apart from it. -/
inductive Amount (x : Float) : List (List Char) → Prop
  | bare {w : List Char} : Number.Spelled x w → Amount x [w]
  | unit {w : List Char} : Number.Spelled x w → Amount x [w ++ ['p', 'x']]
  | apart {w : List Char} : Number.Spelled x w → Amount x [w, ['p', 'x']]

/-- The words of a range. -/
inductive Spells (tolerance : Float) : Range → List (List Char) → Prop
  | exact {x : Float} {ws : List (List Char)} : Amount x ws → Spells tolerance (.exact x) ws
  | between {x y : Float} {ws vs : List (List Char)} :
      Amount x ws → Amount y vs → ¬y < x → Spells tolerance (spanning x y) (ws ++ ['t', 'o'] :: vs)
  | apart {c : Char} {make : Float → Range} {x : Float} {ws : List (List Char)} :
      ofSign? tolerance c = some make → Amount x ws → Spells tolerance (make x) ([c] :: ws)
  | attached {c : Char} {make : Float → Range} {x : Float} {w : List Char} {ws : List (List Char)} :
      ofSign? tolerance c = some make → Amount x (w :: ws) →
        Spells tolerance (make x) ((c :: w) :: ws)

/-! ### The words of a number -/

theorem word_px : Text.Word ['p', 'x'] := .of_all (List.cons_ne_nil _ _) rfl

theorem word_to : Text.Word ['t', 'o'] := .of_all (List.cons_ne_nil _ _) rfl

/-- A number that is read consists of the words of a number. -/
theorem amount_of_readNumber {range : List Char} (h : readNumber range text = .ok x) :
    Amount x (Text.words text) := by
  have htrimmed := Text.trimmed_trim text
  rw [readNumber] at h
  rw [← Text.words_trim]
  generalize Text.trim text = u at h htrimmed
  have hspelled : Number.Spelled x (dropUnit u) := by
    split at h
    next y hy =>
      split at h
      next hfinite =>
        cases h
        exact ⟨hy, hfinite⟩
      next => cases h
    next => cases h
  rw [dropUnit] at hspelled
  cases hsuffix : Text.dropSuffix? ['p', 'x'] u with
  | none =>
      rw [hsuffix, Option.getD_none, Text.trimEnd, Text.dropEndWhile_of_getLast htrimmed.last]
        at hspelled
      rw [Text.words_word hspelled.word]
      exact .bare hspelled
  | some v =>
      rw [hsuffix, Option.getD_some, Text.trimEnd] at hspelled
      obtain ⟨blanks, hblanks, hv⟩ := Text.exists_eq_dropEndWhile_append isBlank v
      have hu : u = Text.dropEndWhile isBlank v ++ (blanks ++ ['p', 'x']) := by
        rw [← List.append_assoc, ← hv]
        exact Text.eq_append_of_dropSuffix?_eq_some hsuffix
      rw [hu]
      cases blanks with
      | nil =>
          rw [List.nil_append, Text.words_word (hspelled.word.append word_px)]
          exact .unit hspelled
      | cons b blanks =>
          rw [Text.words_pair hspelled.word word_px (List.cons_ne_nil b blanks) hblanks]
          exact .apart hspelled

namespace Amount

/-- The words of a number are read as the number. -/
theorem read (h : Amount x ws) (range : List Char) : readNumber range (Text.spaced ws) = .ok x := by
  cases h with
  | bare h =>
      rw [Text.spaced_singleton]
      exact readNumber_word h.word (h.plain.notMem (by decide)) h.read h.finite range
  | unit h =>
      rw [Text.spaced_singleton]
      exact readNumber_word_unit h.word (List.forall_mem_nil _) h.read h.finite range
  | apart h =>
      have hblank : ∀ b ∈ [' '], isBlank b = true := List.forall_mem_singleton.2 rfl
      rw [Text.spaced_cons_cons, Text.spaced_singleton]
      exact readNumber_word_unit h.word hblank h.read h.finite range

theorem ne_nil (h : Amount x ws) : ws ≠ [] := by
  cases h <;> exact List.cons_ne_nil _ _

/-- What holds of the characters of a unit and of a number holds of all characters. -/
theorem all {p : Char → Bool} (h : Amount x ws)
    (hp : (['p', 'x'] ++ (['.', '+', '-', 'e', 'E'] ++ Decimal.digitChars)).all p = true) :
    ∀ w ∈ ws, ∀ c ∈ w, p c = true := by
  rw [List.all_append, Bool.and_eq_true] at hp
  have hunit : ∀ c ∈ ['p', 'x'], p c = true := List.all_eq_true.1 hp.1
  cases h with
  | bare h => exact List.forall_mem_singleton.2 (h.plain.all hp.2)
  | unit h =>
      refine List.forall_mem_singleton.2 fun c hc => ?_
      exact (List.mem_append.1 hc).elim (h.plain.all hp.2 c) (hunit c)
  | apart h => exact List.forall_mem_cons.2 ⟨h.plain.all hp.2, List.forall_mem_singleton.2 hunit⟩

theorem notMem_spaced {d : Char} (h : Amount x ws) (hspace : d ≠ ' ')
    (hd : (['p', 'x'] ++ (['.', '+', '-', 'e', 'E'] ++ Decimal.digitChars)).all (· != d) = true) :
    d ∉ Text.spaced ws := by
  intro hmem
  obtain heq | ⟨w, hw, hmem⟩ := Text.mem_spaced hmem
  · exact hspace heq
  · exact absurd (h.all hd w hw d hmem) (by simp)

theorem word (h : Amount x ws) : ∀ w ∈ ws, Text.Word w := by
  cases h with
  | bare h => exact List.forall_mem_singleton.2 h.word
  | unit h => exact List.forall_mem_singleton.2 (h.word.append word_px)
  | apart h => exact List.forall_mem_cons.2 ⟨h.word, List.forall_mem_singleton.2 word_px⟩

/-- The first word starts like a number. -/
theorem first (h : Amount x ws) : ∃ c w vs, ws = (c :: w) :: vs ∧
    (Decimal.isDigit c = true ∨ c = '.' ∨ c = '-' ∨ c = '+') := by
  have hplain : ∀ {w : List Char}, Number.Spelled x w → ∃ c cs, w = c :: cs ∧
      (Decimal.isDigit c = true ∨ c = '.' ∨ c = '-' ∨ c = '+') := by
    intro w h
    obtain ⟨c, hc, hfirst⟩ := h.plain.first
    obtain ⟨cs, rfl⟩ := List.head?_eq_some_iff.1 hc
    exact ⟨c, cs, rfl, hfirst⟩
  cases h with
  | bare h | unit h | apart h =>
      obtain ⟨c, cs, rfl, hfirst⟩ := hplain h
      exact ⟨c, _, _, rfl, hfirst⟩

/-- The words of a number look like parts of a range, unless the number has a plus sign. -/
theorem isRangeWord_or (h : Amount x ws) :
    ∀ w ∈ ws, Location.isRangeWord w = true ∨ w.head? = some '+' := by
  obtain ⟨c, w, vs, hws, hc⟩ := h.first
  have hfirst : Location.isRangeWord (c :: w) = true ∨ (c :: w).head? = some '+' := by
    obtain hdigit | rfl | rfl | rfl := hc
    · exact .inl (by simp [Location.isRangeWord, hdigit])
    · exact .inl (by simp [Location.isRangeWord])
    · exact .inl (by simp [Location.isRangeWord])
    · exact .inr rfl
  have hrest : ∀ v ∈ vs, v = ['p', 'x'] := by
    cases h with
    | bare | unit =>
        obtain ⟨-, rfl⟩ := List.cons.inj hws
        exact List.forall_mem_nil _
    | apart =>
        obtain ⟨-, rfl⟩ := List.cons.inj hws
        exact fun v hv => List.mem_singleton.1 hv
  rw [hws]
  refine List.forall_mem_cons.2 ⟨hfirst, fun v hv => ?_⟩
  rw [hrest v hv]
  exact .inl rfl

end Amount

/-! ### The words of a range -/

theorem read_trim (tolerance : Float) (text : List Char) :
    read tolerance (Text.trim text) = read tolerance text := by
  rw [read, read, (Text.trimmed_trim text).trim]

/-- A range that is read consists of the words of a range. -/
theorem spells_of_read (h : read tolerance text = .ok r) : Spells tolerance r (Text.words text) := by
  have htrimmed := Text.trimmed_trim text
  rw [← read_trim] at h
  rw [← Text.words_trim]
  generalize Text.trim text = u at h htrimmed
  cases u with
  | nil => cases h
  | cons c cs =>
      cases hsign : ofSign? tolerance c with
      | some make =>
          rw [read_signed hsign htrimmed] at h
          obtain ⟨x, hx, rfl⟩ := map_eq_ok_iff.1 h
          have hamount := amount_of_readNumber hx
          obtain hwords | ⟨w, ws, hcs, hwords⟩ := Text.words_cons (htrimmed.head c rfl) cs
          · rw [hwords]
            exact .apart hsign hamount
          · rw [hwords]
            rw [hcs] at hamount
            exact .attached hsign hamount
      | none =>
          rw [read_unsigned hsign htrimmed] at h
          split at h
          next from_ to_ hsplit =>
            obtain ⟨x, hx, h⟩ := bind_eq_ok_iff.1 h
            obtain ⟨y, hy, h⟩ := bind_eq_ok_iff.1 h
            split at h
            next => cases h
            next horder =>
              cases h
              have hwords : Text.words (c :: cs) =
                  Text.words from_ ++ ['t', 'o'] :: Text.words to_ := by
                rw [Text.eq_append_of_splitOnce_eq_some hsplit]
                show Text.words (from_ ++ ' ' :: (['t', 'o'] ++ ' ' :: to_)) = _
                rw [Text.words_append_blank rfl, Text.words_append word_to rfl]
              rw [hwords]
              exact .between (amount_of_readNumber hx) (amount_of_readNumber hy) horder
          next =>
            obtain ⟨x, hx, rfl⟩ := map_eq_ok_iff.1 h
            exact .exact (amount_of_readNumber hx)

namespace Spells

theorem ne_nil (h : Spells tolerance r ws) : ws ≠ [] := by
  cases h with
  | exact h => exact h.ne_nil
  | between h => exact List.append_ne_nil_of_left_ne_nil h.ne_nil _
  | apart | attached => exact List.cons_ne_nil _ _

/-- A sign that stands for ranges is one of three characters. -/
theorem sign_cases {make : Float → Range} (h : ofSign? tolerance c = some make) :
    c = '>' ∨ c = '<' ∨ c = '~' := by
  unfold ofSign? at h
  split at h
  next => exact .inl rfl
  next => exact .inr (.inl rfl)
  next => exact .inr (.inr rfl)
  next => cases h

theorem word (h : Spells tolerance r ws) : ∀ w ∈ ws, Text.Word w := by
  have hsign : ∀ {c : Char} {make : Float → Range}, ofSign? tolerance c = some make →
      Text.Word [c] := by
    intro c make hc
    obtain rfl | rfl | rfl := sign_cases hc <;> exact .of_all (List.cons_ne_nil _ _) rfl
  cases h with
  | exact h => exact h.word
  | between hx hy =>
      exact List.forall_mem_append.2 ⟨hx.word, List.forall_mem_cons.2 ⟨word_to, hy.word⟩⟩
  | apart hc h => exact List.forall_mem_cons.2 ⟨hsign hc, h.word⟩
  | attached hc h =>
      obtain ⟨hw, hws⟩ := List.forall_mem_cons.1 h.word
      exact List.forall_mem_cons.2 ⟨(hsign hc).append hw, hws⟩

/-- The words of a range look like parts of a range, unless a number has a plus sign. -/
theorem isRangeWord_or (h : Spells tolerance r ws) :
    ∀ w ∈ ws, Location.isRangeWord w = true ∨ w.head? = some '+' := by
  have hsign : ∀ {c : Char} {make : Float → Range} (w : List Char),
      ofSign? tolerance c = some make → Location.isRangeWord (c :: w) = true := by
    intro c make w hc
    obtain rfl | rfl | rfl := sign_cases hc <;> simp [Location.isRangeWord]
  cases h with
  | exact h => exact h.isRangeWord_or
  | between hx hy =>
      exact List.forall_mem_append.2
        ⟨hx.isRangeWord_or, List.forall_mem_cons.2 ⟨.inl rfl, hy.isRangeWord_or⟩⟩
  | apart hc h => exact List.forall_mem_cons.2 ⟨.inl (hsign _ hc), h.isRangeWord_or⟩
  | attached hc h =>
      exact List.forall_mem_cons.2
        ⟨.inl (hsign _ hc), (List.forall_mem_cons.1 h.isRangeWord_or).2⟩

theorem comma_notMem (h : Spells tolerance r ws) : ∀ w ∈ ws, ',' ∉ w := by
  have hamount : ∀ {x : Float} {ws : List (List Char)}, Amount x ws → ∀ w ∈ ws, ',' ∉ w :=
    fun h w hw hc => absurd (h.all (p := (· != ',')) (by decide) w hw ',' hc) (by decide)
  have hsign : ∀ {c : Char} {make : Float → Range}, ofSign? tolerance c = some make → ',' ≠ c := by
    intro c make hc
    obtain rfl | rfl | rfl := sign_cases hc <;> decide
  cases h with
  | exact h => exact hamount h
  | between hx hy =>
      exact List.forall_mem_append.2
        ⟨hamount hx, List.forall_mem_cons.2 ⟨by decide, hamount hy⟩⟩
  | apart hc h =>
      exact List.forall_mem_cons.2 ⟨fun hmem => hsign hc (List.mem_singleton.1 hmem), hamount h⟩
  | attached hc h =>
      obtain ⟨hw, hws⟩ := List.forall_mem_cons.1 (hamount h)
      exact List.forall_mem_cons.2 ⟨fun hmem => (List.mem_cons.1 hmem).elim (hsign hc) hw, hws⟩

/-- The words of a range with single spaces between them are read as the range. -/
theorem read (h : Spells tolerance r ws) : Range.read tolerance (Text.spaced ws) = .ok r := by
  have htrimmed := Text.trimmed_spaced h.word
  have hunsigned : ∀ {c : Char},
      Decimal.isDigit c = true ∨ c = '.' ∨ c = '-' ∨ c = '+' → ofSign? tolerance c = none := by
    rintro c (hc | rfl | rfl | rfl)
    · exact ofSign?_of_first (.inl hc)
    all_goals rfl
  cases h with
  | @exact x _ h =>
      obtain ⟨c, cs, hcs, hc⟩ : ∃ c cs, Text.spaced ws = c :: cs ∧ ofSign? tolerance c = none := by
        obtain ⟨c, w, vs, rfl, hc⟩ := h.first
        exact ⟨c, _, Text.spaced_cons_head c w vs, hunsigned hc⟩
      have hone : Text.splitOnce [' ', 't', 'o', ' '] (c :: cs) = none :=
        Text.splitOnce_eq_none_of_notMem 't' (by decide) (hcs ▸ h.notMem_spaced (by decide) (by decide))
      have hread := h.read (c :: cs)
      rw [hcs] at htrimmed hread ⊢
      rw [read_unsigned hc htrimmed, hone]
      dsimp only
      rw [hread]
      rfl
  | @between x y ws vs hx hy horder =>
      have htext : Text.spaced (ws ++ ['t', 'o'] :: vs) =
          Text.spaced ws ++ ([' ', 't', 'o', ' '] ++ Text.spaced vs) := by
        obtain ⟨v, vs, rfl⟩ := List.exists_cons_of_ne_nil hy.ne_nil
        rw [Text.spaced_append hx.ne_nil (List.cons_ne_nil _ _), Text.spaced_cons_cons]
        rfl
      obtain ⟨c, cs, hcs, hc⟩ : ∃ c cs, Text.spaced ws = c :: cs ∧ ofSign? tolerance c = none := by
        obtain ⟨c, w, vs, rfl, hc⟩ := hx.first
        exact ⟨c, _, Text.spaced_cons_head c w vs, hunsigned hc⟩
      have htwo : Text.splitOnce [' ', 't', 'o', ' ']
          (Text.spaced ws ++ ([' ', 't', 'o', ' '] ++ Text.spaced vs)) =
            some (Text.spaced ws, Text.spaced vs) :=
        Text.splitOnce_append_second (by decide) (hx.notMem_spaced (by decide) (by decide))
      rw [htext] at htrimmed ⊢
      rw [hcs, List.cons_append] at htwo htrimmed ⊢
      rw [read_unsigned hc htrimmed, htwo]
      dsimp only
      rw [← hcs, hx.read, hy.read]
      exact if_neg horder
  | @apart c make x ws hc h =>
      have htext : Text.spaced ([c] :: ws) = c :: ' ' :: Text.spaced ws := by
        obtain ⟨w, ws, rfl⟩ := List.exists_cons_of_ne_nil h.ne_nil
        exact Text.spaced_cons_cons _ _ _
      rw [htext] at htrimmed ⊢
      rw [read_signed hc htrimmed, readNumber_blank rfl, h.read]
      rfl
  | @attached c make x w ws hc h =>
      rw [Text.spaced_cons_head] at htrimmed ⊢
      rw [read_signed hc htrimmed, h.read]
      rfl

end Spells

end Range

/-! ## Locations -/

namespace Location

variable {tolerance : Float} {range : Range} {sides : List Side} {text : List Char}
  {w : List Char} {ws before after : List (List Char)}

/-- A word with a plus sign is no part of a range to the reader of locations. -/
theorem isRangeWord_eq_false (hw : w.head? = some '+') : isRangeWord w = false := by
  obtain ⟨cs, rfl⟩ := List.head?_eq_some_iff.1 hw
  simp [isRangeWord, Decimal.isDigit]

/-- A word with a plus sign is no side. -/
theorem readSide_eq_error (hw : w.head? = some '+') :
    readSide w = .error (.unknownSide (String.ofList w)) := by
  have hside : Side.ofWord? (String.ofList w) = none := by
    refine List.find?_eq_none.2 fun side _ hword => ?_
    rw [beq_iff_eq] at hword
    have hhead : side.word.toList.head? = some '+' := by rw [hword, String.toList_ofList, hw]
    revert hhead
    cases side <;> decide
  rw [readSide, hside]

/-- A range is read in front of its sides, if no word of it starts with a plus sign. -/
theorem read_located (hspells : Range.Spells tolerance range ws) (hsides : sides ≠ [])
    (hplus : ∀ w ∈ ws, w.head? ≠ some '+')
    (htext : Text.words text = ws ++ sides.map fun side => side.word.toList) :
    read tolerance text = .ok ⟨range, sides⟩ :=
  read_of_rangeWords hspells.ne_nil hsides
    (fun w hw => (hspells.isRangeWord_or w hw).resolve_right (hplus w hw)) hspells.read htext

/-- The fault of the first word that starts with a plus sign, where some words stand before it.
At the start of a location there is no range, and later there is no side. -/
def plusFault (text : List Char) (before : List (List Char)) (w : List Char) : Fault :=
  if before.isEmpty then .unreadableRange (String.ofList (Text.trim text))
  else .unknownSide (String.ofList w)

/-- A word that starts with a plus sign is where the words of a range end. -/
theorem read_plus (hbefore : ∀ v ∈ before, isRangeWord v = true) (hw : w.head? = some '+')
    (htext : Text.words text = before ++ w :: after) :
    read tolerance text = .error (plusFault text before w) := by
  have hhead : ∀ v ∈ (w :: after).head?, isRangeWord v = false := by
    rintro v ⟨⟩
    exact isRangeWord_eq_false hw
  have htake : (Text.words text).takeWhile isRangeWord = before := by
    rw [htext, Text.takeWhile_run hbefore hhead]
  have hdrop : (Text.words text).dropWhile isRangeWord = w :: after := by
    rw [htext, Text.dropWhile_run hbefore hhead]
  have hwords : (Text.words text).isEmpty = false := by
    rw [htext]
    exact List.isEmpty_eq_false_iff.2 (List.append_ne_nil_of_right_ne_nil _ (List.cons_ne_nil _ _))
  have hside : (w :: after).mapM readSide = .error (.unknownSide (String.ofList w)) := by
    rw [List.mapM_cons, readSide_eq_error hw]
    rfl
  rw [read, htake, hdrop, hwords, hside, plusFault]
  cases before <;> rfl

end Location

namespace Requirement

open Location (plusFault)

variable {tolerance : Float} {range : Range} {text object : String} {sides : List Side}

/-- A range and its sides, as they are written. -/
def locationText (text : String) (sides : List Side) : String :=
  " ".intercalate (text :: sides.map Side.word)

/-- The line that demands a range at some sides of an object, below a head. -/
def locatedLine (head object text : String) (sides : List Side) : String :=
  head ++ ": " ++ object ++ " " ++ locationText text sides

theorem word_of_mem_sides : ∀ w ∈ sides.map fun side => side.word.toList, Text.Word w := by
  intro w hw
  obtain ⟨side, -, rfl⟩ := List.mem_map.1 hw
  exact side.word_word

theorem toList_locationText (text : String) (hsides : sides ≠ []) :
    (locationText text sides).toList =
      text.toList ++ ' ' :: Text.spaced (sides.map fun side => side.word.toList) := by
  obtain ⟨side, sides, rfl⟩ := List.exists_cons_of_ne_nil hsides
  have hmap : ((side :: sides).map Side.word).map String.toList =
      (side :: sides).map fun side => side.word.toList := List.map_map ..
  rw [locationText, String.toList_intercalate, List.map_cons, hmap]
  exact Text.spaced_cons_cons _ _ _

/-- The words of the sides stand after those of the range. -/
theorem words_locationText (text : String) (hsides : sides ≠ []) :
    Text.words (locationText text sides).toList =
      Text.words text.toList ++ sides.map fun side => side.word.toList := by
  rw [toList_locationText text hsides, Text.words_append_blank rfl,
    Text.words_spaced word_of_mem_sides]

theorem comma_notMem_locationText (hsides : sides ≠ [])
    (htext : ∀ w ∈ Text.words text.toList, ',' ∉ w) : ',' ∉ (locationText text sides).toList := by
  intro hc
  obtain hblank | ⟨w, hw, hc⟩ := Text.isBlank_or_mem_words hc
  · exact absurd hblank (by decide)
  · rw [words_locationText text hsides] at hw
    obtain hw | hw := List.mem_append.1 hw
    · exact htext w hw hc
    · obtain ⟨side, -, rfl⟩ := List.mem_map.1 hw
      revert hc
      cases side <;> decide

/-- The line is cut into its head, and the object with the location after it. -/
theorem splitLine_locatedLine {head : String} (hcolon : ':' ∉ head.toList)
    (hhead : Text.Trimmed head.toList) (hobject : Text.Word object.toList) (text : String)
    (hsides : sides ≠ []) :
    splitLine (locatedLine head object text sides).toList =
      (head.toList, object.toList ++ ' ' :: (locationText text sides).toList) := by
  have hlast : Text.Trimmed (Text.spaced (sides.map fun side => side.word.toList)) :=
    Text.trimmed_spaced word_of_mem_sides
  have hne : Text.spaced (sides.map fun side => side.word.toList) ≠ [] :=
    Text.intercalate_ne_nil _ (fun w hw => (word_of_mem_sides w hw).ne_nil) (by simpa using hsides)
  have hvalue : object.toList ++ ' ' :: (locationText text sides).toList =
      object.toList ++ ((' ' :: (text.toList ++ [' '])) ++
        Text.spaced (sides.map fun side => side.word.toList)) := by
    rw [toList_locationText text hsides]
    simp
  have htrimmed : Text.Trimmed (object.toList ++ ' ' :: (locationText text sides).toList) := by
    rw [hvalue]
    exact hobject.trimmed.around hlast hobject.ne_nil hne _
  have hline : (locatedLine head object text sides).toList =
      head.toList ++ ([':'] ++ ' ' :: (object.toList ++ ' ' :: (locationText text sides).toList)) := by
    simp [locatedLine]
  rw [splitLine, hline, Text.splitOnce_append hcolon]
  dsimp only
  rw [hhead.trim, Text.trim_blank rfl, htrimmed.trim]

/-- What the line demands is decided by the one location that stands on it. -/
theorem ofText_locatedLine (tolerance : Float) (hobject : Text.Word object.toList)
    (hsides : sides ≠ []) (htext : ∀ w ∈ Text.words text.toList, ',' ∉ w) :
    ofText tolerance (locatedLine "near" object text sides) =
        (Location.read tolerance (Text.trim (locationText text sides).toList)).map
          (fun l => .near object [l]) ∧
      ofText tolerance (locatedLine "inside" object text sides) =
        (Location.read tolerance (Text.trim (locationText text sides).toList)).map
          (fun l => .inside object [l] false) := by
  have hne : (Text.trim (locationText text sides).toList).isEmpty = false := by
    refine List.isEmpty_eq_false_iff.2 fun hnil => ?_
    have hwords := words_locationText text hsides
    rw [← Text.words_trim, hnil] at hwords
    exact hsides (List.map_eq_nil_iff.1 (List.append_eq_nil_iff.1 hwords.symm).2)
  have hobjects : readObject (object.toList ++ ' ' :: (locationText text sides).toList) =
      .ok (object, Text.trim (locationText text sides).toList) := by
    rw [readObject_append hobject (by rintro c ⟨⟩; rfl), Text.trim_blank rfl]
  have hall : Location.readAll tolerance (Text.trim (locationText text sides).toList) =
      (Location.read tolerance (Text.trim (locationText text sides).toList)).map fun l => [l] := by
    have hcomma : ∀ c ∈ Text.trim (locationText text sides).toList, (c == ',') = false := by
      intro c hc
      refine beq_eq_false_iff_ne.2 ?_
      rintro rfl
      exact comma_notMem_locationText hsides htext (Text.mem_of_mem_trim hc)
    rw [Location.readAll, Text.splitAt_run hcomma, List.mapM_cons, List.mapM_nil]
    cases Location.read tolerance (Text.trim (locationText text sides).toList) <;> rfl
  constructor
  · rw [ofText, read, splitLine_locatedLine (by decide) (Text.trimmed_iff.2 (by decide)) hobject text
      hsides]
    dsimp only
    show readNear tolerance _ = _
    rw [readNear, hobjects, ok_bind]
    dsimp only
    rw [hne, hall]
    cases Location.read tolerance (Text.trim (locationText text sides).toList) <;> rfl
  · rw [ofText, read, splitLine_locatedLine (by decide) (Text.trimmed_iff.2 (by decide)) hobject text
      hsides]
    dsimp only
    show readInside tolerance false _ = _
    rw [readInside, hobjects, ok_bind]
    dsimp only
    rw [hne, hall]
    cases Location.read tolerance (Text.trim (locationText text sides).toList) <;> rfl

/-- A range that is read is read in front of sides too, if none of its words starts with a plus
sign.  If one does, the first of them is where the line is refused. -/
theorem ofText_located (hrange : Range.ofText tolerance text = .ok range)
    (hobject : Text.Word object.toList) (hsides : sides ≠ []) :
    ((∀ w ∈ Text.words text.toList, w.head? ≠ some '+') →
      ofText tolerance (locatedLine "near" object text sides) =
          .ok (.near object [⟨range, sides⟩]) ∧
        ofText tolerance (locatedLine "inside" object text sides) =
          .ok (.inside object [⟨range, sides⟩] false)) ∧
    ∀ before w after, Text.words text.toList = before ++ w :: after →
      (∀ v ∈ before, v.head? ≠ some '+') → w.head? = some '+' →
        ofText tolerance (locatedLine "near" object text sides) =
            .error (plusFault (locationText text sides).toList before w) ∧
          ofText tolerance (locatedLine "inside" object text sides) =
            .error (plusFault (locationText text sides).toList before w) := by
  have hspells := Range.spells_of_read hrange
  obtain ⟨hnear, hinside⟩ :=
    ofText_locatedLine tolerance hobject hsides hspells.comma_notMem
  have hwords := words_locationText text hsides
  rw [← Text.words_trim] at hwords
  rw [hnear, hinside]
  constructor
  · intro hplus
    rw [Location.read_located hspells hsides hplus hwords]
    exact ⟨rfl, rfl⟩
  · intro before w after htext hbefore hw
    have hrangeWords : ∀ v ∈ before, Location.isRangeWord v = true := fun v hv =>
      (hspells.isRangeWord_or v (htext ▸ List.mem_append_left _ hv)).resolve_right (hbefore v hv)
    rw [htext, List.append_assoc, List.cons_append] at hwords
    rw [Location.read_plus hrangeWords hw hwords, plusFault, plusFault,
      (Text.trimmed_trim _).trim]
    exact ⟨rfl, rfl⟩

/-- A range with more blanks than it needs, in front of two sides. -/
theorem ofText_located_spaced :
    Range.ofText 2 "-10  to .5e1 px" = .ok (.between (-10) 5) ∧
      ofText 2 "near: button -10  to .5e1 px left top" =
        .ok (.near "button" [⟨.between (-10) 5, [.left, .top]⟩]) := by
  have hrange : Range.ofText 2 "-10  to .5e1 px" = .ok (.between (-10) 5) := by decide +kernel
  have hobject : Text.Word "button".toList := .of_all (by decide) rfl
  have hplus : ∀ w ∈ Text.words "-10  to .5e1 px".toList, w.head? ≠ some '+' := by decide +kernel
  have hline : locatedLine "near" "button" "-10  to .5e1 px" [.left, .top] =
      "near: button -10  to .5e1 px left top" := by decide +kernel
  rw [← hline]
  exact ⟨hrange, ((ofText_located hrange hobject (List.cons_ne_nil _ _)).1 hplus).1⟩

/-- A width and a distance above may have a plus sign, and a distance at a side may not. -/
theorem ofText_not_located :
    Range.ofText 2 "+5px" = .ok (.exact 5) ∧ ofText 2 "width: +5px" = .ok (.width (.exact 5)) ∧
      ofText 2 "above: button +5px" = .ok (.above "button" (some (.exact 5))) ∧
      locatedLine "near" "button" "+5px" [.left] = "near: button +5px left" ∧
      ofText 2 "near: button +5px left" = .error (.unreadableRange "+5px left") ∧
      ofText 2 "inside: button 0 to +5px left" = .error (.unknownSide "+5px") := by
  decide +kernel

end Requirement

end PageLayout
