import PageLayout.Proofs.Text.Words
import PageLayout.Requirement.Reader

/-!
# Ranges and locations are read back

`Range.text` and `Location.text` are what ranges and locations look like in a page
description.  `Range.read_text` and `Location.readAll_texts` say that the readers turn
them into the same ranges and locations again.

The text of a range is a few words with single spaces between them, `Range.words`.  A
reader of locations has to tell these words from the sides after them.

It is assumed of a number that its text is a plain decimal that is read as the number
(`Number.Writable`).
-/

namespace PageLayout

/-! ## Numbers -/

namespace Range

variable {w blanks : List Char} {v : Float}

/-- A number is read where it stands without a unit. -/
theorem readNumber_word (hw : Text.Word w) (hx : 'x' ∉ w) (hread : Decimal.read? w = some v)
    (hfinite : Number.isFinite v = true) (range : List Char) : readNumber range w = .ok v := by
  have hsuffix : Text.dropSuffix? ['p', 'x'] w = none := Text.dropSuffix?_eq_none ['p'] hx
  have hunit : dropUnit w = w := by
    rw [dropUnit, hsuffix, Option.getD_none, Text.trimEnd,
      Text.dropEndWhile_of_getLast hw.trimmed.last]
  rw [readNumber, hw.trimmed.trim, hunit]
  simp only [hread, hfinite, if_true]

/-- A number is read where its unit stands after it, with or without blanks between them. -/
theorem readNumber_word_unit (hw : Text.Word w) (hblanks : ∀ b ∈ blanks, isBlank b = true)
    (hread : Decimal.read? w = some v) (hfinite : Number.isFinite v = true) (range : List Char) :
    readNumber range (w ++ (blanks ++ ['p', 'x'])) = .ok v := by
  have htrimmed : Text.Trimmed (w ++ (blanks ++ ['p', 'x'])) :=
    hw.trimmed.around (Text.Word.of_all (by decide) rfl).trimmed hw.ne_nil (List.cons_ne_nil _ _) _
  have hunit : dropUnit (w ++ (blanks ++ ['p', 'x'])) = w := by
    rw [dropUnit, ← List.append_assoc, Text.dropSuffix?_append, Option.getD_some, Text.trimEnd,
      Text.dropEndWhile_append_run hblanks, Text.dropEndWhile_of_getLast hw.trimmed.last]
  rw [readNumber, htrimmed.trim, hunit]
  simp only [hread, hfinite, if_true]

end Range

/-- The text of a number is a plain decimal, and it is read as the number. -/
structure Number.Writable (v : Float) : Prop where
  finite : Number.isFinite v = true
  plain : ∀ c ∈ (Number.pixels v).toList, Decimal.isDigit c = true ∨ c = '-' ∨ c = '.'
  first : ∃ c ∈ (Number.pixels v).toList.head?, Decimal.isDigit c = true ∨ c = '-'
  read : Decimal.read? (Number.pixels v).toList = some v

namespace Number.Writable

variable {v : Float}

/-- What holds of the digits, `-` and `.` holds of all characters of a number. -/
theorem all_mem {p : Char → Bool} (h : Number.Writable v) (hdigits : Decimal.digitChars.all p = true)
    (hminus : p '-' = true) (hpoint : p '.' = true) :
    ∀ c ∈ (Number.pixels v).toList, p c = true := by
  intro c hc
  obtain hd | rfl | rfl := h.plain c hc
  · exact Decimal.all_of_isDigit hdigits hd
  · exact hminus
  · exact hpoint

theorem word (h : Number.Writable v) : Text.Word (Number.pixels v).toList := by
  refine .of_all (fun hnil => ?_) (List.all_eq_true.mpr (h.all_mem (by decide) rfl rfl))
  obtain ⟨c, hc, _⟩ := h.first
  rw [hnil] at hc
  cases hc

/-- The text of a number with its unit. -/
theorem word_unit (h : Number.Writable v) : Text.Word ((Number.pixels v).toList ++ ['p', 'x']) :=
  h.word.append (.of_all (by decide) rfl)

theorem x_not_mem (h : Number.Writable v) : 'x' ∉ (Number.pixels v).toList :=
  fun hx => absurd (h.all_mem (p := fun c => c != 'x') (by decide) rfl rfl 'x' hx) (by decide)

/-- A number is read from its text. -/
theorem readNumber (h : Number.Writable v) (range : List Char) :
    Range.readNumber range (Number.pixels v).toList = .ok v :=
  Range.readNumber_word h.word h.x_not_mem h.read h.finite range

/-- A number is read from its text with the unit. -/
theorem readNumber_unit (h : Number.Writable v) (range : List Char) :
    Range.readNumber range ((Number.pixels v).toList ++ ['p', 'x']) = .ok v :=
  Range.readNumber_word_unit h.word (List.forall_mem_nil _) h.read h.finite range

end Number.Writable

theorem Range.readNumber_blank {b : Char} (hb : isBlank b = true) (range text : List Char) :
    Range.readNumber range (b :: text) = Range.readNumber range text := by
  rw [readNumber, readNumber, Text.trim_blank hb]

/-! ## Ranges -/

namespace Range

/-- A range can be written down: its numbers can, its bounds stand in order, and a tolerance
is the one that the reader adds. -/
def Writable (tolerance : Float) : Range → Prop
  | .exact v | .greaterThan v | .lessThan v => Number.Writable v
  | .between min max => Number.Writable min ∧ Number.Writable max ∧ ¬max < min ∧
      spanning min max = .between min max
  | .approximate v t => Number.Writable v ∧ t = tolerance

/-- The words of the text of a range. -/
def words : Range → List (List Char)
  | .exact v => [(Number.pixels v).toList ++ ['p', 'x']]
  | .between min max =>
      [(Number.pixels min).toList, ['t', 'o'], (Number.pixels max).toList ++ ['p', 'x']]
  | .greaterThan v => [['>'], (Number.pixels v).toList ++ ['p', 'x']]
  | .lessThan v => [['<'], (Number.pixels v).toList ++ ['p', 'x']]
  | .approximate v _ => [['~'], (Number.pixels v).toList ++ ['p', 'x']]

variable {tolerance : Float} {r : Range}

theorem toList_text (r : Range) : r.text.toList = Text.spaced r.words := by
  cases r <;> simp [text, words, Text.spaced_cons_cons]

theorem words_ne_nil (r : Range) : r.words ≠ [] := by
  cases r <;> exact List.cons_ne_nil _ _

theorem word_of_mem_words (h : r.Writable tolerance) : ∀ w ∈ r.words, Text.Word w := by
  have hgreater : Text.Word ['>'] := .of_all (by decide) rfl
  have hless : Text.Word ['<'] := .of_all (by decide) rfl
  have habout : Text.Word ['~'] := .of_all (by decide) rfl
  have hto : Text.Word ['t', 'o'] := .of_all (by decide) rfl
  cases r with
  | exact v => simpa [words] using h.word_unit
  | between min max => simpa [words] using ⟨h.1.word, hto, h.2.1.word_unit⟩
  | greaterThan v => simpa [words] using ⟨hgreater, h.word_unit⟩
  | lessThan v => simpa [words] using ⟨hless, h.word_unit⟩
  | approximate v t => simpa [words] using ⟨habout, h.1.word_unit⟩

/-- The ranges that a sign stands for. -/
def ofSign? (tolerance : Float) : Char → Option (Float → Range)
  | '>' => some .greaterThan
  | '<' => some .lessThan
  | '~' => some (.approximate · tolerance)
  | _ => none

/-- A range that starts with a sign has one number. -/
theorem read_signed {c : Char} {cs : List Char} {make : Float → Range}
    (hc : ofSign? tolerance c = some make) (hcs : Text.Trimmed (c :: cs)) :
    read tolerance (c :: cs) = (readNumber (c :: cs) cs).map make := by
  rw [read, hcs.trim]
  unfold ofSign? at hc
  split at hc <;> cases hc <;> rfl

/-- A range that starts with no sign has one number or two. -/
theorem read_unsigned {c : Char} {cs : List Char} (hc : ofSign? tolerance c = none)
    (hcs : Text.Trimmed (c :: cs)) :
    read tolerance (c :: cs) =
      match Text.splitOnce [' ', 't', 'o', ' '] (c :: cs) with
      | some (from_, to_) => do
          let min ← readNumber (c :: cs) from_
          let max ← readNumber (c :: cs) to_
          if max < min then .error (.reversedRange min max) else .ok (spanning min max)
      | none => (readNumber (c :: cs) (c :: cs)).map .exact := by
  rw [read, hcs.trim]
  split
  next heq => cases heq
  next heq => cases heq; cases hc
  next heq => cases heq; cases hc
  next heq => cases heq; cases hc
  next => rfl

/-- A number starts with no sign of a range. -/
theorem ofSign?_of_first {c : Char} (hc : Decimal.isDigit c = true ∨ c = '-') :
    ofSign? tolerance c = none := by
  have hne : c ∉ ['>', '<', '~'] := by
    obtain h | rfl := hc
    · have hall := Decimal.all_of_isDigit (p := fun c => !(['>', '<', '~'].contains c)) (by decide) h
      simpa using hall
    · decide
  unfold ofSign?
  split
  case h_4 => rfl
  all_goals exact absurd (by decide) hne

/-- A range after a sign has one number. -/
theorem readNumber_sign {v : Float} (h : Number.Writable v) (range : List Char) :
    readNumber range (' ' :: ((Number.pixels v).toList ++ ['p', 'x'])) = .ok v :=
  (readNumber_blank rfl range _).trans (h.readNumber_unit range)

theorem spaced_sign (sign : Char) (word : List Char) :
    Text.spaced [[sign], word] = sign :: ' ' :: word := by
  rw [Text.spaced_cons_cons, Text.spaced_singleton, List.singleton_append]

/-- The text of a range has no blanks at its ends. -/
theorem trimmed_text (h : r.Writable tolerance) : r.text.toList ≠ [] ∧ Text.Trimmed r.text.toList := by
  have hwords := word_of_mem_words h
  rw [toList_text]
  exact ⟨Text.intercalate_ne_nil [' '] (fun w hw => (hwords w hw).ne_nil) r.words_ne_nil,
    Text.trimmed_spaced hwords⟩

/-- A range is read from its text. -/
theorem read_text (h : r.Writable tolerance) : read tolerance r.text.toList = .ok r := by
  have htrimmed := (trimmed_text h).2
  rw [toList_text] at htrimmed ⊢
  cases r with
  | exact v =>
      have h : Number.Writable v := h
      have hspace : ' ' ∉ (Number.pixels v).toList ++ ['p', 'x'] := fun hs =>
        absurd (h.word_unit.ink ' ' hs) (by decide)
      obtain ⟨c, hc, hfirst⟩ := h.first
      obtain ⟨cs, hcs⟩ := List.head?_eq_some_iff.mp hc
      have hread := @read_unsigned tolerance c (cs ++ ['p', 'x']) (ofSign?_of_first hfirst)
      rw [← List.cons_append, ← hcs, Text.splitOnce_eq_none hspace] at hread
      rw [words, Text.spaced_singleton] at htrimmed ⊢
      rw [hread htrimmed]
      simp only [h.readNumber_unit]
      rfl
  | between min max =>
      obtain ⟨hmin, hmax, horder, hspanning⟩ := h
      have hspace : ' ' ∉ (Number.pixels min).toList := fun hs =>
        absurd (hmin.word.ink ' ' hs) (by decide)
      have hsplit := @Text.splitOnce_append ' ' ['t', 'o', ' '] _
        ((Number.pixels max).toList ++ ['p', 'x']) hspace
      obtain ⟨c, hc, hfirst⟩ := hmin.first
      obtain ⟨cs, hcs⟩ := List.head?_eq_some_iff.mp hc
      have htext : Text.spaced (words (.between min max)) = c :: (cs ++ ([' ', 't', 'o', ' '] ++
          ((Number.pixels max).toList ++ ['p', 'x']))) := by
        simp [words, Text.spaced_cons_cons, hcs]
      rw [htext] at htrimmed ⊢
      rw [hcs, List.cons_append] at hsplit
      rw [read_unsigned (ofSign?_of_first hfirst) htrimmed, hsplit]
      dsimp only
      rw [← hcs, hmin.readNumber, hmax.readNumber_unit]
      show (if max < min then _ else _) = _
      rw [if_neg horder, hspanning]
  | greaterThan v =>
      rw [words, spaced_sign] at htrimmed ⊢
      rw [read_signed rfl htrimmed, readNumber_sign h]
      rfl
  | lessThan v =>
      rw [words, spaced_sign] at htrimmed ⊢
      rw [read_signed rfl htrimmed, readNumber_sign h]
      rfl
  | approximate v t =>
      obtain ⟨h, rfl⟩ := h
      rw [words, spaced_sign] at htrimmed ⊢
      rw [read_signed rfl htrimmed, readNumber_sign h]
      rfl

end Range

/-- Every part of a list is read back, so the list is. -/
theorem mapM_map_ok {α β ε : Type} {f : α → Except ε β} {g : β → α} {bs : List β}
    (h : ∀ b ∈ bs, f (g b) = .ok b) : (bs.map g).mapM f = .ok bs := by
  induction bs with
  | nil => rfl
  | cons b bs ih =>
      rw [List.map_cons, List.mapM_cons, h b List.mem_cons_self,
        ih fun c hc => h c (List.mem_cons_of_mem b hc)]
      rfl

/-! ## Sides -/

namespace Side

theorem ofWord?_word (side : Side) : ofWord? side.word = some side := by
  cases side <;> decide

theorem word_word (side : Side) : Text.Word side.word.toList := by
  cases side <;> exact .of_all (by decide) rfl

theorem not_isRangeWord (side : Side) : Location.isRangeWord side.word.toList = false := by
  cases side <;> decide

end Side

/-! ## Locations -/

/-- The words of the text of a range look like parts of a range. -/
theorem Range.isRangeWord_of_mem_words {tolerance : Float} {r : Range} (h : r.Writable tolerance) :
    ∀ w ∈ r.words, Location.isRangeWord w = true := by
  have hnumber : ∀ {v : Float} (_ : Number.Writable v) (rest : List Char),
      Location.isRangeWord ((Number.pixels v).toList ++ rest) = true := by
    intro v hv rest
    obtain ⟨c, hc, hfirst⟩ := hv.first
    obtain ⟨cs, hcs⟩ := List.head?_eq_some_iff.mp hc
    rw [hcs]
    obtain hd | rfl := hfirst
    · simp [Location.isRangeWord, hd]
    · simp [Location.isRangeWord]
  have hbare : ∀ {v : Float} (_ : Number.Writable v),
      Location.isRangeWord (Number.pixels v).toList = true := by
    intro v hv
    simpa using hnumber hv []
  cases r with
  | exact v => simpa [words] using hnumber h _
  | between min max => simpa [words] using ⟨hbare h.1, by decide, hnumber h.2.1 _⟩
  | greaterThan v => simpa [words] using ⟨by decide, hnumber h _⟩
  | lessThan v => simpa [words] using ⟨by decide, hnumber h _⟩
  | approximate v t => simpa [words] using ⟨by decide, hnumber h.1 _⟩

/-- There is no comma in a range. -/
theorem Range.comma_not_mem_words {tolerance : Float} {r : Range} (h : r.Writable tolerance) :
    ∀ w ∈ r.words, ',' ∉ w := by
  have hnumber : ∀ {v : Float} (_ : Number.Writable v), ',' ∉ (Number.pixels v).toList :=
    fun hv hc => absurd (hv.all_mem (p := fun c => c != ',') (by decide) rfl rfl ',' hc) (by decide)
  cases r with
  | exact v => simpa [words] using hnumber h
  | between min max => simpa [words] using ⟨hnumber h.1, hnumber h.2.1⟩
  | greaterThan v => simpa [words] using hnumber h
  | lessThan v => simpa [words] using hnumber h
  | approximate v t => simpa [words] using hnumber h.1

namespace Location

/-- A location can be written down: its range can, and it has a side. -/
structure Writable (tolerance : Float) (l : Location) : Prop where
  range : l.range.Writable tolerance
  sides : l.sides ≠ []

/-- The words of the text of a location. -/
def words (l : Location) : List (List Char) :=
  l.range.words ++ l.sides.map fun side => side.word.toList

variable {tolerance : Float} {l : Location}

theorem toList_text (l : Location) : l.text.toList = Text.spaced l.words := by
  have hsides : ∀ (sides : List Side) (s : String) (ws : List (List Char)), ws ≠ [] →
      s.toList = Text.spaced ws →
        (sides.foldl (fun s side => s ++ " " ++ side.word) s).toList =
          Text.spaced (ws ++ sides.map fun side => side.word.toList) := by
    intro sides
    induction sides with
    | nil =>
        intro s ws _ hs
        rw [List.map_nil, List.append_nil]
        exact hs
    | cons side sides ih =>
        intro s ws hws hs
        rw [List.foldl_cons, List.map_cons, List.append_cons]
        refine ih _ _ (List.append_ne_nil_of_left_ne_nil hws _) ?_
        rw [Text.spaced_concat hws, String.toList_append, String.toList_append, hs,
          List.append_assoc]
        rfl
  exact hsides l.sides l.range.text l.range.words l.range.words_ne_nil l.range.toList_text

theorem word_of_mem_words (h : l.Writable tolerance) : ∀ w ∈ l.words, Text.Word w := by
  intro w hw
  obtain hw | hw := List.mem_append.mp hw
  · exact Range.word_of_mem_words h.range w hw
  · obtain ⟨side, _, rfl⟩ := List.mem_map.mp hw
    exact side.word_word

/-- The range of a location is what stands in front of the sides. -/
theorem read_of_rangeWords {text : List Char} {ws : List (List Char)} {range : Range}
    {sides : List Side} (hws : ws ≠ []) (hsides : sides ≠ [])
    (hwords : ∀ w ∈ ws, isRangeWord w = true)
    (hrange : Range.read tolerance (Text.spaced ws) = .ok range)
    (htext : Text.words text = ws ++ sides.map fun side => side.word.toList) :
    read tolerance text = .ok ⟨range, sides⟩ := by
  have hside : ∀ w ∈ (sides.map fun side => side.word.toList).head?, isRangeWord w = false := by
    intro w hw
    obtain ⟨side, _, rfl⟩ := List.mem_map.mp (List.mem_of_mem_head? hw)
    exact side.not_isRangeWord
  have htake : (Text.words text).takeWhile isRangeWord = ws := by
    rw [htext, Text.takeWhile_run hwords hside]
  have hdrop : (Text.words text).dropWhile isRangeWord = sides.map fun side => side.word.toList := by
    rw [htext, Text.dropWhile_run hwords hside]
  have hread : (sides.map fun side => side.word.toList).mapM readSide = .ok sides := by
    refine mapM_map_ok fun side _ => ?_
    rw [readSide, String.ofList_toList, side.ofWord?_word]
  have hne : ws ++ sides.map (fun side => side.word.toList) ≠ [] :=
    List.append_ne_nil_of_left_ne_nil hws _
  have hmap : (sides.map fun side => side.word.toList) ≠ [] := by simpa using hsides
  simp only [read, htake, hdrop, hread]
  rw [htext, if_neg (by simpa using hne), if_neg (by simpa using hws), if_neg (by simpa using hmap)]
  show (Range.read tolerance (Text.spaced ws) >>= _) = _
  rw [hrange]
  rfl

/-- A location is read from its words. -/
theorem read_of_words {text : List Char} (h : l.Writable tolerance)
    (htext : Text.words text = l.words) : read tolerance text = .ok l := by
  have hrange : Range.read tolerance (Text.spaced l.range.words) = .ok l.range := by
    rw [← Range.toList_text, Range.read_text h.range]
  exact read_of_rangeWords l.range.words_ne_nil h.sides (Range.isRangeWord_of_mem_words h.range)
    hrange htext

/-- Locations with commas between them. -/
def texts (ls : List Location) : String := ", ".intercalate (ls.map text)

theorem toList_texts (ls : List Location) :
    (texts ls).toList = [',', ' '].intercalate (ls.map fun l => l.text.toList) := by
  rw [texts, String.toList_intercalate, List.map_map]
  rfl

theorem comma_not_mem_text (h : l.Writable tolerance) : ',' ∉ l.text.toList := by
  intro hc
  rw [toList_text] at hc
  obtain hc | ⟨w, hw, hc⟩ := Text.mem_spaced hc
  · cases hc
  · obtain hw | hw := List.mem_append.mp hw
    · exact Range.comma_not_mem_words h.range w hw hc
    · obtain ⟨side, _, rfl⟩ := List.mem_map.mp hw
      revert hc
      cases side <;> decide

/-- Locations are read from their texts. -/
theorem readAll_texts {ls : List Location} (h : ∀ l ∈ ls, l.Writable tolerance) (hls : ls ≠ []) :
    readAll tolerance (texts ls).toList = .ok ls := by
  have hwords : ∀ l ∈ ls, Text.words l.text.toList = l.words := fun l hl => by
    rw [toList_text, Text.words_spaced (word_of_mem_words (h l hl))]
  cases ls with
  | nil => exact absurd rfl hls
  | cons l ls =>
      have hcomma : ∀ u ∈ (l :: ls).map fun l => l.text.toList, ',' ∉ u := by
        intro u hu
        obtain ⟨m, hm, rfl⟩ := List.mem_map.mp hu
        exact comma_not_mem_text (h m hm)
      have hl : read tolerance l.text.toList = .ok l :=
        read_of_words (h l List.mem_cons_self) (hwords l List.mem_cons_self)
      have hrest : (ls.map fun l => ' ' :: l.text.toList).mapM (read tolerance) = .ok ls := by
        refine mapM_map_ok fun m hm => ?_
        have hm : m ∈ l :: ls := List.mem_cons_of_mem l hm
        exact read_of_words (h m hm) ((Text.words_blank rfl _).trans (hwords m hm))
      rw [readAll, toList_texts, List.map_cons, Text.splitAt_intercalate hcomma (by decide),
        List.map_map, List.mapM_cons, hl]
      show ((ls.map fun l => ' ' :: l.text.toList).mapM (read tolerance) >>= _) = _
      rw [hrest]
      rfl

/-- The text of a location has no blanks at its ends. -/
theorem trimmed_text (h : l.Writable tolerance) : l.text.toList ≠ [] ∧ Text.Trimmed l.text.toList := by
  have hwords := word_of_mem_words h
  rw [toList_text]
  exact ⟨Text.intercalate_ne_nil [' '] (fun w hw => (hwords w hw).ne_nil)
    (List.append_ne_nil_of_left_ne_nil l.range.words_ne_nil _), Text.trimmed_spaced hwords⟩

/-- The texts of some locations have no blanks at their ends. -/
theorem trimmed_texts {ls : List Location} (h : ∀ l ∈ ls, l.Writable tolerance) (hls : ls ≠ []) :
    (texts ls).toList ≠ [] ∧ Text.Trimmed (texts ls).toList := by
  have hts : ∀ t ∈ ls.map fun l => l.text.toList, t ≠ [] ∧ Text.Trimmed t := by
    intro t ht
    obtain ⟨l, hl, rfl⟩ := List.mem_map.mp ht
    exact trimmed_text (h l hl)
  rw [toList_texts]
  exact ⟨Text.intercalate_ne_nil [',', ' '] (fun t ht => (hts t ht).1) (by simpa using hls),
    Text.trimmed_intercalate [',', ' '] hts⟩

end Location

end PageLayout
