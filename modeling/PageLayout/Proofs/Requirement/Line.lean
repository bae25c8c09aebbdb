import PageLayout.Proofs.Requirement.Range

/-!
# Requirements are read back

`Requirement.line` is the line that a requirement is written on: its head, a colon, and
the pieces of its value with a space before each.  `Requirement.ofText_line` says that the
reader turns the line into the same requirement again.

Not every requirement has a line.  The name of an object has to be a word, a neighbour
needs a location, and texts must not have blanks at their ends, which the reader would
cut off.  `Requirement.Writable` collects these conditions.
-/

namespace PageLayout.Requirement

/-! ## Lines -/

/-- What stands before the colon. -/
def head : Requirement → String
  | .inside _ _ true => "inside partly"
  | .text check _ operations =>
      " ".intercalate ("text" :: (operations.map TextOperation.word ++ [check.word]))
  | r => r.name

/-- The pieces of what stands after the colon. -/
def pieces : Requirement → List String
  | .width range | .height range => [range.text]
  | .near object locations => [object, Location.texts locations]
  | .inside object [] _ => [object]
  | .inside object locations _ => [object, Location.texts locations]
  | .above object range | .below object range | .leftOf object range | .rightOf object range =>
      object :: range.toList.map Range.text
  | .absent | .visible => []
  | .text _ expected _ => [expected]
  | .component path => [path]

/-- The line that a requirement is written on. -/
def line (r : Requirement) : String :=
  r.head ++ ":" ++ String.join (r.pieces.map fun piece => " " ++ piece)

/-- A requirement can be written on a line. -/
def Writable (tolerance : Float) : Requirement → Prop
  | .width range | .height range => range.Writable tolerance
  | .near object locations =>
      Text.Word object.toList ∧ locations ≠ [] ∧ ∀ l ∈ locations, l.Writable tolerance
  | .inside object locations _ =>
      Text.Word object.toList ∧ ∀ l ∈ locations, l.Writable tolerance
  | .above object range | .below object range | .leftOf object range | .rightOf object range =>
      Text.Word object.toList ∧ ∀ r ∈ range, r.Writable tolerance
  | .absent | .visible => True
  | .text check expected _ =>
      Text.trim expected.toList = expected.toList ∧
        (check = .matches → (Pattern.Regex.whole? expected).isSome = true)
  | .component path => path ≠ "" ∧ Text.trim path.toList = path.toList

/-- What the reader finds after the colon. -/
def value (r : Requirement) : List Char := Text.spaced (r.pieces.map String.toList)

variable {tolerance : Float} {r : Requirement}

theorem trimmed_value (h : r.Writable tolerance) : Text.Trimmed r.value := by
  have hobject : ∀ {object : String} {ts : List (List Char)}, Text.Word object.toList →
      (∀ t ∈ ts, t ≠ [] ∧ Text.Trimmed t) → Text.Trimmed (Text.spaced (object.toList :: ts)) :=
    fun ho hts => Text.trimmed_intercalate [' ']
      (List.forall_mem_cons.mpr ⟨⟨ho.ne_nil, ho.trimmed⟩, hts⟩)
  have hsingle : ∀ {t : List Char}, Text.Trimmed t → Text.Trimmed (Text.spaced [t]) := by
    intro t ht
    rwa [Text.spaced_singleton]
  cases r with
  | width range | height range =>
      have h : range.Writable tolerance := h
      exact hsingle (Range.trimmed_text h).2
  | near object locations =>
      refine hobject h.1 fun t ht => ?_
      rw [List.mem_singleton.mp ht]
      exact Location.trimmed_texts h.2.2 h.2.1
  | inside object locations partly =>
      cases locations with
      | nil => exact hobject h.1 nofun
      | cons l ls =>
          refine hobject h.1 fun t ht => ?_
          rw [List.mem_singleton.mp ht]
          exact Location.trimmed_texts h.2 (List.cons_ne_nil l ls)
  | above object range | below object range | leftOf object range | rightOf object range =>
      refine hobject h.1 fun t ht => ?_
      obtain ⟨_, htext, rfl⟩ := List.mem_map.mp ht
      obtain ⟨r, hr, rfl⟩ := List.mem_map.mp htext
      exact Range.trimmed_text (h.2 r (Option.mem_toList.mp hr))
  | absent | visible => exact .nil
  | text check expected operations => exact hsingle (Text.trimmed_iff.mpr h.1)
  | component path => exact hsingle (Text.trimmed_iff.mpr h.2)

/-! ## The head -/

/-- The words before the colon of a demand on a text. -/
def textWords (check : TextCheck) (operations : List TextOperation) : List (List Char) :=
  ['t', 'e', 'x', 't'] ::
    (operations.map (fun op => op.word.toList) ++ [check.word.toList])

theorem toList_head_text (check : TextCheck) (expected : String)
    (operations : List TextOperation) :
    (head (.text check expected operations)).toList = Text.spaced (textWords check operations) := by
  simp [head, textWords, Text.spaced, Function.comp_def]

theorem textWords_word {check : TextCheck} {operations : List TextOperation} :
    ∀ w ∈ textWords check operations, Text.Word w ∧ ':' ∉ w := by
  refine List.forall_mem_cons.mpr ⟨⟨.of_all (by decide) rfl, by decide⟩, fun w hw => ?_⟩
  obtain hw | hw := List.mem_append.mp hw
  · obtain ⟨op, _, rfl⟩ := List.mem_map.mp hw
    cases op <;> exact ⟨.of_all (by decide) rfl, by decide⟩
  · rw [List.mem_singleton.mp hw]
    cases check <;> exact ⟨.of_all (by decide) rfl, by decide⟩

/-- There is no colon in the head, and no blank at its ends. -/
theorem trimmed_head (r : Requirement) : ':' ∉ r.head.toList ∧ Text.Trimmed r.head.toList := by
  have htext : ∀ check expected operations,
      ':' ∉ (head (.text check expected operations)).toList ∧
        Text.Trimmed (head (.text check expected operations)).toList := by
    intro check expected operations
    rw [toList_head_text]
    refine ⟨fun hc => ?_, Text.trimmed_spaced fun w hw => (textWords_word w hw).1⟩
    obtain hc | ⟨w, hw, hc⟩ := Text.mem_spaced hc
    · cases hc
    · exact (textWords_word w hw).2 hc
  have hplain : ∀ head ∈ ["width", "height", "near", "inside", "inside partly", "above", "below",
      "left of", "right of", "absent", "visible", "component"], ':' ∉ head.toList ∧
        Text.trim head.toList = head.toList := by decide
  have hkeyword := fun head hmem => (hplain head hmem).imp_right Text.trimmed_iff.mpr
  cases r with
  | text check expected operations => exact htext check expected operations
  | inside object locations partly => cases partly <;> exact hkeyword _ (by simp [head, name])
  | width | height | near | above | below | leftOf | rightOf | absent | visible | component =>
      exact hkeyword _ (by simp [head, name])

/-! ## The parts of a line -/

/-- The line is cut into the head and the value. -/
theorem splitLine_line (h : r.Writable tolerance) :
    splitLine r.line.toList = (r.head.toList, r.value) := by
  have hrest : Text.trim (r.pieces.flatMap fun piece => ' ' :: piece.toList) = r.value := by
    have hvalue := trimmed_value h
    rw [value] at hvalue ⊢
    cases hp : r.pieces with
    | nil => rfl
    | cons piece pieces =>
        rw [hp] at hvalue
        have hflat : ((piece :: pieces).flatMap fun piece => ' ' :: piece.toList) =
            ' ' :: Text.spaced ((piece :: pieces).map String.toList) := by
          rw [List.map_cons, Text.cons_spaced, ← List.map_cons, List.flatMap_map]
        rw [hflat, Text.trim_blank rfl, hvalue.trim]
  have hline : r.line.toList =
      r.head.toList ++ ([':'] ++ r.pieces.flatMap fun piece => ' ' :: piece.toList) := by
    simp [line, List.flatMap_map]
  rw [splitLine, hline, Text.splitOnce_append (trimmed_head r).1]
  dsimp only
  rw [(trimmed_head r).2.trim, hrest]

/-! ## The values of the heads -/

section Values

variable {object : String}

/-- The related object is the first word. -/
theorem readObject_append {rest : List Char} (ho : Text.Word object.toList)
    (hrest : ∀ c ∈ rest.head?, isBlank c = true) :
    readObject (object.toList ++ rest) = .ok (object, Text.trim rest) := by
  rw [readObject, Text.firstWord_append ho hrest]
  dsimp only
  rw [if_neg (by simpa using ho.ne_nil), String.ofList_toList]

/-- A related object alone. -/
theorem readObject_single (ho : Text.Word object.toList) :
    readObject (Text.spaced [object.toList]) = .ok (object, []) := by
  have h := @readObject_append object [] ho nofun
  rwa [List.append_nil, ← Text.spaced_singleton object.toList] at h

/-- A related object and what stands after it. -/
theorem readObject_spaced {rest : List Char} (ho : Text.Word object.toList)
    (hrest : Text.Trimmed rest) :
    readObject (Text.spaced [object.toList, rest]) = .ok (object, rest) := by
  have hhead : ∀ c ∈ (' ' :: rest).head?, isBlank c = true := by
    intro c hc
    cases hc
    rfl
  rw [Text.spaced_cons_cons, Text.spaced_singleton, readObject_append ho hhead, Text.trim_blank rfl,
    hrest.trim]

theorem readNear_value {ls : List Location} (ho : Text.Word object.toList)
    (hls : ∀ l ∈ ls, l.Writable tolerance) (hne : ls ≠ []) :
    readNear tolerance (Text.spaced [object.toList, (Location.texts ls).toList]) =
      .ok (.near object ls) := by
  obtain ⟨hrest, htrimmed⟩ := Location.trimmed_texts hls hne
  rw [readNear, readObject_spaced ho htrimmed]
  show (if (Location.texts ls).toList.isEmpty then _ else _) = _
  rw [if_neg (by simpa using hrest), Location.readAll_texts hls hne]
  rfl

theorem readInside_value {ls : List Location} (partly : Bool) (ho : Text.Word object.toList)
    (hls : ∀ l ∈ ls, l.Writable tolerance) :
    readInside tolerance partly (value (.inside object ls partly)) =
      .ok (.inside object ls partly) := by
  cases ls with
  | nil =>
      rw [readInside, show value (.inside object [] partly) = Text.spaced [object.toList] from rfl,
        readObject_single ho]
      rfl
  | cons l ls =>
      obtain ⟨hrest, htrimmed⟩ := Location.trimmed_texts hls (List.cons_ne_nil l ls)
      rw [readInside, show value (.inside object (l :: ls) partly) =
        Text.spaced [object.toList, (Location.texts (l :: ls)).toList] from rfl,
        readObject_spaced ho htrimmed]
      show (if (Location.texts (l :: ls)).toList.isEmpty then _ else _) = _
      rw [if_neg (by simpa using hrest), Location.readAll_texts hls (List.cons_ne_nil l ls)]
      rfl

theorem readDirection_value (make : String → Option Range → Requirement) {range : Option Range}
    (ho : Text.Word object.toList) (hr : ∀ r ∈ range, r.Writable tolerance) :
    readDirection tolerance make
      (Text.spaced ((object :: range.toList.map Range.text).map String.toList)) =
        .ok (make object range) := by
  cases range with
  | none =>
      rw [readDirection, show (object :: (none : Option Range).toList.map Range.text).map
        String.toList = [object.toList] from rfl, readObject_single ho]
      rfl
  | some r =>
      obtain ⟨hrest, htrimmed⟩ := Range.trimmed_text (hr r rfl)
      rw [readDirection, show (object :: (some r).toList.map Range.text).map String.toList =
        [object.toList, r.text.toList] from rfl, readObject_spaced ho htrimmed]
      show (if r.text.toList.isEmpty then _ else _) = _
      rw [if_neg (by simpa using hrest), Range.read_text (hr r rfl)]
      rfl

theorem readText_value {check : TextCheck} {expected : String} {operations : List TextOperation}
    (hpattern : check = .matches → (Pattern.Regex.whole? expected).isSome = true)
    (whole : List Char) :
    readText (Text.spaced (textWords check operations)) expected.toList whole =
      .ok (.text check expected operations) := by
  have hcheck : TextCheck.ofWord? check.word = some check := by cases check <;> decide
  have hoperations : (operations.map fun op => op.word.toList).mapM readOperation =
      .ok operations := by
    refine mapM_map_ok fun op _ => ?_
    rw [readOperation, String.ofList_toList]
    cases op <;> rfl
  have hwords : (Text.words (Text.spaced (textWords check operations))).drop 1 =
      (operations.map fun op => op.word.toList) ++ [check.word.toList] := by
    rw [Text.words_spaced fun w hw => (textWords_word w hw).1]
    rfl
  have hbad : ¬(check == .matches && (Pattern.Regex.whole? expected).isNone) = true := by
    rw [Bool.and_eq_true, beq_iff_eq]
    rintro ⟨hmatches, hnone⟩
    rw [Option.isNone_iff_eq_none.mp hnone] at hpattern
    cases hpattern hmatches
  obtain ⟨w, ws, hcons⟩ : ∃ w ws,
      (operations.map fun op => op.word.toList) ++ [check.word.toList] = w :: ws :=
    List.exists_cons_of_ne_nil (by simp)
  have hlast : (w :: ws).getLastD w = check.word.toList := by
    rw [← hcons]
    simp
  have hinit : (w :: ws).dropLast = operations.map fun op => op.word.toList := by
    rw [← hcons, List.dropLast_concat]
  rw [readText, hwords, hcons]
  dsimp only
  rw [hlast, hinit, hoperations, String.ofList_toList, hcheck, String.ofList_toList]
  show (if _ then _ else _) = _
  rw [if_neg hbad]
  rfl

end Values

/-! ## Lines are read back -/

/-- A head of several words that starts with `text` is none of the other heads. -/
theorem read_text {check : TextCheck} {expected : String} {operations : List TextOperation}
    {text : List Char}
    (h : splitLine text = (Text.spaced (textWords check operations), expected.toList)) :
    read tolerance text =
      readText (Text.spaced (textWords check operations)) expected.toList text := by
  -- A check is always named, so the head has a second word and no other head starts like it.
  obtain ⟨w, ws, hcons⟩ : ∃ w ws,
      (operations.map fun op => op.word.toList) ++ [check.word.toList] = w :: ws :=
    List.exists_cons_of_ne_nil (by simp)
  have hhead : Text.spaced (textWords check operations) = "text ".toList ++ Text.spaced (w :: ws) := by
    rw [textWords, hcons, Text.spaced_cons_cons]
    rfl
  have hother : ∀ s : String, s.toList.take 5 ≠ "text ".toList →
      String.ofList (Text.spaced (textWords check operations)) ≠ s := by
    rintro s hs rfl
    rw [String.toList_ofList, hhead] at hs
    exact hs (List.take_left' rfl)
  have hprefix : (Text.dropPrefix? "text ".toList (Text.spaced (textWords check operations))).isSome
      = true := by
    rw [hhead, Text.dropPrefix?_append]
    rfl
  rw [read, h]
  dsimp only
  split
  iterate 10
    next heq => exact absurd heq (hother _ (by decide))
  next =>
    have habsent := beq_eq_false_iff_ne.mpr (hother "absent" (by decide))
    have hvisible := beq_eq_false_iff_ne.mpr (hother "visible" (by decide))
    rw [habsent, hvisible, hprefix]
    rfl

/-- A requirement is read from its line. -/
theorem ofText_line (h : r.Writable tolerance) : ofText tolerance r.line = .ok r := by
  have hsplit := splitLine_line h
  cases r with
  | width range | height range =>
      rw [ofText, read, hsplit]
      dsimp only
      rw [String.ofList_toList]
      show (Range.read tolerance (Text.spaced [range.text.toList])).map _ = _
      rw [Text.spaced_singleton, Range.read_text h]
      rfl
  | near object locations =>
      rw [ofText, read, hsplit]
      dsimp only
      rw [String.ofList_toList]
      exact readNear_value h.1 h.2.2 h.2.1
  | inside object locations partly =>
      rw [ofText, read, hsplit]
      dsimp only
      rw [String.ofList_toList]
      cases partly <;> exact readInside_value _ h.1 h.2
  | above object range | below object range | leftOf object range | rightOf object range =>
      rw [ofText, read, hsplit]
      dsimp only
      rw [String.ofList_toList]
      exact readDirection_value _ h.1 h.2
  | absent | visible => rfl
  | text check expected operations =>
      rw [toList_head_text, value, pieces] at hsplit
      rw [ofText, read_text (hsplit.trans (congrArg _ (Text.spaced_singleton _)))]
      exact readText_value h.2 _
  | component path =>
      have hpath : ¬path.toList.isEmpty = true := by simpa using h.1
      rw [ofText, read, hsplit]
      dsimp only
      rw [String.ofList_toList, value, pieces, List.map_singleton, Text.spaced_singleton]
      show (if path.toList.isEmpty then _ else _) = _
      rw [if_neg hpath, String.ofList_toList]

/-- A neighbour with two locations, one of them at two sides. -/
theorem ofText_line_near :
    let r : Requirement :=
      .near "button" [⟨.between 5 10, [.left, .top]⟩, ⟨.approximate 40 2, [.right]⟩]
    r.Writable 2 ∧ r.line = "near: button 5 to 10px left top, ~ 40px right" ∧
      ofText 2 r.line = .ok r := by
  intro r
  have h5 : Number.Writable 5 := ⟨by decide +kernel,
    fun c hc => .inl (List.all_eq_true.mp (by decide +kernel) c hc),
    ⟨'5', by decide +kernel, .inl rfl⟩, by decide +kernel⟩
  have h10 : Number.Writable 10 := ⟨by decide +kernel,
    fun c hc => .inl (List.all_eq_true.mp (by decide +kernel) c hc),
    ⟨'1', by decide +kernel, .inl rfl⟩, by decide +kernel⟩
  have h40 : Number.Writable 40 := ⟨by decide +kernel,
    fun c hc => .inl (List.all_eq_true.mp (by decide +kernel) c hc),
    ⟨'4', by decide +kernel, .inl rfl⟩, by decide +kernel⟩
  have hbetween : Location.Writable 2 ⟨.between 5 10, [.left, .top]⟩ :=
    ⟨⟨h5, h10, by decide +kernel, by decide +kernel⟩, List.cons_ne_nil _ _⟩
  have happroximate : Location.Writable 2 ⟨.approximate 40 2, [.right]⟩ :=
    ⟨⟨h40, rfl⟩, List.cons_ne_nil _ _⟩
  have hlocations : ∀ l ∈ r.locations, l.Writable 2 :=
    List.forall_mem_cons.mpr ⟨hbetween, List.forall_mem_singleton.mpr happroximate⟩
  have hr : r.Writable 2 := ⟨.of_all (by decide) rfl, List.cons_ne_nil _ _, hlocations⟩
  exact ⟨hr, by decide +kernel, ofText_line hr⟩

end PageLayout.Requirement
