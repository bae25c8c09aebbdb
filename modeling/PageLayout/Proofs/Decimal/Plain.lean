import PageLayout.Proofs.Decimal.Literal

/-!
# How finite numbers are written

A number is written with digits, or by one of the words for the numbers that have none.  The
words are not finite.  So a finite number starts with a digit, a point or a sign, and goes on with
these and the mark of a power of ten (`plain_of_read?`).
-/

namespace PageLayout.Decimal

/-- A character of a number with digits. -/
def isNumberPart (c : Char) : Bool := isDigit c || ['.', '+', '-', 'e', 'E'].contains c

/-- A text looks like a number with digits. -/
structure Plain (cs : List Char) : Prop where
  first : ∃ c ∈ cs.head?, isDigit c = true ∨ c = '.' ∨ c = '-' ∨ c = '+'
  parts : ∀ c ∈ cs, isNumberPart c = true

variable {cs whole part rest : List Char} {x : Float} {power : Int}

theorem isNumberPart_of_isDigit {c : Char} (h : isDigit c = true) : isNumberPart c = true := by
  rw [isNumberPart, h, Bool.true_or]

namespace Plain

/-- What holds of the digits and of the other characters of numbers holds of a number. -/
theorem all {p : Char → Bool} (h : Plain cs)
    (hp : (['.', '+', '-', 'e', 'E'] ++ digitChars).all p = true) : ∀ c ∈ cs, p c = true := by
  rw [List.all_append, Bool.and_eq_true] at hp
  intro c hc
  have hpart := h.parts c hc
  rw [isNumberPart, Bool.or_eq_true, List.contains_iff_mem] at hpart
  obtain hdigit | hother := hpart
  · exact all_of_isDigit hp.2 hdigit
  · exact List.all_eq_true.1 hp.1 c hother

theorem notMem {d : Char} (h : Plain cs)
    (hd : (['.', '+', '-', 'e', 'E'] ++ digitChars).all (· != d) = true) : d ∉ cs :=
  fun hmem => absurd (h.all hd d hmem) (by simp)

theorem word (h : Plain cs) : Text.Word cs := by
  refine .of_all ?_ (List.all_eq_true.2 (h.all (by decide)))
  rintro rfl
  obtain ⟨c, hc, -⟩ := h.first
  cases hc

end Plain

/-! ## Numbers without a sign -/

theorem parts_of_readPower? (h : readPower? rest = some power) :
    ∀ c ∈ rest, isNumberPart c = true := by
  cases rest with
  | nil => exact nofun
  | cons e cs =>
      rw [readPower?] at h
      split at h
      next he =>
        have hmark : isNumberPart e = true := by
          rw [Bool.or_eq_true, beq_iff_eq, beq_iff_eq] at he
          obtain rfl | rfl := he <;> rfl
        exact List.forall_mem_cons.2 ⟨hmark, (literal_iff.2 h).all (by decide)⟩
      next => cases h

/-- Digits, perhaps with a point and more digits after it, are cut off the front of a text. -/
theorem eq_of_splitDigits (h : splitDigits cs = (whole, part, rest)) :
    (∀ c ∈ whole, isDigit c = true) ∧ (∀ c ∈ part, isDigit c = true) ∧
      (part = [] ∧ cs = whole ++ rest ∨ cs = whole ++ '.' :: (part ++ rest)) := by
  have hcs := List.takeWhile_append_dropWhile (p := isDigit) (l := cs)
  have hdigits : ∀ ds : List Char, ∀ c ∈ ds.takeWhile isDigit, isDigit c = true :=
    fun ds c hc => List.all_eq_true.1 List.all_takeWhile c hc
  rw [splitDigits] at h
  split at h
  next after heq =>
    cases h
    refine ⟨hdigits cs, hdigits after, .inr ?_⟩
    rw [List.takeWhile_append_dropWhile, ← heq, hcs]
  next =>
    cases h
    exact ⟨hdigits cs, nofun, .inl ⟨rfl, hcs.symm⟩⟩

/-- Digits with a number's other characters after them look like a number. -/
theorem parts_of_splitDigits (hsplit : splitDigits cs = (whole, part, rest))
    (hsome : ¬(whole.isEmpty && part.isEmpty) = true) (hrest : ∀ c ∈ rest, isNumberPart c = true) :
    (∃ c ∈ cs.head?, isDigit c = true ∨ c = '.') ∧ ∀ c ∈ cs, isNumberPart c = true := by
  obtain ⟨hwhole, hpart, hcs⟩ := eq_of_splitDigits hsplit
  have hdigits : ∀ {ds : List Char}, (∀ c ∈ ds, isDigit c = true) → ∀ c ∈ ds, isNumberPart c = true :=
    fun hds c hc => isNumberPart_of_isDigit (hds c hc)
  constructor
  · cases whole with
    | cons c whole =>
        refine ⟨c, ?_, .inl (hwhole c List.mem_cons_self)⟩
        obtain ⟨-, rfl⟩ | rfl := hcs <;> rfl
    | nil =>
        -- Without digits in front there is a point.
        obtain ⟨rfl, -⟩ | rfl := hcs
        · exact absurd rfl hsome
        · exact ⟨'.', rfl, .inr rfl⟩
  · obtain ⟨-, rfl⟩ | rfl := hcs
    · exact List.forall_mem_append.2 ⟨hdigits hwhole, hrest⟩
    · exact List.forall_mem_append.2 ⟨hdigits hwhole,
        List.forall_mem_cons.2 ⟨rfl, List.forall_mem_append.2 ⟨hdigits hpart, hrest⟩⟩⟩

/-- A text that is read is a word for a number without digits, or it has digits. -/
theorem magnitude_cases (h : readMagnitude? cs = some x) :
    x = 1.0 / 0.0 ∨ x = 0.0 / 0.0 ∨
      ((∃ c ∈ cs.head?, isDigit c = true ∨ c = '.') ∧ ∀ c ∈ cs, isNumberPart c = true) := by
  rw [readMagnitude?] at h
  dsimp only at h
  split at h
  next =>
    cases h
    exact .inl rfl
  next =>
    split at h
    next =>
      cases h
      exact .inr (.inl rfl)
    next =>
      obtain ⟨whole, part, rest, hsplit⟩ : ∃ whole part rest, splitDigits cs = (whole, part, rest) :=
        ⟨_, _, _, rfl⟩
      rw [hsplit] at h
      dsimp only at h
      split at h
      next => cases h
      next hsome =>
        obtain ⟨power, hpower, -⟩ := Option.map_eq_some_iff.1 h
        exact .inr (.inr (parts_of_splitDigits hsplit hsome (parts_of_readPower? hpower)))

/-! ## Numbers -/

/-- A finite number is written with digits. -/
theorem plain_of_read? (h : read? cs = some x) (hx : Number.isFinite x = true) : Plain cs := by
  have hinfinite : ∀ negative : Bool, ∀ y : Float, y = 1.0 / 0.0 ∨ y = 0.0 / 0.0 →
      Number.isFinite (if negative then -y else y) = false := by
    rintro (_ | _) y (rfl | rfl) <;> decide +kernel
  obtain ⟨negative, rest, hsign⟩ : ∃ negative rest, splitSign cs = (negative, rest) := ⟨_, _, rfl⟩
  rw [read?, hsign] at h
  obtain ⟨y, hy, rfl⟩ := Option.map_eq_some_iff.1 h
  obtain hinf | hnan | ⟨⟨c, hc, hfirst⟩, hparts⟩ := magnitude_cases hy
  · rw [hinfinite negative y (.inl hinf)] at hx
    cases hx
  · rw [hinfinite negative y (.inr hnan)] at hx
    cases hx
  · unfold splitSign at hsign
    split at hsign <;> cases hsign
    · exact ⟨⟨'-', rfl, .inr (.inr (.inl rfl))⟩, List.forall_mem_cons.2 ⟨rfl, hparts⟩⟩
    · exact ⟨⟨'+', rfl, .inr (.inr (.inr rfl))⟩, List.forall_mem_cons.2 ⟨rfl, hparts⟩⟩
    · exact ⟨⟨c, hc, hfirst.imp_right .inl⟩, hparts⟩

end PageLayout.Decimal
