import PageLayout.Decimal.Notation
import PageLayout.Decimal.Reader

/-!
# Words that are numbers

A text without digits is read as a number if it is one of three words, in small or capital
letters, with a sign in front or without: the words for the infinite and the undefined number.
No other text without digits is a number (`read?_of_noDigit`).

Such a number is not always written as it was read: small and capital letters, the longer word
and the plus sign are lost.
-/

namespace PageLayout.Decimal

/-- The words for numbers without digits. -/
def numberWords : List (List Char) := ["inf".toList, "infinity".toList, "nan".toList]

/-- A text is a word for a number without digits.  Capital letters are like small ones, and there
may be a sign in front. -/
def IsNumberWord (cs : List Char) : Prop :=
  ∃ sign ∈ [[], ['+'], ['-']], ∃ word, cs = sign ++ word ∧ word.map Char.toLower ∈ numberWords

/-- The numbers that are spelled as words, without their signs. -/
def wordValues : List Float := [1.0 / 0.0, 0.0 / 0.0]

section

variable {cs : List Char}

theorem splitDigits_of_noDigit (h : ∀ c ∈ cs, isDigit c = false) :
    (splitDigits cs).1 = [] ∧ (splitDigits cs).2.1 = [] := by
  have hnone : ∀ ds : List Char, (∀ c ∈ ds, isDigit c = false) → ds.takeWhile isDigit = [] := by
    intro ds hds
    cases ds with
    | nil => rfl
    | cons c ds => exact List.takeWhile_cons_of_neg (by simp [hds c List.mem_cons_self])
  have hdrop : cs.dropWhile isDigit = cs := by
    have hsplit := List.takeWhile_append_dropWhile (p := isDigit) (l := cs)
    rwa [hnone cs h, List.nil_append] at hsplit
  unfold splitDigits
  rw [hdrop, hnone cs h]
  split
  next rest => exact ⟨rfl, hnone rest fun c hc => h c (List.mem_cons_of_mem _ hc)⟩
  next => exact ⟨rfl, rfl⟩

/-- A text without digits is a number if it is one of the words. -/
theorem readMagnitude?_of_noDigit (h : ∀ c ∈ cs, isDigit c = false) :
    (cs.map Char.toLower ∈ numberWords → ∃ x ∈ wordValues, readMagnitude? cs = some x) ∧
    (cs.map Char.toLower ∉ numberWords → readMagnitude? cs = none) := by
  have hspelled : ∀ word : String,
      String.ofList (cs.map Char.toLower) = word ↔ cs.map Char.toLower = word.toList := by
    intro word
    rw [← String.toList_inj, String.toList_ofList]
  obtain ⟨hwhole, hpart⟩ := splitDigits_of_noDigit h
  unfold readMagnitude?
  simp only [Bool.or_eq_true, beq_iff_eq, hspelled, numberWords, List.mem_cons, List.not_mem_nil,
    or_false, not_or]
  constructor
  · rintro (hinf | hinfinity | hnan)
    · exact ⟨_, List.mem_cons_self, if_pos (.inl hinf)⟩
    · exact ⟨_, List.mem_cons_self, if_pos (.inr hinfinity)⟩
    · refine ⟨_, List.mem_cons_of_mem _ List.mem_cons_self, ?_⟩
      rw [if_neg (by rw [hnan]; decide), if_pos hnan]
  · rintro ⟨hinf, hinfinity, hnan⟩
    rw [if_neg (not_or.2 ⟨hinf, hinfinity⟩), if_neg hnan, hwhole, hpart]
    rfl

/-- The words are those that are left without the sign. -/
theorem isNumberWord_iff : IsNumberWord cs ↔ (splitSign cs).2.map Char.toLower ∈ numberWords := by
  constructor
  · rintro ⟨sign, hsign, word, rfl, hword⟩
    simp only [List.mem_cons, List.not_mem_nil, or_false] at hsign
    rcases hsign with rfl | rfl | rfl
    · rw [List.nil_append]
      unfold splitSign
      -- No word starts with a sign.
      split
      next => simp [numberWords] at hword
      next => simp [numberWords] at hword
      next => exact hword
    · exact hword
    · exact hword
  · intro hword
    unfold splitSign at hword
    split at hword
    next rest => exact ⟨['-'], by simp, rest, rfl, hword⟩
    next rest => exact ⟨['+'], by simp, rest, rfl, hword⟩
    next => exact ⟨[], by simp, cs, rfl, hword⟩

instance : Decidable (IsNumberWord cs) := decidable_of_iff _ isNumberWord_iff.symm

theorem mem_of_mem_splitSign {c : Char} (hc : c ∈ (splitSign cs).2) : c ∈ cs := by
  unfold splitSign at hc
  split at hc
  · exact List.mem_cons_of_mem _ hc
  · exact List.mem_cons_of_mem _ hc
  · exact hc

/-- The texts of the numbers that are spelled as words. -/
def wordTexts : List String := ["inf", "-inf", "NaN"]

/-- A text without digits is a number if it is a word for one.  The number is written in one of
three ways. -/
theorem read?_of_noDigit (h : ∀ c ∈ cs, isDigit c = false) :
    (IsNumberWord cs → ∃ x, read? cs = some x ∧ Number.pixels x ∈ wordTexts) ∧
    (¬IsNumberWord cs → read? cs = none) := by
  have hwritten : ∀ negative : Bool, ∀ x ∈ wordValues,
      Number.pixels (if negative then -x else x) ∈ wordTexts := by decide +kernel
  have hrest : ∀ c ∈ (splitSign cs).2, isDigit c = false := by
    intro c hc
    exact h c (mem_of_mem_splitSign hc)
  obtain ⟨hword, hnone⟩ := readMagnitude?_of_noDigit hrest
  rw [isNumberWord_iff]
  constructor
  · intro hmem
    obtain ⟨x, hx, hread⟩ := hword hmem
    refine ⟨if (splitSign cs).1 then -x else x, ?_, hwritten _ x hx⟩
    exact congrArg (Option.map _) hread
  · intro hmem
    exact congrArg (Option.map _) (hnone hmem)

end

example : IsNumberWord "-iNFinity".toList ∧ ¬IsNumberWord "infinite".toList := by decide

end PageLayout.Decimal
