import PageLayout.Proofs.Compilation.Filled

/-!
# Indexes as they are written

An integer is read back from its digits (`Decimal.readInt64?_toString`), and two integers with
`to` between them are a list of all the integers from the one to the other
(`IndexList.read_range`).
-/

namespace PageLayout

namespace Decimal

theorem spell_toDigits (n : Nat) : spell (Nat.toDigits 10 n) = n :=
  Nat.ofDigitChars_toDigits (by decide) (by decide)

theorem readNat?_toDigits (n : Nat) : readNat? (Nat.toDigits 10 n) = some n := by
  have hdigits : (Nat.toDigits 10 n).all isDigit = true :=
    List.all_eq_true.2 fun c hc => Placeholder.isDigit_of_mem_toDigits hc
  rw [readNat?, hdigits, List.isEmpty_eq_false_iff.2 Nat.toDigits_ne_nil, spell_toDigits]
  rfl

/-- A text that starts with a digit has no sign. -/
theorem splitSign_of_isDigit {cs : List Char} (h : ∀ c ∈ cs.head?, isDigit c = true) :
    splitSign cs = (false, cs) := by
  unfold splitSign
  split
  next => exact absurd (h '-' rfl) (by decide)
  next => exact absurd (h '+' rfl) (by decide)
  next => rfl

theorem readInt?_toString (i : Int) : readInt? (toString i).toList = some i := by
  rw [Placeholder.toList_toString, readInt?]
  by_cases hi : i < 0
  · rw [if_pos hi, List.singleton_append, splitSign]
    dsimp only
    rw [readNat?_toDigits]
    show some (-(i.natAbs : Int)) = some i
    rw [Int.ofNat_natAbs_of_nonpos (Int.le_of_lt hi), Int.neg_neg]
  · have hdigits : ∀ c ∈ (Nat.toDigits 10 i.natAbs).head?, isDigit c = true := fun c hc =>
      Placeholder.isDigit_of_mem_toDigits (List.mem_of_mem_head? hc)
    rw [if_neg hi, List.nil_append, splitSign_of_isDigit hdigits]
    dsimp only
    rw [readNat?_toDigits]
    show some (i.natAbs : Int) = some i
    rw [Int.natAbs_of_nonneg (Int.not_lt.1 hi)]

theorem readInt64?_toString {i : Int} (h : fitsInt64 i = true) :
    readInt64? (toString i).toList = some i := by
  rw [readInt64?, readInt?_toString, Option.bind_some, if_pos h]

end Decimal

/-- Different integers are written differently. -/
theorem eq_of_toString_eq {i i' : Int} (h : toString i = toString i') : i = i' := by
  have hread := Decimal.readInt?_toString i
  rw [h, Decimal.readInt?_toString] at hread
  exact (Option.some.inj hread).symm

/-- An index is written without blanks. -/
theorem Placeholder.word_toString (i : Int) : Text.Word (toString i).toList :=
  ⟨toList_toString_ne_nil i, fun _ hc => not_isBlank_of_isIndexPart (isIndexPart_of_mem hc)⟩

namespace IndexList

theorem readNumber_toString {i : Int} (h : Decimal.fitsInt64 i = true) :
    readNumber (toString i).toList = .ok i := by
  rw [readNumber, (Placeholder.word_toString i).trimmed.trim, Decimal.readInt64?_toString h]

/-- From an integer to a smaller one there are none. -/
theorem interval_eq_nil {low high : Int} (h : high < low) : interval low high = [] := by
  have hcount : (high + 1 - low).toNat = 0 := by omega
  rw [interval, hcount]
  rfl

/-- Two integers with `to` between them are the bounds of a list. -/
theorem read_range {low high : Int} (hlow : Decimal.fitsInt64 low = true)
    (hhigh : Decimal.fitsInt64 high = true) (h : high - low < indexLimit) :
    read (toString low ++ " to " ++ toString high) = .ok (interval low high) := by
  have hword := Placeholder.word_toString
  let item := (toString low).toList ++ (" to ".toList ++ (toString high).toList)
  have hitem : (toString low ++ " to " ++ toString high).toList = item := by
    rw [String.toList_append, String.toList_append, List.append_assoc]
  have hcomma : ∀ c ∈ item, (c == ',') = false := by
    intro c hc
    refine beq_eq_false_iff_ne.2 ?_
    rintro rfl
    obtain hc | hc := List.mem_append.1 hc
    · exact absurd (Placeholder.isIndexPart_of_mem hc) (by decide)
    · obtain hc | hc := List.mem_append.1 hc
      · exact absurd hc (by decide)
      · exact absurd (Placeholder.isIndexPart_of_mem hc) (by decide)
  have htrimmed : Text.Trimmed item :=
    (hword low).trimmed.around (hword high).trimmed (hword low).ne_nil (hword high).ne_nil _
  have hne : item.isEmpty = false :=
    List.isEmpty_eq_false_iff.2 (List.append_ne_nil_of_left_ne_nil (hword low).ne_nil _)
  have hsplit : splitRange? item = some ((toString low).toList, (toString high).toList) := by
    have hspace : ' ' ∉ (toString low).toList := fun hc =>
      absurd ((hword low).ink _ hc) (by decide)
    have hto : Text.splitOnce " to ".toList item = some _ := Text.splitOnce_append hspace
    unfold splitRange?
    rw [hto]
  have hbounds : readBounds item = .ok (low, high) := by
    rw [readBounds, hsplit]
    dsimp only
    rw [readNumber_toString hlow, readNumber_toString hhigh]
    rfl
  rw [read, hitem, Text.splitAt_run hcomma, List.map_singleton, htrimmed.trim, readItems, hne,
    if_neg Bool.false_ne_true, hbounds, ok_bind]
  dsimp only
  split
  next hreversed => rw [interval_eq_nil hreversed, readItems]
  next =>
    have hroom : (high - low).toNat < indexLimit := by omega
    rw [if_pos hroom, readItems]
    exact congrArg Except.ok (List.append_nil _)

end IndexList

end PageLayout
