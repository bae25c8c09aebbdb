import PageLayout.Proofs.Decimal.Nearest
import PageLayout.Proofs.Reading.IndexLoop

/-!
# Integers beyond 64 bits in lists of indexes

An integer that is no integer of 64 bits is read as a double.  The double nearest to it is whole
and lies beyond 64 bits as well, so that the index is the greatest or the least integer of 64
bits.  An integer that no finite double is nearest to is an error (`readNumber_clamped`).

So a list of integers of any size is read as if each of them were the nearest integer of 64 bits
(`read_clamped`), and not as it is written (`read_not_exact`).
-/

namespace PageLayout

open BinaryParts (FullFactor)

/-! ## Numbers -/

namespace Decimal

variable {n : Int} {m : Nat} {cs digits : List Char}

/-- Digits are read as the double nearest to what they spell. -/
theorem readMagnitude?_digits (hne : digits ≠ []) (hdigits : ∀ c ∈ digits, isDigit c = true) :
    readMagnitude? digits = some (nearest (spell digits) 0) := by
  have hsplit : splitDigits digits = (digits, [], []) := by
    have htake : digits.takeWhile isDigit = digits := List.takeWhile_eq_self_iff.2 hdigits
    have hdrop : digits.dropWhile isDigit = [] := List.dropWhile_eq_nil_iff.2 hdigits
    rw [splitDigits, htake, hdrop]
  have hword : ∀ word ∈ ["inf", "infinity", "nan"],
      (String.ofList (digits.map Char.toLower) == word) = false := by
    intro word hword
    have hletter : ∀ word ∈ ["inf", "infinity", "nan"],
        word.toList.head? = some 'i' ∨ word.toList.head? = some 'n' := by decide
    obtain ⟨c, rest, rfl⟩ := List.exists_cons_of_ne_nil hne
    have hc : (c.toLower != 'i' && c.toLower != 'n') = true :=
      all_of_isDigit (p := fun c => c.toLower != 'i' && c.toLower != 'n') (by decide)
        (hdigits c List.mem_cons_self)
    rw [beq_eq_false_iff_ne]
    rintro rfl
    have hfirst := hletter _ hword
    rw [String.toList_ofList, List.map_cons, List.head?_cons, Option.some_inj, Option.some_inj] at hfirst
    rw [Bool.and_eq_true, bne_iff_ne, bne_iff_ne] at hc
    exact hfirst.elim hc.1 hc.2
  rw [readMagnitude?]
  dsimp only
  rw [hword "inf" (by decide), hword "infinity" (by decide), hword "nan" (by decide), hsplit]
  dsimp only
  rw [List.append_nil, List.isEmpty_eq_false_iff.2 hne]
  rfl

/-- An integer other than zero is read as the double nearest to it. -/
theorem read?_literal (h : Literal n cs) (hn : n ≠ 0) :
    read? cs = some (if n < 0 then -nearest n.natAbs 0 else nearest n.natAbs 0) := by
  obtain ⟨hne, hdigits⟩ | ⟨hne, hdigits⟩ | ⟨hne, hdigits⟩ := h
  · have hsign : splitSign cs = (false, cs) :=
      splitSign_of_isDigit fun c hc => hdigits c (List.mem_of_mem_head? hc)
    rw [read?, hsign]
    dsimp only
    rw [readMagnitude?_digits hne hdigits, if_neg (Int.not_lt.2 (Int.natCast_nonneg _))]
    rfl
  · rw [read?, splitSign]
    dsimp only
    rw [readMagnitude?_digits hne hdigits, if_neg (Int.not_lt.2 (Int.natCast_nonneg _))]
    rfl
  · rw [read?, splitSign]
    dsimp only
    rw [readMagnitude?_digits hne hdigits, if_pos (by omega), Int.natAbs_neg]
    rfl

end Decimal

namespace IndexList

open Decimal (Literal doubleLimit fitsInt64 leastInt greatestInt)

section Numbers

variable {n : Int} {m : Nat} {cs : List Char}

/-- An integer of 64 bits is the nearest one to itself. -/
theorem clampInt64_of_fitsInt64 (h : fitsInt64 n = true) : clampInt64 n = n := by
  obtain ⟨hleast, hgreatest⟩ := fitsInt64_iff.1 h
  rw [clampInt64, Int.min_eq_right hgreatest, Int.max_eq_right hleast]

theorem clampInt64_of_greatestInt_le (h : greatestInt ≤ n) : clampInt64 n = greatestInt := by
  have hle : leastInt ≤ greatestInt := by decide
  rw [clampInt64, Int.min_eq_left h, Int.max_eq_right hle]

theorem clampInt64_of_le_leastInt (h : n ≤ leastInt) : clampInt64 n = leastInt := by
  have hle : leastInt ≤ greatestInt := by decide
  rw [clampInt64, Int.min_eq_right (Int.le_trans h hle), Int.max_eq_left h]

/-- A double with a full factor and a large exponent is a whole number beyond 64 bits. -/
theorem beyond_of_fullFactor {r : Nat} (hr : FullFactor r) {e : Int} (he : 11 ≤ e) (negative : Bool) :
    (⟨negative, r, e⟩ : BinaryParts).isWhole = true ∧
      clampInt64 (⟨negative, r, e⟩ : BinaryParts).truncate =
        if negative then leastInt else greatestInt := by
  obtain ⟨k, rfl⟩ := Int.eq_ofNat_of_zero_le (a := e) (by omega)
  have hpow : 2 ^ 11 ≤ 2 ^ k := Nat.pow_le_pow_right (by decide) (by omega)
  have hlarge : 2 ^ 63 ≤ r <<< k := by
    rw [Nat.shiftLeft_eq]
    calc 2 ^ 63 = 2 ^ 52 * 2 ^ 11 := Nat.pow_add 2 52 11
      _ ≤ r * 2 ^ k := Nat.mul_le_mul hr.le hpow
  have htruncate : (⟨negative, r, k⟩ : BinaryParts).truncate =
      if negative then -((r <<< k : Nat) : Int) else ((r <<< k : Nat) : Int) := by
    show (if negative = true then -((r <<< k / 1 : Nat) : Int) else ((r <<< k / 1 : Nat) : Int)) = _
    rw [Nat.div_one]
  refine ⟨beq_iff_eq.2 (Nat.mod_one _), ?_⟩
  rw [htruncate]
  cases negative with
  | false =>
      refine clampInt64_of_greatestInt_le ?_
      rw [greatestInt, if_neg Bool.false_ne_true]
      omega
  | true =>
      refine clampInt64_of_le_leastInt ?_
      rw [leastInt, if_pos rfl]
      omega

/-- Whatever its sign, the double nearest to an integer beyond 64 bits is read as the last integer
of 64 bits on its side, unless it is infinite. -/
theorem ofFloat?_nearest (h : 2 ^ 63 ≤ m) (negative : Bool) :
    (m < doubleLimit → ∃ d,
      BinaryParts.ofFloat? (if negative then -Decimal.nearest m 0 else Decimal.nearest m 0) = some d ∧
        d.isWhole = true ∧ clampInt64 d.truncate = if negative then leastInt else greatestInt) ∧
    (doubleLimit ≤ m →
      BinaryParts.ofFloat? (if negative then -Decimal.nearest m 0 else Decimal.nearest m 0) = none) := by
  constructor
  · intro hm
    obtain ⟨r, hr, e, hlow, hhigh, hnearest⟩ := Decimal.nearest_of_lt h hm
    obtain ⟨hwhole, hclamp⟩ := beyond_of_fullFactor hr hlow negative
    refine ⟨_, ?_, hwhole, hclamp⟩
    rw [hnearest, BinaryParts.ofFloat?]
    cases negative with
    | false => rw [if_neg Bool.false_ne_true, BinaryParts.classify_pack_finite hr (by omega) hhigh]; rfl
    | true =>
        rw [if_pos rfl, BinaryParts.neg_pack_finite hr (by omega) hhigh,
          BinaryParts.classify_pack_finite hr (by omega) hhigh]
        rfl
  · intro hm
    rw [Decimal.nearest_of_le hm]
    cases negative <;> rfl

theorem natAbs_lt_doubleLimit (h : fitsInt64 n = true) : n.natAbs < doubleLimit := by
  have hlimit : 2 ^ 63 < doubleLimit := by decide +kernel
  rw [fitsInt64_iff, leastInt, greatestInt] at h
  omega

/-- An integer is read as the nearest integer of 64 bits, if the double nearest to it is finite. -/
theorem readNumber_clamped (h : Literal n cs) :
    readNumber cs =
      if n.natAbs < doubleLimit then .ok (clampInt64 n) else .error (.badIndex (String.ofList cs)) := by
  by_cases hn : fitsInt64 n = true
  · rw [readNumber_literal h hn, clampInt64_of_fitsInt64 hn, if_pos (natAbs_lt_doubleLimit hn)]
  · have hbeyond : 2 ^ 63 ≤ n.natAbs := by
      rw [fitsInt64_iff, leastInt, greatestInt] at hn
      omega
    have hread : Decimal.read? cs =
        some (if n < 0 then -Decimal.nearest n.natAbs 0 else Decimal.nearest n.natAbs 0) :=
      Decimal.read?_literal h (by omega)
    have hplain : Decimal.readInt64? cs = none := by
      rw [Decimal.readInt64?, Decimal.literal_iff.1 h, Option.bind_some, if_neg hn]
    have hclamp : clampInt64 n = if n < 0 then leastInt else greatestInt := by
      rw [fitsInt64_iff] at hn
      split
      next hneg => exact clampInt64_of_le_leastInt (by rw [greatestInt] at hn; omega)
      next hpos => exact clampInt64_of_greatestInt_le (by rw [leastInt] at hn; omega)
    obtain ⟨hfinite, hinfinite⟩ := ofFloat?_nearest hbeyond (decide (n < 0))
    simp only [decide_eq_true_eq] at hfinite hinfinite
    rw [readNumber, h.word.trimmed.trim, hplain, hread, Option.bind_some]
    by_cases hm : n.natAbs < doubleLimit
    · obtain ⟨d, hd, hwhole, htruncate⟩ := hfinite hm
      rw [hd, if_pos hm, hclamp, ← htruncate]
      dsimp only
      rw [if_pos hwhole]
    · rw [hinfinite (Nat.not_lt.1 hm), if_neg hm]

end Numbers

/-! ## Lists -/

section Lists

variable {entries : List Entry} {text : String}

/-- All integers of a list have a finite double that is nearest to them. -/
def Readable (entries : List Entry) : Prop :=
  ∀ e ∈ entries, ∀ n ∈ e.bounds, n.natAbs < doubleLimit

/-- The indexes of a list if each of its integers is replaced by the nearest one of 64 bits. -/
def clamped (entries : List Entry) : List Int :=
  entries.flatMap fun e => (e.map clampInt64).integers

/-- An item with an integer that is not read is an error. -/
theorem readBounds_unreadable {e : Entry} {item : List Char} {n : Int} (h : Written e item)
    (hn : n ∈ e.bounds) (hlimit : ¬n.natAbs < doubleLimit) :
    Text.trim item ≠ [] ∧ ∃ fault, readBounds (Text.trim item) = .error fault := by
  obtain ⟨rfl, -⟩ | ⟨m, rfl, hm⟩ | ⟨low, high, first, middle, second, rfl, hlow, hmiddle, hhigh,
    hitem⟩ := h.cases
  · cases hn
  · obtain rfl := List.mem_singleton.1 hn
    rw [readBounds_literal hm, readNumber_clamped hm, if_neg hlimit]
    exact ⟨hm.word.ne_nil, _, rfl⟩
  · rw [hitem, readBounds_range hlow hmiddle hhigh, readNumber_clamped hlow,
      readNumber_clamped hhigh]
    refine ⟨List.append_ne_nil_of_left_ne_nil hlow.word.ne_nil _, ?_⟩
    obtain rfl | hn := List.mem_cons.1 hn
    · rw [if_neg hlimit]
      exact ⟨_, rfl⟩
    · obtain rfl := List.mem_singleton.1 hn
      rw [if_neg hlimit]
      split <;> exact ⟨_, rfl⟩

/-- A list with an integer that is not read is an error. -/
theorem readItems_unreadable {items : List (List Char)} (h : List.Forall₂ Written entries items)
    (hread : ¬Readable entries) (room : Nat) :
    ∃ fault, readItems room (items.map Text.trim) = .error fault := by
  induction h generalizing room with
  | nil => exact absurd nofun hread
  | @cons e item entries items hitem _ ih =>
      rw [List.map_cons, readItems_cons]
      by_cases hhead : ∀ n ∈ e.bounds, n.natAbs < doubleLimit
      · cases readItems room [Text.trim item] with
        | error fault => exact ⟨fault, rfl⟩
        | ok indexes =>
            have htail : ¬Readable entries := fun hrest =>
              hread (List.forall_mem_cons.2 ⟨hhead, hrest⟩)
            obtain ⟨fault, hfault⟩ := ih htail (room - indexes.length)
            refine ⟨fault, ?_⟩
            rw [ok_bind, hfault]
            rfl
      · obtain ⟨n, hn, hlimit⟩ : ∃ n ∈ e.bounds, ¬n.natAbs < doubleLimit := by
          simpa using hhead
        obtain ⟨hne, fault, hfault⟩ := readBounds_unreadable hitem hn hlimit
        refine ⟨fault, ?_⟩
        rw [readItems, List.isEmpty_eq_false_iff.2 hne, hfault]
        rfl

theorem read_unreadable (h : Spells entries text) (hread : ¬Readable entries) :
    ∃ fault, read text = .error fault := by
  obtain ⟨items, hitems, htext⟩ := h.exists_items
  have hitemsOf : read text = readItems indexLimit (itemsOf text) := rfl
  obtain heq | ⟨rfl, -⟩ := htext
  · rw [hitemsOf, heq]
    exact readItems_unreadable hitems hread indexLimit
  · obtain rfl := List.forall₂_nil_right_iff.1 hitems
    exact absurd nofun hread

/-- A list of items that are blank, integers of any size or ranges between such integers is read if
all its integers have a finite double and the indexes are no more than the limit.  The indexes are
those of the list in which each integer is replaced by the nearest one of 64 bits.  They are the
integers that are written if all of these fit into 64 bits. -/
theorem read_clamped (h : Spells entries text) :
    (∀ indexes, read text = .ok indexes ↔
      Readable entries ∧ (clamped entries).length ≤ indexLimit ∧ indexes = clamped entries) ∧
    ((∀ e ∈ entries, ∀ n ∈ e.bounds, fitsInt64 n = true) →
      Readable entries ∧ clamped entries = entries.flatMap Entry.integers) := by
  refine ⟨fun indexes => ?_, fun hfits => ⟨fun e he n hn => ?_, ?_⟩⟩
  · by_cases hread : Readable entries
    · have hnumber : ∀ e ∈ entries, ∀ n ∈ e.bounds, ∀ cs, Literal n cs →
          readNumber cs = .ok (clampInt64 n) := by
        intro e he n hn cs hcs
        rw [readNumber_clamped hcs, if_pos (hread e he n hn)]
      obtain ⟨hok, herror⟩ := h.read hnumber
      constructor
      · intro hindexes
        obtain hmany | hfew := Nat.lt_or_ge indexLimit (clamped entries).length
        · obtain ⟨item, -, hitem⟩ := herror hmany
          rw [hitem] at hindexes
          cases hindexes
        · rw [hok hfew] at hindexes
          cases hindexes
          exact ⟨hread, hfew, rfl⟩
      · rintro ⟨-, hfew, rfl⟩
        exact hok hfew
    · obtain ⟨fault, hfault⟩ := read_unreadable h hread
      rw [hfault]
      exact iff_of_false nofun fun hall => hread hall.1
  · exact natAbs_lt_doubleLimit (hfits e he n hn)
  · exact List.flatMap_congr fun e he =>
      congrArg Entry.integers (Entry.map_eq_self fun n hn => clampInt64_of_fitsInt64 (hfits e he n hn))

/-- Both bounds of a range beyond 64 bits are the greatest index, although the range is reversed. -/
theorem read_clamped_reversed :
    read "-1, 9223372036854775809 to 9223372036854775808" = .ok [-1, 9223372036854775807] := by
  have hspace : Text.AllBlank [' '] := List.forall_mem_singleton.2 rfl
  have hminus : Written (.single (-1)) "-1".toList :=
    @Written.single (-1) [] ['-', '1'] [] nofun (by decide) nofun
  have hrange : Written (.range 9223372036854775809 9223372036854775808)
      " 9223372036854775809 to 9223372036854775808".toList :=
    @Written.range _ _ [' '] "9223372036854775809".toList " to ".toList "9223372036854775808".toList []
      hspace (by decide) (@Separator.word [] [] nofun nofun) (by decide) nofun
  have hspells : Spells [.single (-1), .range 9223372036854775809 9223372036854775808]
      "-1, 9223372036854775809 to 9223372036854775808" :=
    ⟨_, .cons hminus (.cons hrange .nil), by decide⟩
  have hread : Readable [.single (-1), .range 9223372036854775809 9223372036854775808] := by
    unfold Readable
    decide +kernel
  exact ((read_clamped hspells).1 _).2 ⟨hread, by decide, by decide⟩

/-- The index of an integer beyond 64 bits is not the integer that is written. -/
theorem read_not_exact :
    Spells [.single 9223372036854775808] "9223372036854775808" ∧
      read "9223372036854775808" = .ok [9223372036854775807] ∧
      [9223372036854775807] ≠ [Entry.single 9223372036854775808].flatMap Entry.integers := by
  have hsingle : Written (.single 9223372036854775808) "9223372036854775808".toList :=
    @Written.single _ [] "9223372036854775808".toList [] nofun (by decide) nofun
  exact ⟨⟨_, .cons hsingle .nil, by decide⟩, by decide +kernel, by decide⟩

end Lists

end IndexList

end PageLayout
