import PageLayout.Proofs.Reading.IndexList

/-!
# The loop over the items of a list of indexes

`step` is one round of the loop over the items as a machine carries it out.  Its words are the
integers of 64 bits and the counts that are not negative, and a result that its word does not
hold is an outcome of its own.

`Sound` is what holds of the indexes that were found so far: they are integers of 64 bits, and
there are not too many of them.  One round keeps it (`Sound.step`), and so does the loop
(`Sound.foldlM`).  While it holds no result leaves its word, so that the loop reads whatever the
list reads (`foldlM_step`).  `read_spelled` puts this together with what a list stands for.
-/

namespace PageLayout.IndexList

open Decimal (Literal fitsInt64)

/-! ## One round -/

/-- Why the loop over the items stops. -/
inductive Stop where
  /-- A result does not fit into its word. -/
  | overflow
  /-- An item is wrong, or one too many. -/
  | fault (cause : Fault)
deriving DecidableEq, Repr

/-- The difference of two integers, if it is an integer of 64 bits. -/
def span? (low high : Int) : Option Int :=
  if fitsInt64 (high - low) then some (high - low) else none

/-- The number of indexes that may still come, if it is not negative. -/
def room? (indexes : List Int) : Option Nat :=
  if indexes.length ≤ indexLimit then some (indexLimit - indexes.length) else none

/-- One round of the loop, with the indexes so far and the next item. -/
def step (indexes : List Int) (item : List Char) : Except Stop (List Int) :=
  if item.isEmpty then .ok indexes
  else do
    let (low, high) ← (readBounds item).mapError .fault
    if high < low then return indexes
    else
      match span? low high, room? indexes with
      -- A span beyond 64 bits is more than there can be room for.
      | none, _ => .error (.fault (.tooManyIndexes (String.ofList item)))
      | some _, none => .error .overflow
      | some span, some room =>
          if span.toNat < room then return indexes ++ interval low high
          else .error (.fault (.tooManyIndexes (String.ofList item)))

/-- What holds of the indexes at every time: there are not too many, and each is an integer of
64 bits. -/
structure Sound (indexes : List Int) : Prop where
  length_le : indexes.length ≤ indexLimit
  fits : ∀ i ∈ indexes, fitsInt64 i = true

section Bounds

variable {item : List Char} {low high i n : Int}

theorem fitsInt64_iff : fitsInt64 n = true ↔ Decimal.leastInt ≤ n ∧ n ≤ Decimal.greatestInt := by
  rw [fitsInt64, Bool.and_eq_true, decide_eq_true_eq, decide_eq_true_eq]

theorem fitsInt64_clampInt64 (n : Int) : fitsInt64 (clampInt64 n) = true := by
  have hle : Decimal.leastInt ≤ Decimal.greatestInt := by decide
  rw [fitsInt64_iff, clampInt64]
  omega

/-- Every number that is read is an integer of 64 bits. -/
theorem fitsInt64_of_readNumber {cs : List Char} (h : readNumber cs = .ok n) :
    fitsInt64 n = true := by
  unfold readNumber at h
  dsimp only at h
  split at h
  next m hm =>
    cases h
    obtain ⟨m', -, hm'⟩ := Option.bind_eq_some_iff.1 hm
    split at hm'
    next hfits =>
      cases hm'
      exact hfits
    next => cases hm'
  next =>
    split at h
    next d _ =>
      split at h
      next =>
        cases h
        exact fitsInt64_clampInt64 _
      next => cases h
    next => cases h

theorem fitsInt64_of_readBounds (h : readBounds item = .ok (low, high)) :
    fitsInt64 low = true ∧ fitsInt64 high = true := by
  unfold readBounds at h
  split at h
  next before after _ =>
    obtain ⟨l, hl, h⟩ := bind_eq_ok_iff.1 h
    obtain ⟨u, hu, h⟩ := bind_eq_ok_iff.1 h
    cases h
    exact ⟨fitsInt64_of_readNumber hl, fitsInt64_of_readNumber hu⟩
  next =>
    obtain ⟨m, hm, heq⟩ := map_eq_ok_iff.1 h
    cases heq
    exact ⟨fitsInt64_of_readNumber hm, fitsInt64_of_readNumber hm⟩

theorem mem_interval : i ∈ interval low high ↔ low ≤ i ∧ i ≤ high := by
  rw [interval, List.mem_map]
  constructor
  · rintro ⟨k, hk, rfl⟩
    have hlt := List.mem_range.1 hk
    omega
  · rintro ⟨hlow, hhigh⟩
    exact ⟨(i - low).toNat, List.mem_range.2 (by omega), by omega⟩

theorem fitsInt64_of_mem_interval (hlow : fitsInt64 low = true) (hhigh : fitsInt64 high = true)
    (hi : i ∈ interval low high) : fitsInt64 i = true := by
  rw [fitsInt64_iff] at hlow hhigh ⊢
  rw [mem_interval] at hi
  exact ⟨Int.le_trans hlow.1 hi.1, Int.le_trans hi.2 hhigh.2⟩

end Bounds

/-! ## What one round does -/

section Step

variable {item : List Char} {items : List (List Char)} {indexes indexes' : List Int}
  {low high : Int}

theorem Sound.nil : Sound [] := ⟨Nat.zero_le _, nofun⟩

theorem step_empty (indexes : List Int) : step indexes [] = .ok indexes := rfl

theorem step_error {fault : Fault} (hne : item ≠ []) (hbounds : readBounds item = .error fault) :
    step indexes item = .error (.fault fault) := by
  rw [step, List.isEmpty_eq_false_iff.2 hne, hbounds]
  rfl

/-- The test of the loop asks whether there is room for the indexes of a range. -/
theorem length_interval_le_iff {room : Nat} (h : low ≤ high) :
    (interval low high).length ≤ room ↔ (high - low).toNat < room := by
  rw [length_interval]
  omega

/-- A span beyond 64 bits is no less than the limit. -/
theorem limit_le_of_span?_eq_none (hle : low ≤ high) (h : span? low high = none) :
    indexLimit ≤ (high - low).toNat := by
  rw [span?] at h
  split at h
  next => cases h
  next hwide =>
    have hleast : Decimal.leastInt ≤ 0 := by decide
    have hlimit : (indexLimit : Int) ≤ Decimal.greatestInt := by decide
    rw [fitsInt64_iff, not_and_or] at hwide
    omega

/-- A round adds the indexes of its item, if there is room for them.  No result leaves its word. -/
theorem step_bounds (h : Sound indexes) (hne : item ≠ [])
    (hbounds : readBounds item = .ok (low, high)) :
    step indexes item =
      if (interval low high).length ≤ indexLimit - indexes.length then
        .ok (indexes ++ interval low high)
      else .error (.fault (.tooManyIndexes (String.ofList item))) := by
  have hroom : room? indexes = some (indexLimit - indexes.length) := if_pos h.length_le
  rw [step, List.isEmpty_eq_false_iff.2 hne, if_neg Bool.false_ne_true, hbounds, hroom]
  show (if high < low then Except.ok indexes else _) = _
  by_cases hreversed : high < low
  · rw [if_pos hreversed, interval_eq_nil hreversed, List.length_nil,
      if_pos (Nat.zero_le _), List.append_nil]
  rw [if_neg hreversed]
  simp only [length_interval_le_iff (Int.not_lt.1 hreversed)]
  cases hspan : span? low high with
  | none =>
      have hwide := limit_le_of_span?_eq_none (Int.not_lt.1 hreversed) hspan
      rw [if_neg (by omega)]
  | some span =>
      obtain ⟨-, rfl⟩ : fitsInt64 (high - low) = true ∧ high - low = span := by
        simpa [span?] using hspan
      rfl

/-- The items of a list are read one after the other. -/
theorem readItems_cons (room : Nat) (item : List Char) (items : List (List Char)) :
    readItems room (item :: items) = do
      let first ← readItems room [item]
      let others ← readItems (room - first.length) items
      return first ++ others := by
  obtain rfl | hne := eq_or_ne item []
  · rw [readItems_empty, readItems_empty, readItems, ok_bind]
    dsimp only [List.length_nil, Nat.sub_zero]
    cases readItems room items <;> rfl
  cases hbounds : readBounds item with
  | error fault =>
      rw [readItems, readItems, List.isEmpty_eq_false_iff.2 hne, hbounds]
      rfl
  | ok bounds =>
      rw [readItems_bounds hne hbounds, readItems_bounds hne hbounds]
      split
      · rw [readItems]
        show _ = Except.bind (.ok (interval bounds.1 bounds.2 ++ [])) _
        rw [List.append_nil]
        dsimp only [Except.bind]
        cases readItems (room - (interval bounds.1 bounds.2).length) items <;> rfl
      · rfl

/-- A round reads one item. -/
theorem step_eq (h : Sound indexes) (item : List Char) :
    step indexes item =
      ((readItems (indexLimit - indexes.length) [item]).map (indexes ++ ·)).mapError .fault := by
  obtain rfl | hne := eq_or_ne item []
  · rw [step_empty, readItems_empty, readItems]
    exact congrArg Except.ok (List.append_nil indexes).symm
  cases hbounds : readBounds item with
  | error fault =>
      rw [step_error hne hbounds, readItems, List.isEmpty_eq_false_iff.2 hne, hbounds]
      rfl
  | ok bounds =>
      rw [step_bounds h hne hbounds, readItems_bounds hne hbounds, readItems]
      split
      · exact congrArg (fun added => Except.ok (indexes ++ added)) (List.append_nil _).symm
      · rfl

/-! ## What the loop keeps -/

/-- What holds of the indexes still holds after another round. -/
theorem Sound.step (h : Sound indexes) (hstep : IndexList.step indexes item = .ok indexes') :
    Sound indexes' := by
  obtain rfl | hne := eq_or_ne item []
  · rw [step_empty] at hstep
    cases hstep
    exact h
  cases hbounds : readBounds item with
  | error fault =>
      rw [step_error hne hbounds] at hstep
      cases hstep
  | ok bounds =>
      obtain ⟨hlow, hhigh⟩ := fitsInt64_of_readBounds hbounds
      rw [step_bounds h hne hbounds] at hstep
      split at hstep
      next hroom =>
        cases hstep
        have hlength := h.length_le
        refine ⟨?_, fun i hi => ?_⟩
        · rw [List.length_append]
          omega
        · obtain hi | hi := List.mem_append.1 hi
          · exact h.fits i hi
          · exact fitsInt64_of_mem_interval hlow hhigh hi
      next => cases hstep

/-- It holds of the indexes as long as the loop runs. -/
theorem Sound.foldlM (h : Sound indexes) (hrun : items.foldlM IndexList.step indexes = .ok indexes') :
    Sound indexes' := by
  induction items generalizing indexes with
  | nil =>
      cases hrun
      exact h
  | cons item items ih =>
      rw [List.foldlM_cons] at hrun
      obtain ⟨next, hnext, hrest⟩ := bind_eq_ok_iff.1 hrun
      exact ih (h.step hnext) hrest

/-- The loop reads the items of a list, and no result leaves its word. -/
theorem foldlM_step (h : Sound indexes) (items : List (List Char)) :
    items.foldlM step indexes =
      ((readItems (indexLimit - indexes.length) items).map (indexes ++ ·)).mapError .fault := by
  induction items generalizing indexes with
  | nil => exact congrArg Except.ok (List.append_nil indexes).symm
  | cons item items ih =>
      have hstep := step_eq h item
      rw [List.foldlM_cons, hstep, readItems_cons _ item items]
      cases hfirst : readItems (indexLimit - indexes.length) [item] with
      | error fault => rfl
      | ok first =>
          rw [hfirst] at hstep
          show (items.foldlM IndexList.step (indexes ++ first) : Except Stop (List Int)) = _
          rw [ih (h.step hstep), List.length_append, Nat.sub_add_eq, ok_bind]
          cases readItems (indexLimit - indexes.length - first.length) items with
          | error fault => rfl
          | ok others => exact congrArg Except.ok (List.append_assoc indexes first others)

end Step

/-! ## Results -/

/-- A list of items that are blank, integers of 64 bits or ranges between such integers gives
the integers of the items in order, if there are no more than the limit, and is refused
otherwise.  The loop over the items does the same in machine words: no result leaves its word,
and at no time are there more indexes than the limit. -/
theorem read_spelled {entries : List Entry} {text : String} (h : Spells entries text)
    (hfits : ∀ e ∈ entries, ∀ n ∈ e.bounds, fitsInt64 n = true) :
    ((entries.flatMap Entry.integers).length ≤ indexLimit →
      read text = .ok (entries.flatMap Entry.integers)) ∧
    (indexLimit < (entries.flatMap Entry.integers).length →
      ∃ item ∈ itemsOf text, read text = .error (.tooManyIndexes (String.ofList item))) ∧
    (itemsOf text).foldlM step [] = (read text).mapError .fault ∧
    ∀ k indexes, ((itemsOf text).take k).foldlM step [] = .ok indexes → Sound indexes := by
  have hread : ∀ e ∈ entries, ∀ n ∈ e.bounds, ∀ cs, Literal n cs → readNumber cs = .ok (id n) :=
    fun e he n hn cs hcs => readNumber_literal hcs (hfits e he n hn)
  have hall : (entries.flatMap fun e => (e.map id).integers) = entries.flatMap Entry.integers :=
    congrArg entries.flatMap (funext fun e => congrArg _ (Entry.map_eq_self fun _ _ => rfl))
  obtain ⟨hok, herror⟩ := h.read hread
  rw [hall] at hok herror
  refine ⟨hok, herror, ?_, fun k indexes hrun => Sound.nil.foldlM hrun⟩
  rw [foldlM_step .nil]
  show ((read text).map ([] ++ ·)).mapError Stop.fault = _
  cases read text <;> rfl

/-- Signs and hyphens between bounds are told apart, and the widest range of all is refused. -/
theorem read_spelled_signs :
    read "2, -3--1 ,, 5 to 4, +9223372036854775807" = .ok [2, -3, -2, -1, 9223372036854775807] ∧
      ∃ item ∈ itemsOf "-9223372036854775808 to 9223372036854775807",
        read "-9223372036854775808 to 9223372036854775807" =
          .error (.tooManyIndexes (String.ofList item)) := by
  have hspace : Text.AllBlank [' '] := List.forall_mem_singleton.2 rfl
  constructor
  · have htwo : Written (.single 2) "2".toList := @Written.single 2 [] ['2'] [] nofun (by decide) nofun
    have hminus : Written (.range (-3) (-1)) " -3--1 ".toList :=
      @Written.range (-3) (-1) [' '] ['-', '3'] ['-'] ['-', '1'] [' '] hspace (by decide)
        (@Separator.hyphen [] [] nofun nofun) (by decide) hspace
    have hreversed : Written (.range 5 4) " 5 to 4".toList :=
      @Written.range 5 4 [' '] ['5'] " to ".toList ['4'] [] hspace (by decide)
        (@Separator.word [] [] nofun nofun) (by decide) nofun
    have hgreatest : Written (.single 9223372036854775807) " +9223372036854775807".toList :=
      @Written.single _ [' '] "+9223372036854775807".toList [] hspace (by decide) nofun
    have hspells : Spells
        [.single 2, .range (-3) (-1), .blank, .range 5 4, .single 9223372036854775807]
        "2, -3--1 ,, 5 to 4, +9223372036854775807" :=
      ⟨_, .cons htwo (.cons hminus (.cons (@Written.blank [] nofun) (.cons hreversed (.cons hgreatest .nil)))),
        by decide⟩
    exact (read_spelled hspells (by decide)).1 (by decide)
  · have hwidest : Written (.range (-9223372036854775808) 9223372036854775807)
        "-9223372036854775808 to 9223372036854775807".toList :=
      @Written.range _ _ [] "-9223372036854775808".toList " to ".toList "9223372036854775807".toList []
        nofun (by decide) (@Separator.word [] [] nofun nofun) (by decide) nofun
    have hspells : Spells [.range (-9223372036854775808) 9223372036854775807]
        "-9223372036854775808 to 9223372036854775807" :=
      ⟨_, .cons hwidest .nil, by decide⟩
    refine (read_spelled hspells (by decide)).2.1 ?_
    rw [List.flatMap_singleton, Entry.integers, length_interval]
    decide

end PageLayout.IndexList
