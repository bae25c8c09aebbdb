import PageLayout.Proofs.Text.Indexes

/-!
# Integers as they are written

`Literal` says how an integer is written: digits, with an optional sign before them.  These are
the texts that are read as integers (`literal_iff`), and an integer is read as what its digits
spell.
-/

namespace PageLayout.Decimal

/-- A text is an integer: digits, with an optional sign before them. -/
inductive Literal : Int → List Char → Prop
  | bare {digits : List Char} :
      digits ≠ [] → (∀ c ∈ digits, isDigit c = true) → Literal (spell digits) digits
  | plus {digits : List Char} :
      digits ≠ [] → (∀ c ∈ digits, isDigit c = true) → Literal (spell digits) ('+' :: digits)
  | minus {digits : List Char} :
      digits ≠ [] → (∀ c ∈ digits, isDigit c = true) → Literal (-(spell digits : Int)) ('-' :: digits)

variable {n : Int} {cs digits : List Char}

theorem readNat?_eq_some_iff {m : Nat} :
    readNat? digits = some m ↔
      digits ≠ [] ∧ (∀ c ∈ digits, isDigit c = true) ∧ m = spell digits := by
  rw [readNat?]
  split
  next h =>
    rw [Bool.or_eq_true, List.isEmpty_iff, Bool.not_eq_true', ← Bool.not_eq_true,
      List.all_eq_true] at h
    refine iff_of_false (Option.some_ne_none m).symm ?_
    rintro ⟨hne, hall, -⟩
    exact h.elim hne fun hnot => hnot hall
  next h =>
    rw [Bool.or_eq_true, not_or, List.isEmpty_iff, Bool.not_eq_true', Bool.not_eq_false,
      List.all_eq_true] at h
    rw [Option.some_inj]
    exact ⟨fun heq => ⟨h.1, h.2, heq.symm⟩, fun hspelled => hspelled.2.2.symm⟩

/-- The integers are read as they are written. -/
theorem literal_iff : Literal n cs ↔ readInt? cs = some n := by
  constructor
  · rintro (⟨hne, hall⟩ | ⟨hne, hall⟩ | ⟨hne, hall⟩)
    · have hsign : splitSign cs = (false, cs) :=
        splitSign_of_isDigit fun c hc => hall c (List.mem_of_mem_head? hc)
      rw [readInt?, hsign]
      dsimp only
      rw [readNat?_eq_some_iff.2 ⟨hne, hall, rfl⟩]
      rfl
    all_goals
      rw [readInt?, splitSign]
      dsimp only
      rw [readNat?_eq_some_iff.2 ⟨hne, hall, rfl⟩]
      rfl
  · intro h
    obtain ⟨negative, digits, hsign⟩ : ∃ negative digits, splitSign cs = (negative, digits) :=
      ⟨_, _, rfl⟩
    rw [readInt?, hsign] at h
    obtain ⟨_, hbind, rfl⟩ := Option.map_eq_some_iff.1 h
    obtain ⟨m, hm, hcast⟩ := Option.bind_eq_some_iff.1 hbind
    cases hcast
    obtain ⟨hne, hall, rfl⟩ := readNat?_eq_some_iff.1 hm
    unfold splitSign at hsign
    split at hsign <;> cases hsign
    · exact .minus hne hall
    · exact .plus hne hall
    · exact .bare hne hall

instance : Decidable (Literal n cs) := decidable_of_iff _ literal_iff.symm

namespace Literal

/-- An integer has a first character, and digits after it. -/
theorem exists_cons (h : Literal n cs) :
    ∃ c rest, cs = c :: rest ∧ (isDigit c = true ∨ c = '+' ∨ c = '-') ∧
      ∀ d ∈ rest, isDigit d = true := by
  obtain ⟨hne, hall⟩ | ⟨-, hall⟩ | ⟨-, hall⟩ := h
  · obtain ⟨c, rest, rfl⟩ := List.exists_cons_of_ne_nil hne
    obtain ⟨hc, hrest⟩ := List.forall_mem_cons.1 hall
    exact ⟨c, rest, rfl, .inl hc, hrest⟩
  · exact ⟨'+', _, rfl, .inr (.inl rfl), hall⟩
  · exact ⟨'-', _, rfl, .inr (.inr rfl), hall⟩

/-- What holds of the digits and the signs holds of the characters of an integer. -/
theorem all {p : Char → Bool} (h : Literal n cs) (hp : ('+' :: '-' :: digitChars).all p = true) :
    ∀ c ∈ cs, p c = true := by
  obtain ⟨hplus, hminus, hdigits⟩ : p '+' = true ∧ p '-' = true ∧ digitChars.all p = true := by
    rwa [List.all_cons, List.all_cons, Bool.and_eq_true, Bool.and_eq_true] at hp
  obtain ⟨c, rest, rfl, hc, hrest⟩ := h.exists_cons
  refine List.forall_mem_cons.2 ⟨?_, fun d hd => all_of_isDigit hdigits (hrest d hd)⟩
  obtain hc | rfl | rfl := hc
  · exact all_of_isDigit hdigits hc
  · exact hplus
  · exact hminus

theorem notMem {d : Char} (h : Literal n cs) (hd : ('+' :: '-' :: digitChars).all (· != d) = true) :
    d ∉ cs := fun hmem => absurd (h.all hd d hmem) (by simp)

theorem word (h : Literal n cs) : Text.Word cs := by
  have hink : ('+' :: '-' :: digitChars).all isInk = true := by decide
  obtain ⟨c, rest, rfl, -, -⟩ := h.exists_cons
  exact .of_all (List.cons_ne_nil c rest) (List.all_eq_true.2 (h.all hink))

end Literal

end PageLayout.Decimal
