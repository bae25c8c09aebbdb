import Mathlib.Logic.Function.Iterate
import PageLayout.Pattern.Match

/-!
# What a pattern matches

A pattern matches a text from one place to another, and `Regex.Spans` says when, by the form of
the pattern.  The matcher maps sets of places instead, all starts at once.

A map of sets `Follows` a relation of places if it leads to exactly the places that are related
to one of the set.  Maps that do are closed under what the matcher does with them, so
`Regex.follows_reach` goes through the forms of a pattern.  A repetition without a bound needs
no more rounds than there are places, because a match that stands still can be left out
(`exists_times_le`).
-/

namespace PageLayout.Pattern

/-! ## Places -/

/-- The character before a place, if there is one. -/
def charBefore (text : List Char) : Nat → Option Char
  | 0 => none
  | i + 1 => text[i]?

/-- So many steps of a relation, one after another. -/
def Times (R : Nat → Nat → Prop) : (count : Nat) → Nat → Nat → Prop
  | 0, i, j => i = j
  | count + 1, i, j => ∃ k, R i k ∧ Times R count k j

/-- A pattern matches a text from a place to another one.  A repetition may be tried as often
as its bounds say, and if they are the wrong way round, as often as the lower one. -/
def Regex.Spans (text : List Char) : Regex → Nat → Nat → Prop
  | .empty, i, j => i = j
  | .chars s, i, j => ∃ c, text[i]? = some c ∧ s.holds c.toNat = true ∧ i + 1 = j
  | .look l, i, j => l.holds (charBefore text i) text[i]? = true ∧ i = j
  | .seq a b, i, j => ∃ k, a.Spans text i k ∧ b.Spans text k j
  | .alt a b, i, j => a.Spans text i j ∨ b.Spans text i j
  | .repeated min max body, i, j =>
      ∃ count, min ≤ count ∧ (∀ m ∈ max, count ≤ Max.max min m) ∧ Times (body.Spans text) count i j

variable {text : List Char} {R S : Nat → Nat → Prop} {i j n : Nat}

/-! ## Steps -/

theorem times_add (a b : Nat) :
    Times R (a + b) i j ↔ ∃ k, Times R a i k ∧ Times R b k j := by
  induction a generalizing i with
  | zero => simp [Times]
  | succ a ih =>
      rw [Nat.add_right_comm]
      simp only [Times, ih]
      constructor
      · rintro ⟨k, hk, m, hm, hj⟩
        exact ⟨m, ⟨k, hk, hm⟩, hj⟩
      · rintro ⟨m, ⟨k, hk, hm⟩, hj⟩
        exact ⟨k, hk, m, hm, hj⟩

/-- Steps that may also be left out are some of the steps. -/
theorem times_or_eq (rounds : Nat) :
    Times (fun i j => i = j ∨ R i j) rounds i j ↔ ∃ count ≤ rounds, Times R count i j := by
  induction rounds generalizing i with
  | zero => simp [Times]
  | succ rounds ih =>
      simp only [Times, ih]
      constructor
      · rintro ⟨k, rfl | hk, count, hcount, hj⟩
        · exact ⟨count, Nat.le_succ_of_le hcount, hj⟩
        · exact ⟨count + 1, Nat.succ_le_succ hcount, k, hk, hj⟩
      · rintro ⟨_ | count, hcount, hj⟩
        · exact ⟨i, .inl rfl, 0, Nat.zero_le _, hj⟩
        · obtain ⟨k, hk, hj⟩ := hj
          exact ⟨k, .inr hk, count, Nat.le_of_succ_le_succ hcount, hj⟩

theorem le_of_times (hR : ∀ i j, R i j → i ≤ j) {count : Nat} (h : Times R count i j) : i ≤ j := by
  induction count generalizing i with
  | zero => exact Nat.le_of_eq h
  | succ count ih =>
      obtain ⟨k, hk, hj⟩ := h
      exact Nat.le_trans (hR i k hk) (ih hj)

/-- Steps that stand still can be left out. -/
theorem exists_times_le (hR : ∀ i j, R i j → i ≤ j) {count : Nat} (h : Times R count i j) :
    ∃ fewer ≤ j - i, Times R fewer i j := by
  induction count generalizing i with
  | zero => exact ⟨0, Nat.zero_le _, h⟩
  | succ count ih =>
      obtain ⟨k, hk, hj⟩ := h
      obtain ⟨fewer, hfewer, hj⟩ := ih hj
      have hik := hR i k hk
      have hkj := le_of_times hR hj
      by_cases heq : i = k
      · exact ⟨fewer, heq ▸ hfewer, heq ▸ hj⟩
      · exact ⟨fewer + 1, by omega, k, hk, hj⟩

/-! ## Maps of sets of places -/

/-- A map of sets of some places leads from a set to what is related to one of its places. -/
structure Follows (n : Nat) (f : Places → Places) (R : Nat → Nat → Prop) : Prop where
  length : ∀ ps : Places, ps.length = n → (f ps).length = n
  reached : ∀ ps : Places, ps.length = n →
    ∀ j : Nat, (f ps)[j]? = some true ↔ ∃ i : Nat, ps[i]? = some true ∧ R i j

namespace Follows

variable {f g : Places → Places}

theorem id : Follows n (fun ps => ps) fun i j => i = j := ⟨fun _ h => h, fun ps _ j => by simp⟩

theorem comp (hf : Follows n f R) (hg : Follows n g S) :
    Follows n (fun ps => g (f ps)) fun i j => ∃ k, R i k ∧ S k j where
  length ps h := hg.length _ (hf.length ps h)
  reached ps h j := by
    rw [hg.reached _ (hf.length ps h)]
    simp only [hf.reached ps h]
    constructor
    · rintro ⟨k, ⟨i, hi, hk⟩, hj⟩
      exact ⟨i, hi, k, hk, hj⟩
    · rintro ⟨i, hi, k, hk, hj⟩
      exact ⟨k, ⟨i, hi, hk⟩, hj⟩

theorem union (hf : Follows n f R) (hg : Follows n g S) :
    Follows n (fun ps => (f ps).union (g ps)) fun i j => R i j ∨ S i j where
  length ps h := by rw [Places.union, List.length_zipWith, hf.length ps h, hg.length ps h, Nat.min_self]
  reached ps h j := by
    have hboth : ((f ps).union (g ps))[j]? = some true ↔
        (f ps)[j]? = some true ∨ (g ps)[j]? = some true := by
      have hlength := (hf.length ps h).trans (hg.length ps h).symm
      rw [Places.union, List.getElem?_zipWith]
      by_cases hj : j < (f ps).length
      · rw [List.getElem?_eq_getElem hj, List.getElem?_eq_getElem (hlength ▸ hj)]
        simp
      · rw [List.getElem?_eq_none (Nat.not_lt.1 hj), List.getElem?_eq_none (hlength ▸ Nat.not_lt.1 hj)]
        simp
    rw [hboth, hf.reached ps h, hg.reached ps h, ← exists_or]
    exact exists_congr fun i => by rw [and_or_left]

/-- What is related to a place is a place. -/
theorem lt (hf : Follows n f R) (h : R i j) (hi : i < n) : j < n := by
  let all : Places := List.replicate n true
  have hall : all.length = n := List.length_replicate
  have hstart : all[i]? = some true := by rw [List.getElem?_replicate, if_pos hi]
  have hend := (hf.reached all hall j).2 ⟨i, hstart, h⟩
  rw [← hf.length all hall]
  exact (List.getElem?_eq_some_iff.1 hend).1

theorem congr (hf : Follows n f R) (h : ∀ i j, i < n → (R i j ↔ S i j)) : Follows n f S where
  length := hf.length
  reached ps hps j := by
    rw [hf.reached ps hps]
    refine exists_congr fun i => and_congr_right fun hi => h i j ?_
    rw [← hps]
    exact (List.getElem?_eq_some_iff.1 hi).1

theorem iterate (hf : Follows n f R) (count : Nat) : Follows n f^[count] (Times R count) := by
  induction count with
  | zero => exact .id
  | succ count ih => exact hf.comp ih

end Follows

/-- Stopping when a round changes nothing makes no difference. -/
theorem iterate_eq (f : Places → Places) (rounds : Nat) (ps : Places) :
    iterate f rounds ps = f^[rounds] ps := by
  induction rounds generalizing ps with
  | zero => rfl
  | succ rounds ih =>
      rw [iterate, Function.iterate_succ_apply]
      split
      next hfixed =>
        rw [beq_iff_eq] at hfixed
        rw [hfixed, Function.iterate_fixed hfixed]
      next => exact ih (f ps)

/-! ## The matcher -/

theorem length_neighbours (before : Option Char) (text : List Char) :
    (neighbours before text).length = text.length + 1 := by
  induction text generalizing before with
  | nil => rfl
  | cons c cs ih => rw [neighbours, List.length_cons, ih, List.length_cons]

theorem getElem?_neighbours (text : List Char) (h : i ≤ text.length) :
    (neighbours none text)[i]? = some (charBefore text i, text[i]?) := by
  have hafter : ∀ (before : Option Char) (text : List Char) (i : Nat), i ≤ text.length →
      (neighbours before text)[i]? = some (if i = 0 then before else text[i - 1]?, text[i]?) := by
    intro before text
    induction text generalizing before with
    | nil =>
        intro i hi
        obtain rfl := Nat.le_zero.1 hi
        rfl
    | cons c cs ih =>
        intro i hi
        cases i with
        | zero => rfl
        | succ i =>
            rw [neighbours, List.getElem?_cons_succ, ih _ _ (Nat.le_of_succ_le_succ hi)]
            cases i <;> simp
  rw [hafter none text i h]
  cases i <;> rfl

/-- A character leads from the place before it to the place after it. -/
theorem follows_stepOver (s : CharSet) (text : List Char) :
    Follows (text.length + 1) (stepOver s text) ((Regex.chars s).Spans text) where
  length ps h := by
    rw [stepOver, List.length_cons, List.length_zipWith, h, Nat.min_eq_left (Nat.le_succ _)]
  reached ps h j := by
    cases j with
    | zero => simp [stepOver, Regex.Spans]
    | succ j =>
        have hbefore : (∃ i : Nat, ps[i]? = some true ∧ (Regex.chars s).Spans text i (j + 1)) ↔
            ps[j]? = some true ∧ ∃ c, text[j]? = some c ∧ s.holds c.toNat = true := by
          constructor
          · rintro ⟨i, hi, c, hc, hs, hij⟩
            obtain rfl := Nat.succ.inj hij
            exact ⟨hi, c, hc, hs⟩
          · rintro ⟨hj, c, hc, hs⟩
            exact ⟨j, hj, c, hc, hs, rfl⟩
        rw [hbefore, stepOver, List.getElem?_cons_succ, List.getElem?_zipWith]
        cases text[j]? with
        | none => simp
        | some c => cases ps[j]? <;> simp

/-- A condition on a place keeps the places where it holds. -/
theorem follows_look (l : Look) (text : List Char) :
    Follows (text.length + 1) ((Regex.look l).reach text) ((Regex.look l).Spans text) where
  length ps h := by
    rw [Regex.reach, List.length_zipWith, length_neighbours, h, Nat.min_self]
  reached ps h j := by
    have hsame : (∃ i : Nat, ps[i]? = some true ∧ (Regex.look l).Spans text i j) ↔
        ps[j]? = some true ∧ l.holds (charBefore text j) text[j]? = true := by
      constructor
      · rintro ⟨i, hi, hl, rfl⟩
        exact ⟨hi, hl⟩
      · rintro ⟨hj, hl⟩
        exact ⟨j, hj, hl, rfl⟩
    rw [hsame, Regex.reach, List.getElem?_zipWith]
    cases hp : ps[j]? with
    | none => simp
    | some p =>
        have hj : j ≤ text.length := by
          have := (List.getElem?_eq_some_iff.1 hp).1
          omega
        rw [getElem?_neighbours text hj]
        simp

theorem spans_le (r : Regex) : ∀ i j, r.Spans text i j → i ≤ j := by
  induction r with
  | empty => exact fun i j h => Nat.le_of_eq h
  | chars s =>
      rintro i j ⟨c, -, -, rfl⟩
      exact Nat.le_succ i
  | look l => exact fun i j h => Nat.le_of_eq h.2
  | seq a b iha ihb =>
      rintro i j ⟨k, hk, hj⟩
      exact Nat.le_trans (iha i k hk) (ihb k j hj)
  | alt a b iha ihb => exact fun i j h => h.elim (iha i j) (ihb i j)
  | repeated min max body ih =>
      rintro i j ⟨count, -, -, hj⟩
      exact le_of_times ih hj

/-- So many rounds of a step that may be left out, after others that may not. -/
theorem times_rounds (min rounds : Nat) :
    (∃ k, Times R min i k ∧ Times (fun i j => i = j ∨ R i j) rounds k j) ↔
      ∃ count, min ≤ count ∧ count ≤ min + rounds ∧ Times R count i j := by
  simp only [times_or_eq]
  constructor
  · rintro ⟨k, hk, more, hmore, hj⟩
    exact ⟨min + more, Nat.le_add_right _ _, Nat.add_le_add_left hmore _,
      (times_add min more).2 ⟨k, hk, hj⟩⟩
  · rintro ⟨count, hmin, hrounds, hj⟩
    obtain ⟨more, rfl⟩ := Nat.exists_eq_add_of_le hmin
    obtain ⟨k, hk, hj⟩ := (times_add min more).1 hj
    exact ⟨k, hk, more, Nat.le_of_add_le_add_left hrounds, hj⟩

/-- The matcher leads from a set of places to those where a match may end that starts in it. -/
theorem Regex.follows_reach (text : List Char) (r : Regex) :
    Follows (text.length + 1) (r.reach text) (r.Spans text) := by
  induction r with
  | empty => exact .id
  | chars s => exact follows_stepOver s text
  | look l => exact follows_look l text
  | seq a b iha ihb => exact iha.comp ihb
  | alt a b iha ihb => exact iha.union ihb
  | repeated min max body ih =>
      have hmore : Follows (text.length + 1)
          (fun ps => Places.union ps (body.reach text ps)) fun i j => i = j ∨ body.Spans text i j :=
        Follows.id.union ih
      have hrounds : ∀ rounds, Follows (text.length + 1)
          (fun ps => iterate (fun qs => Places.union qs (body.reach text qs)) rounds
            (iterate (body.reach text) min ps))
          fun i j => ∃ count, min ≤ count ∧ count ≤ min + rounds ∧
            Times (body.Spans text) count i j := by
        intro rounds
        have hboth := (ih.iterate min).comp (hmore.iterate rounds)
        simp only [times_rounds] at hboth
        simp only [iterate_eq]
        exact hboth
      cases max with
      | some m =>
          refine (hrounds (m - min)).congr fun i j _ => exists_congr fun count => ?_
          have hmax : min + (m - min) = Max.max min m := by omega
          rw [hmax]
          simp only [Option.mem_some_iff, forall_eq']
      | none =>
          refine (hrounds (text.length + 1)).congr fun i j hi => ⟨?_, ?_⟩
          · rintro ⟨count, hmin, -, hj⟩
            exact ⟨count, hmin, nofun, hj⟩
          · rintro ⟨count, hmin, -, hj⟩
            have hend := (ih.iterate count).lt hj hi
            obtain ⟨more, rfl⟩ := Nat.exists_eq_add_of_le hmin
            obtain ⟨k, hk, hj⟩ := (times_add min more).1 hj
            obtain ⟨fewer, hfewer, hj⟩ := exists_times_le (spans_le body) hj
            exact ⟨min + fewer, Nat.le_add_right _ _, by omega, (times_add ..).2 ⟨k, hk, hj⟩⟩

/-- A pattern matches a part of a text if and only if it matches from some place of it to
another. -/
theorem Regex.matchesIn_iff (text : List Char) (r : Regex) :
    r.matchesIn text = true ↔ ∃ i j, i ≤ text.length ∧ r.Spans text i j := by
  have hstart : ∀ i : Nat, (List.replicate (text.length + 1) true)[i]? = some true ↔
      i ≤ text.length := by
    intro i
    rw [List.getElem?_replicate, ← Nat.lt_succ_iff]
    simp
  have hreached := (r.follows_reach text).reached _ (List.length_replicate (a := true))
  simp only [hstart] at hreached
  rw [matchesIn, List.any_eq_true]
  simp only [id_eq, exists_eq_right, List.mem_iff_getElem?, hreached]
  rw [exists_comm]

end PageLayout.Pattern
