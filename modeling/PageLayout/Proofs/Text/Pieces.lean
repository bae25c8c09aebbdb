import Mathlib.Data.List.TakeWhile
import PageLayout.Decimal.Reader
import PageLayout.Text.Blank

/-!
# How texts are cut

What the functions that cut texts do with a text that was put together from pieces: a
piece whose characters are of one class is cut off whole, and nothing is cut off a piece
that has none of them at its ends.

A text is `Trimmed` if there are no blanks at its ends, and a `Word` if there are none in
it at all.  Words with single spaces between them are the words of their text again.
-/

namespace PageLayout.Text

/-! ## Runs of characters -/

section Runs

variable {α : Type} {p : α → Bool} {run rest : List α}

/-- A run ends where a character is of another class. -/
theorem takeWhile_run (hrun : ∀ c ∈ run, p c = true) (hrest : ∀ c ∈ rest.head?, p c = false) :
    (run ++ rest).takeWhile p = run := by
  rw [List.takeWhile_append_of_pos hrun]
  cases rest with
  | nil => rw [List.takeWhile_nil, List.append_nil]
  | cons c rest => simp [hrest c rfl]

/-- What follows a run starts where a character is of another class. -/
theorem dropWhile_run (hrun : ∀ c ∈ run, p c = true) (hrest : ∀ c ∈ rest.head?, p c = false) :
    (run ++ rest).dropWhile p = rest := by
  rw [List.dropWhile_append_of_pos hrun]
  cases rest with
  | nil => rfl
  | cons c rest => simp [hrest c rfl]

/-- A run is not longer with a character of another class after the text. -/
theorem takeWhile_append_stop {b : α} (hb : p b = false) (cs rest : List α) :
    (cs ++ b :: rest).takeWhile p = cs.takeWhile p := by
  induction cs with
  | nil => exact List.takeWhile_cons_of_neg (Bool.eq_false_iff.1 hb)
  | cons c cs ih => rw [List.cons_append, List.takeWhile_cons, List.takeWhile_cons, ih]

theorem dropWhile_append_stop {b : α} (hb : p b = false) (cs rest : List α) :
    (cs ++ b :: rest).dropWhile p = cs.dropWhile p ++ b :: rest := by
  induction cs with
  | nil => exact List.dropWhile_cons_of_neg (Bool.eq_false_iff.1 hb)
  | cons c cs ih =>
      rw [List.cons_append, List.dropWhile_cons, List.dropWhile_cons, ih]
      split <;> rfl

end Runs

section Ends

variable {p : Char → Bool} {cs : List Char}

/-- Nothing is dropped from a text that ends in a character of another class. -/
theorem dropEndWhile_of_getLast (h : ∀ c ∈ cs.getLast?, p c = false) : dropEndWhile p cs = cs := by
  induction cs with
  | nil => rfl
  | cons c cs ih =>
      cases cs with
      | nil => simp [dropEndWhile, h c rfl]
      | cons d ds =>
          rw [dropEndWhile, ih fun e he => h e (by rwa [List.getLast?_cons_cons])]

/-- What is left after dropping characters at the end is at the start of the text. -/
theorem dropEndWhile_isPrefix (p : Char → Bool) (cs : List Char) : dropEndWhile p cs <+: cs := by
  induction cs with
  | nil => exact List.nil_prefix
  | cons c cs ih =>
      rw [dropEndWhile]
      split
      next =>
        split
        next => exact List.nil_prefix
        next => exact ⟨cs, rfl⟩
      next heq => exact List.cons_prefix_cons.mpr ⟨rfl, heq ▸ ih⟩

/-- What is left ends in a character of another class. -/
theorem getLast_dropEndWhile (p : Char → Bool) (cs : List Char) :
    ∀ c ∈ (dropEndWhile p cs).getLast?, p c = false := by
  induction cs with
  | nil => exact nofun
  | cons c cs ih =>
      rw [dropEndWhile]
      split
      next =>
        split
        next => exact nofun
        next h =>
          intro d hd
          cases hd
          exact Bool.eq_false_iff.mpr h
      next heq =>
        rw [List.getLast?_cons_cons, ← heq]
        exact ih

end Ends

/-! ## Texts without blanks at their ends -/

/-- A text has no blanks at its ends. -/
structure Trimmed (cs : List Char) : Prop where
  head : ∀ c ∈ cs.head?, isBlank c = false
  last : ∀ c ∈ cs.getLast?, isBlank c = false

namespace Trimmed

variable {cs ds : List Char}

theorem nil : Trimmed [] := ⟨nofun, nofun⟩

theorem trimStart (h : Trimmed cs) : Text.trimStart cs = cs :=
  @dropWhile_run _ _ [] cs nofun h.head

/-- Nothing is cut off. -/
theorem trim (h : Trimmed cs) : Text.trim cs = cs := by
  rw [Text.trim, h.trimStart, trimEnd, dropEndWhile_of_getLast h.last]

/-- The ends are the ends of the outer parts. -/
theorem around (hc : Trimmed cs) (hd : Trimmed ds) (hcs : cs ≠ []) (hds : ds ≠ [])
    (between : List Char) : Trimmed (cs ++ (between ++ ds)) := by
  constructor
  · intro c h
    rw [List.head?_append, List.head?_eq_some_head hcs, Option.some_or,
      ← List.head?_eq_some_head hcs] at h
    exact hc.head c h
  · intro c h
    rw [← List.append_assoc, List.getLast?_append, List.getLast?_eq_some_getLast hds,
      Option.some_or, ← List.getLast?_eq_some_getLast hds] at h
    exact hd.last c h

end Trimmed

/-- A text that was trimmed has no blanks at its ends. -/
theorem trimmed_trim (cs : List Char) : Trimmed (trim cs) := by
  refine ⟨?_, getLast_dropEndWhile isBlank _⟩
  intro c hc
  obtain ⟨rest, hrest⟩ := dropEndWhile_isPrefix isBlank (trimStart cs)
  have hstart := List.head?_dropWhile_not isBlank cs
  have hhead : (cs.dropWhile isBlank).head? = some c := by
    rw [show cs.dropWhile isBlank = trim cs ++ rest from hrest.symm, List.head?_append,
      Option.mem_def.mp hc, Option.some_or]
  rw [hhead] at hstart
  exact hstart

theorem trimmed_iff {cs : List Char} : Trimmed cs ↔ trim cs = cs :=
  ⟨Trimmed.trim, fun h => h ▸ trimmed_trim cs⟩

/-- A blank in front is cut off. -/
theorem trim_blank {b : Char} (h : isBlank b = true) (cs : List Char) :
    trim (b :: cs) = trim cs := by
  rw [trim, trim, trimStart, trimStart, List.dropWhile_cons_of_pos h]

theorem intercalate_ne_nil (sep : List Char) {ts : List (List Char)} (h : ∀ t ∈ ts, t ≠ [])
    (hts : ts ≠ []) : sep.intercalate ts ≠ [] := by
  cases ts with
  | nil => exact absurd rfl hts
  | cons t ts =>
      have ht := h t List.mem_cons_self
      cases ts with
      | nil => rwa [List.intercalate_singleton]
      | cons u us =>
          rw [List.intercalate_cons_cons, List.append_assoc]
          exact List.append_ne_nil_of_left_ne_nil ht _

/-- Parts without blanks at their ends, with a separator between them, have no blanks at
the ends. -/
theorem trimmed_intercalate (sep : List Char) {ts : List (List Char)}
    (h : ∀ t ∈ ts, t ≠ [] ∧ Trimmed t) : Trimmed (sep.intercalate ts) := by
  induction ts with
  | nil => exact .nil
  | cons t ts ih =>
      obtain ⟨hne, ht⟩ := h t List.mem_cons_self
      have hts : ∀ u ∈ ts, u ≠ [] ∧ Trimmed u := fun u hu => h u (List.mem_cons_of_mem t hu)
      cases ts with
      | nil => rwa [List.intercalate_singleton]
      | cons u us =>
          have hrest := intercalate_ne_nil sep (fun v hv => (hts v hv).1) (List.cons_ne_nil u us)
          rw [List.intercalate_cons_cons, List.append_assoc]
          exact ht.around (ih hts) hne hrest sep

/-! ## Words -/

/-- A text has a character, and no blanks. -/
structure Word (w : List Char) : Prop where
  ne_nil : w ≠ []
  ink : ∀ c ∈ w, isBlank c = false

namespace Word

variable {w : List Char}

/-- Words are recognized by looking at each character. -/
theorem of_all (hne : w ≠ []) (h : w.all isInk = true) : Word w :=
  ⟨hne, fun c hc => (Bool.not_eq_true' _).mp (List.all_eq_true.mp h c hc)⟩

theorem trimmed (h : Word w) : Trimmed w :=
  ⟨fun c hc => h.ink c (List.mem_of_mem_head? hc), fun c hc => h.ink c (List.mem_of_getLast? hc)⟩

end Word

section Pieces

variable {p : Char → Bool} {c : Char} {run rest : List Char}

/-- A text without a separator is one piece. -/
theorem splitAt_run (h : ∀ c ∈ run, p c = false) : splitAt p run = [run] := by
  induction run with
  | nil => rfl
  | cons d ds ih =>
      rw [splitAt, h d List.mem_cons_self, ih fun e he => h e (List.mem_cons_of_mem d he)]
      rfl

/-- The first piece ends at the first separator. -/
theorem splitAt_append (h : ∀ c ∈ run, p c = false) (hc : p c = true) :
    splitAt p (run ++ c :: rest) = run :: splitAt p rest := by
  induction run with
  | nil => rw [List.nil_append, splitAt, if_pos hc]
  | cons d ds ih =>
      rw [List.cons_append, splitAt, h d List.mem_cons_self,
        ih fun e he => h e (List.mem_cons_of_mem d he)]
      rfl

end Pieces

/-- Pieces with a comma and a space between them are the pieces between the commas again, but
for the spaces. -/
theorem splitAt_intercalate {ts : List (List Char)} {t : List Char} {c b : Char}
    (h : ∀ u ∈ t :: ts, c ∉ u) (hb : b ≠ c) :
    splitAt (· == c) ([c, b].intercalate (t :: ts)) = t :: ts.map (b :: ·) := by
  have ht : ∀ d ∈ t, (d == c) = false := fun d hd =>
    beq_eq_false_iff_ne.mpr fun heq => h t List.mem_cons_self (heq ▸ hd)
  induction ts generalizing t with
  | nil => rw [List.intercalate_singleton, splitAt_run ht, List.map_nil]
  | cons u ts ih =>
      have hus : ∀ v ∈ u :: ts, c ∉ v := fun v hv => h v (List.mem_cons_of_mem t hv)
      have hu : ∀ d ∈ u, (d == c) = false := fun d hd =>
        beq_eq_false_iff_ne.mpr fun heq => hus u List.mem_cons_self (heq ▸ hd)
      rw [List.intercalate_cons_cons, List.append_assoc, List.cons_append, List.singleton_append,
        splitAt_append ht (beq_self_eq_true c), splitAt, if_neg (by simpa using hb), ih hus hu]
      rfl

section Words

variable {b : Char} {w rest : List Char}

theorem words_blank (hb : isBlank b = true) (cs : List Char) : words (b :: cs) = words cs := by
  rw [words, splitAt, if_pos hb]
  rfl

theorem words_word (h : Word w) : words w = [w] := by
  rw [words, splitAt_run h.ink]
  exact List.filter_cons_of_pos (by simpa using h.ne_nil)

theorem words_append (h : Word w) (hb : isBlank b = true) :
    words (w ++ b :: rest) = w :: words rest := by
  rw [words, splitAt_append h.ink hb]
  exact List.filter_cons_of_pos (by simpa using h.ne_nil)

theorem firstWord_append (h : Word w) (hrest : ∀ c ∈ rest.head?, isBlank c = true) :
    firstWord (w ++ rest) = (w, trim rest) := by
  have hink : ∀ c ∈ w, isInk c = true := fun c hc => by rw [isInk, h.ink c hc, Bool.not_false]
  have hblank : ∀ c ∈ rest.head?, isInk c = false := fun c hc => by
    rw [isInk, hrest c hc, Bool.not_true]
  have hstart : trimStart (w ++ rest) = w ++ rest := by
    refine @dropWhile_run _ _ [] (w ++ rest) nofun fun c hc => ?_
    rw [List.head?_append, List.head?_eq_some_head h.ne_nil, Option.some_or,
      ← List.head?_eq_some_head h.ne_nil] at hc
    exact h.trimmed.head c hc
  rw [firstWord, hstart, takeWhile_run hink hblank, dropWhile_run hink hblank]

/-- Words with single spaces between them. -/
def spaced (ws : List (List Char)) : List Char := [' '].intercalate ws

@[simp] theorem spaced_singleton (w : List Char) : spaced [w] = w := List.intercalate_singleton

theorem spaced_cons_cons (w v : List Char) (ws : List (List Char)) :
    spaced (w :: v :: ws) = w ++ ' ' :: spaced (v :: ws) := by
  rw [spaced, spaced, List.intercalate_cons_cons, List.append_assoc, List.singleton_append]

/-- Each part with a space before it. -/
theorem cons_spaced (w : List Char) (ws : List (List Char)) :
    ' ' :: spaced (w :: ws) = (w :: ws).flatMap (' ' :: ·) := by
  induction ws generalizing w with
  | nil => simp
  | cons v ws ih => rw [spaced_cons_cons, ih, List.flatMap_cons]; rfl

theorem spaced_concat {ws : List (List Char)} (h : ws ≠ []) (w : List Char) :
    spaced (ws ++ [w]) = spaced ws ++ ' ' :: w := by
  induction ws with
  | nil => exact absurd rfl h
  | cons v ws ih =>
      cases ws with
      | nil => rw [List.singleton_append, spaced_cons_cons, spaced_singleton, spaced_singleton]
      | cons u us =>
          rw [List.cons_append, List.cons_append, spaced_cons_cons, ← List.cons_append,
            ih (List.cons_ne_nil u us), spaced_cons_cons, List.append_assoc, List.cons_append]

theorem mem_spaced {ws : List (List Char)} {c : Char} (h : c ∈ spaced ws) :
    c = ' ' ∨ ∃ w ∈ ws, c ∈ w := by
  induction ws with
  | nil => cases h
  | cons w ws ih =>
      cases ws with
      | nil => exact .inr ⟨w, List.mem_cons_self, spaced_singleton w ▸ h⟩
      | cons v ws =>
          rw [spaced_cons_cons, List.mem_append, List.mem_cons] at h
          obtain h | h | h := h
          · exact .inr ⟨w, List.mem_cons_self, h⟩
          · exact .inl h
          · exact (ih h).imp_right fun ⟨u, hu, hc⟩ => ⟨u, List.mem_cons_of_mem w hu, hc⟩

/-- The words of words with spaces between them. -/
theorem words_spaced {ws : List (List Char)} (h : ∀ w ∈ ws, Word w) : words (spaced ws) = ws := by
  induction ws with
  | nil => rfl
  | cons w ws ih =>
      cases ws with
      | nil => rw [spaced_singleton, words_word (h w List.mem_cons_self)]
      | cons v ws =>
          rw [spaced_cons_cons, words_append (h w List.mem_cons_self) (by decide),
            ih fun u hu => h u (List.mem_cons_of_mem w hu)]

/-- Words with spaces between them have no blanks at their ends. -/
theorem trimmed_spaced {ws : List (List Char)} (h : ∀ w ∈ ws, Word w) : Trimmed (spaced ws) :=
  trimmed_intercalate [' '] fun w hw => ⟨(h w hw).ne_nil, (h w hw).trimmed⟩

end Words

/-! ## Beginnings, ends and separators -/

theorem dropPrefix?_append (ps rest : List Char) : dropPrefix? ps (ps ++ rest) = some rest := by
  induction ps with
  | nil => rfl
  | cons p ps ih => rw [List.cons_append, dropPrefix?, if_pos rfl, ih]

theorem dropSuffix?_append (cs suffix : List Char) :
    dropSuffix? suffix (cs ++ suffix) = some cs := by
  rw [dropSuffix?, List.reverse_append, dropPrefix?_append, Option.map_some, List.reverse_reverse]

/-- A text without the last character of a suffix does not end in it. -/
theorem dropSuffix?_eq_none {cs : List Char} {d : Char} (suffix : List Char) (h : d ∉ cs) :
    dropSuffix? (suffix ++ [d]) cs = none := by
  rw [dropSuffix?, List.reverse_append, List.reverse_singleton, List.singleton_append]
  cases hcs : cs.reverse with
  | nil => rfl
  | cons c ds =>
      have hc : c ∈ cs := List.mem_reverse.mp (hcs ▸ List.mem_cons_self)
      have hne : d ≠ c := fun heq => h (heq ▸ hc)
      exact congrArg (Option.map List.reverse) (if_neg hne)

section Separators

variable {s : Char} {sep before after cs : List Char}

/-- A text is cut where the first character of the separator occurs first. -/
theorem splitOnce_append (h : s ∉ before) :
    splitOnce (s :: sep) (before ++ (s :: sep ++ after)) = some (before, after) := by
  induction before with
  | nil => rw [List.nil_append, List.cons_append, splitOnce, ← List.cons_append, dropPrefix?_append]
  | cons c before ih =>
      have hne : s ≠ c := fun heq => h (heq ▸ List.mem_cons_self)
      have hnone : dropPrefix? (s :: sep) (c :: (before ++ (s :: sep ++ after))) = none := if_neg hne
      rw [List.cons_append, splitOnce, hnone, ih fun hs => h (List.mem_cons_of_mem c hs)]
      rfl

theorem splitOnce_eq_none (h : s ∉ cs) : splitOnce (s :: sep) cs = none := by
  induction cs with
  | nil => rfl
  | cons c cs ih =>
      have hne : s ≠ c := fun heq => h (heq ▸ List.mem_cons_self)
      have hnone : dropPrefix? (s :: sep) (c :: cs) = none := if_neg hne
      rw [splitOnce, hnone, ih fun hs => h (List.mem_cons_of_mem c hs)]
      rfl

/-- What a text is cut into at a character: the part before has no such character. -/
theorem eq_append_of_splitOnce (h : splitOnce [s] cs = some (before, after)) :
    cs = before ++ s :: after ∧ s ∉ before := by
  by_cases hs : s ∈ cs
  · obtain ⟨first, rest, rfl, hfirst⟩ := List.eq_append_cons_of_mem hs
    have hcut : splitOnce [s] (first ++ s :: rest) = some (first, rest) := splitOnce_append hfirst
    rw [hcut] at h
    cases h
    exact ⟨rfl, hfirst⟩
  · rw [splitOnce_eq_none hs] at h
    cases h

end Separators

end PageLayout.Text

namespace PageLayout.Decimal

/-! ## Digits -/

/-- The digits. -/
def digitChars : List Char := ['0', '1', '2', '3', '4', '5', '6', '7', '8', '9']

/-- What holds of all digits holds of a digit. -/
theorem all_of_isDigit {p : Char → Bool} {c : Char} (hp : digitChars.all p = true)
    (h : isDigit c = true) : p c = true := by
  rw [isDigit, Bool.and_eq_true, decide_eq_true_eq, decide_eq_true_eq] at h
  have h0 : 48 ≤ c.toNat := h.1
  have h9 : c.toNat ≤ 57 := h.2
  have hmem : c.toNat ∈ [48, 49, 50, 51, 52, 53, 54, 55, 56, 57] := by
    simp only [List.mem_cons, List.not_mem_nil, or_false]
    omega
  have hc : c ∈ digitChars := by
    rw [← Char.ofNat_toNat c]
    exact List.mem_map_of_mem hmem
  exact List.all_eq_true.mp hp c hc

end PageLayout.Decimal
