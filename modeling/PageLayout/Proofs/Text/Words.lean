import Mathlib.Data.List.Induction
import PageLayout.Proofs.Text.Rows

/-!
# The words of a text

The words of a text are cut at its blanks, and how many blanks stand between two words does not
matter.  So the words on both sides of a blank can be looked at apart (`words_append_blank`), and
blanks at the ends of a text do not count (`words_trim`).  A character in front of a text either is
a word of its own or belongs to the first word (`words_cons`).
-/

namespace PageLayout.Text

variable {b c : Char} {blanks cs ds w : List Char}

/-- What does not depend on blanks at either end is the same without them. -/
theorem apply_trim {α : Type} {f : List Char → α}
    (hstart : ∀ b cs, isBlank b = true → f (b :: cs) = f cs)
    (hend : ∀ b cs, isBlank b = true → f (cs ++ [b]) = f cs) (cs : List Char) :
    f (trim cs) = f cs := by
  have htrimStart : f (trimStart cs) = f cs := by
    induction cs with
    | nil => rfl
    | cons c cs ih =>
        cases hc : isBlank c with
        | true =>
            rw [trimStart, List.dropWhile_cons_of_pos hc, hstart c cs hc]
            exact ih
        | false => rw [trimStart, List.dropWhile_cons_of_neg (Bool.eq_false_iff.1 hc)]
  rw [trim, ← htrimStart]
  generalize trimStart cs = ds
  induction ds using List.reverseRecOn with
  | nil => rfl
  | append_singleton ds d ih =>
      cases hd : isBlank d with
      | true =>
          rw [trimEnd, dropEndWhile_concat hd, hend d ds hd]
          exact ih
      | false =>
          rw [trimEnd, dropEndWhile_of_getLast]
          intro c hc
          rw [List.getLast?_concat] at hc
          cases hc
          exact hd

/-- Characters at the end are dropped together. -/
theorem dropEndWhile_append_run {p : Char → Bool} {run : List Char} (h : ∀ c ∈ run, p c = true)
    (cs : List Char) : dropEndWhile p (cs ++ run) = dropEndWhile p cs := by
  induction run generalizing cs with
  | nil => rw [List.append_nil]
  | cons c run ih =>
      obtain ⟨hc, hrun⟩ := List.forall_mem_cons.1 h
      rw [List.append_cons, ih hrun, dropEndWhile_concat hc]

/-- What is dropped at the end of a text is of the class. -/
theorem exists_eq_dropEndWhile_append (p : Char → Bool) (cs : List Char) :
    ∃ run, (∀ c ∈ run, p c = true) ∧ cs = dropEndWhile p cs ++ run := by
  induction cs with
  | nil => exact ⟨[], nofun, rfl⟩
  | cons c cs ih =>
      obtain ⟨run, hrun, hcs⟩ := ih
      rw [dropEndWhile]
      cases hrest : dropEndWhile p cs with
      | nil =>
          rw [hrest, List.nil_append] at hcs
          cases hc : p c with
          | true => exact ⟨c :: cs, List.forall_mem_cons.2 ⟨hc, hcs ▸ hrun⟩, rfl⟩
          | false => exact ⟨cs, hcs ▸ hrun, rfl⟩
      | cons d ds =>
          refine ⟨run, hrun, ?_⟩
          dsimp only
          rw [List.cons_append, ← hrest, ← hcs]

theorem mem_of_mem_trim (h : c ∈ trim cs) : c ∈ cs :=
  (List.dropWhile_sublist _).subset ((dropEndWhile_isPrefix isBlank _).subset h)

/-! ## Where words are cut -/

/-- Every text has a first piece. -/
theorem exists_splitAt (p : Char → Bool) (cs : List Char) :
    ∃ piece pieces, splitAt p cs = piece :: pieces := by
  cases cs with
  | nil => exact ⟨[], [], rfl⟩
  | cons c cs =>
      rw [splitAt]
      split
      next => exact ⟨[], _, rfl⟩
      next => split <;> exact ⟨_, _, rfl⟩

theorem splitAt_append_of_pos {p : Char → Bool} (hb : p b = true) (cs ds : List Char) :
    splitAt p (cs ++ b :: ds) = splitAt p cs ++ splitAt p ds := by
  induction cs with
  | nil =>
      show splitAt p (b :: ds) = [] :: splitAt p ds
      rw [splitAt, if_pos hb]
  | cons c cs ih =>
      obtain ⟨piece, pieces, hcs⟩ := exists_splitAt p cs
      rw [List.cons_append, splitAt, splitAt, ih, hcs]
      split
      next => rfl
      next => rfl

/-- The words before a blank and those after it. -/
theorem words_append_blank (hb : isBlank b = true) (cs ds : List Char) :
    words (cs ++ b :: ds) = words cs ++ words ds := by
  rw [words, splitAt_append_of_pos hb, List.filter_append]
  rfl

theorem words_allBlank_append (h : ∀ b ∈ blanks, isBlank b = true) (cs : List Char) :
    words (blanks ++ cs) = words cs := by
  induction blanks with
  | nil => rfl
  | cons b blanks ih =>
      obtain ⟨hb, hblanks⟩ := List.forall_mem_cons.1 h
      rw [List.cons_append, words_blank hb, ih hblanks]

theorem words_concat (hb : isBlank b = true) (cs : List Char) : words (cs ++ [b]) = words cs := by
  rw [words_append_blank hb]
  exact List.append_nil _

/-- Blanks at the ends of a text are in no word. -/
theorem words_trim (cs : List Char) : words (trim cs) = words cs :=
  apply_trim (fun _ cs hb => words_blank hb cs) (fun _ cs hb => words_concat hb cs) cs

/-- A character in front of a text is a word of its own, or it belongs to the first word. -/
theorem words_cons (hc : isBlank c = false) (cs : List Char) :
    words (c :: cs) = [c] :: words cs ∨
      ∃ w ws, words cs = w :: ws ∧ words (c :: cs) = (c :: w) :: ws := by
  obtain ⟨piece, pieces, hcs⟩ := exists_splitAt isBlank cs
  unfold words
  rw [splitAt, hc, hcs]
  cases piece with
  | nil => exact .inl rfl
  | cons d ds => exact .inr ⟨d :: ds, _, rfl, rfl⟩

/-- A character is blank or stands in a word. -/
theorem isBlank_or_mem_words (hc : c ∈ cs) : isBlank c = true ∨ ∃ w ∈ words cs, c ∈ w := by
  induction cs with
  | nil => cases hc
  | cons d cs ih =>
      cases hd : isBlank d with
      | true =>
          rw [words_blank hd]
          obtain rfl | hc := List.mem_cons.1 hc
          · exact .inl hd
          · exact ih hc
      | false =>
          obtain hwords | ⟨w, ws, hcs, hwords⟩ := words_cons hd cs
          · rw [hwords]
            obtain rfl | hc := List.mem_cons.1 hc
            · exact .inr ⟨[c], List.mem_cons_self, List.mem_singleton_self c⟩
            · exact (ih hc).imp_right fun ⟨w, hw, hmem⟩ => ⟨w, List.mem_cons_of_mem _ hw, hmem⟩
          · rw [hwords]
            rw [hcs] at ih
            obtain rfl | hc := List.mem_cons.1 hc
            · exact .inr ⟨c :: w, List.mem_cons_self, List.mem_cons_self⟩
            · refine (ih hc).imp_right fun ⟨v, hv, hmem⟩ => ?_
              obtain rfl | hv := List.mem_cons.1 hv
              · exact ⟨d :: v, List.mem_cons_self, List.mem_cons_of_mem d hmem⟩
              · exact ⟨v, List.mem_cons_of_mem _ hv, hmem⟩

/-- Words without anything between them are one word. -/
theorem Word.append {v : List Char} (hw : Word w) (hv : Word v) : Word (w ++ v) :=
  ⟨List.append_ne_nil_of_left_ne_nil hw.ne_nil v, fun c hc =>
    (List.mem_append.1 hc).elim (hw.ink c) (hv.ink c)⟩

/-- A word, some blanks and another word. -/
theorem words_pair {v : List Char} (hw : Word w) (hv : Word v) (hne : blanks ≠ [])
    (h : ∀ b ∈ blanks, isBlank b = true) : words (w ++ (blanks ++ v)) = [w, v] := by
  obtain ⟨b, blanks, rfl⟩ := List.exists_cons_of_ne_nil hne
  obtain ⟨hb, hblanks⟩ := List.forall_mem_cons.1 h
  rw [List.cons_append, words_append hw hb, words_allBlank_append hblanks, words_word hv]

/-- A character in front of the first of some words stands in front of their text. -/
theorem spaced_cons_head (c : Char) (w : List Char) (ws : List (List Char)) :
    spaced ((c :: w) :: ws) = c :: spaced (w :: ws) := by
  cases ws with
  | nil => rw [spaced_singleton, spaced_singleton]
  | cons v ws => rw [spaced_cons_cons, spaced_cons_cons, List.cons_append]

/-- Some words with single spaces between them, and some more after them. -/
theorem spaced_append {ws vs : List (List Char)} (hws : ws ≠ []) (hvs : vs ≠ []) :
    spaced (ws ++ vs) = spaced ws ++ ' ' :: spaced vs := by
  induction ws with
  | nil => exact absurd rfl hws
  | cons w ws ih =>
      cases ws with
      | nil =>
          obtain ⟨v, vs, rfl⟩ := List.exists_cons_of_ne_nil hvs
          rw [List.singleton_append, spaced_cons_cons, spaced_singleton]
      | cons u ws =>
          rw [List.cons_append, List.cons_append, spaced_cons_cons, ← List.cons_append,
            ih (List.cons_ne_nil u ws), spaced_cons_cons, List.append_assoc, List.cons_append]

end PageLayout.Text
