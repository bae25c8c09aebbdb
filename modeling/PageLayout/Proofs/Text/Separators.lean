import PageLayout.Proofs.Compilation.Filled
import PageLayout.Proofs.Text.Words

/-!
# Texts with separators and blanks

Blanks at the ends of a text are cut off together (`trim_between`), and what is cut off at the end
never goes beyond a character that stays (`dropEndWhile_append`).

A text that was put together with a separator is cut apart at it again, once
(`splitOnce_append_second`) or everywhere (`splitAt_join`).  Where a text is cut does not depend on
what follows it (`splitOnce_append_of_some`), and a text that is not cut does not matter for what
follows it (`splitOnce_append_of_none`).
-/

namespace PageLayout.Text

/-! ## Blanks around a text -/

/-- A text has nothing but blanks. -/
abbrev AllBlank (cs : List Char) : Prop := ∀ b ∈ cs, isBlank b = true

variable {blanks sep before after cs : List Char} {s t : Char}

theorem AllBlank.notMem {d : Char} (h : AllBlank blanks) (hd : isBlank d = false) : d ∉ blanks :=
  fun hmem => by
    rw [h d hmem] at hd
    cases hd

/-- The blanks in front of a text are cut off, if it starts with something else. -/
theorem trimStart_append (h : AllBlank blanks) (hcs : ∀ c ∈ cs.head?, isBlank c = false) :
    trimStart (blanks ++ cs) = cs := dropWhile_run h hcs

theorem trim_allBlank_append (h : AllBlank blanks) (cs : List Char) :
    trim (blanks ++ cs) = trim cs := by
  induction blanks with
  | nil => rfl
  | cons b blanks ih =>
      obtain ⟨hb, hblanks⟩ := List.forall_mem_cons.1 h
      rw [List.cons_append, trim_blank hb, ih hblanks]

theorem trim_append_allBlank (h : AllBlank blanks) (cs : List Char) :
    trim (cs ++ blanks) = trim cs := by
  induction blanks generalizing cs with
  | nil => rw [List.append_nil]
  | cons b blanks ih =>
      obtain ⟨hb, hblanks⟩ := List.forall_mem_cons.1 h
      rw [List.append_cons, ih hblanks, trim_concat hb]

/-- What stands between blanks is what is left of a text without them. -/
theorem trim_between (hbefore : AllBlank before) (hafter : AllBlank after) (h : Trimmed cs) :
    trim (before ++ (cs ++ after)) = cs := by
  rw [trim_allBlank_append hbefore, trim_append_allBlank hafter, h.trim]

theorem trim_trimEnd (cs : List Char) : trim (trimEnd cs) = trim cs := by
  induction cs using List.reverseRecOn with
  | nil => rfl
  | append_singleton cs b ih =>
      cases hb : isBlank b with
      | true => rw [trimEnd, dropEndWhile_concat hb, trim_concat hb, ← ih, trimEnd]
      | false =>
          refine congrArg trim (dropEndWhile_of_getLast fun c hc => ?_)
          rw [List.getLast?_concat] at hc
          cases hc
          exact hb

/-- Nothing is dropped in front of a character that stays. -/
theorem dropEndWhile_append {p : Char → Bool} {c : Char} (hc : p c = false) (before cs : List Char) :
    dropEndWhile p (before ++ c :: cs) = before ++ c :: dropEndWhile p cs := by
  induction before with
  | nil =>
      rw [List.nil_append, List.nil_append, dropEndWhile]
      cases dropEndWhile p cs with
      | nil => exact if_neg (Bool.eq_false_iff.1 hc)
      | cons d ds => rfl
  | cons d before ih =>
      rw [List.cons_append, dropEndWhile, ih]
      cases before <;> rfl

/-! ## Separators -/

/-- A text is cut at a separator if the second character of the separator is not in front. -/
theorem splitOnce_append_second (hst : s ≠ t) (h : t ∉ before) :
    splitOnce (s :: t :: sep) (before ++ (s :: t :: sep ++ after)) = some (before, after) := by
  induction before with
  | nil => rw [List.nil_append, List.cons_append, splitOnce, ← List.cons_append, dropPrefix?_append]
  | cons c before ih =>
      obtain ⟨-, hbefore⟩ := not_or.1 (mt List.mem_cons.2 h)
      have hnone : dropPrefix? (s :: t :: sep) (c :: (before ++ (s :: t :: sep ++ after))) = none := by
        rw [dropPrefix?]
        split
        next =>
          cases before with
          | nil => exact if_neg hst.symm
          | cons d before =>
              have hne : t ≠ d := fun heq => hbefore (heq ▸ List.mem_cons_self)
              exact if_neg hne
        next => rfl
      rw [List.cons_append, splitOnce, hnone, ih hbefore]
      rfl

/-- A text is not cut if some character of the separator is not in it. -/
theorem splitOnce_eq_none_of_notMem (d : Char) (hsep : d ∈ sep) (h : d ∉ cs) :
    splitOnce sep cs = none := by
  induction cs with
  | nil => rfl
  | cons c cs ih =>
      rw [splitOnce]
      split
      next rest heq =>
        have hcs := Placeholder.eq_of_dropPrefix? heq
        exact absurd (hcs ▸ List.mem_append_left rest hsep) h
      next => rw [ih fun hd => h (List.mem_cons_of_mem c hd)]; rfl

/-- An end that is cut off a text stands at its end. -/
theorem eq_append_of_dropSuffix?_eq_some {suffix : List Char}
    (h : dropSuffix? suffix cs = some before) : cs = before ++ suffix := by
  obtain ⟨rest, hrest, rfl⟩ := Option.map_eq_some_iff.1 h
  rw [← List.reverse_inj, Placeholder.eq_of_dropPrefix? hrest, List.reverse_append,
    List.reverse_reverse]

/-- The separator stands between the parts that a text is cut into. -/
theorem eq_append_of_splitOnce_eq_some (h : splitOnce sep cs = some (before, after)) :
    cs = before ++ (sep ++ after) := by
  induction cs generalizing before with
  | nil => cases h
  | cons c cs ih =>
      rw [splitOnce] at h
      split at h
      next tail heq =>
        cases h
        rw [List.nil_append]
        exact Placeholder.eq_of_dropPrefix? heq
      next =>
        obtain ⟨⟨first, tail⟩, hcut, hparts⟩ := Option.map_eq_some_iff.1 h
        cases hparts
        rw [ih hcut, List.cons_append]

/-- A text is cut if and only if the separator occurs in it. -/
theorem splitOnce_eq_none_iff (hsep : sep ≠ []) : splitOnce sep cs = none ↔ ¬sep <:+: cs := by
  constructor
  · rintro hnone ⟨before, after, rfl⟩
    rw [List.append_assoc] at hnone
    induction before with
    | nil =>
        obtain ⟨s, sep, rfl⟩ := List.exists_cons_of_ne_nil hsep
        rw [List.nil_append, List.cons_append, splitOnce, ← List.cons_append, dropPrefix?_append] at hnone
        cases hnone
    | cons c before ih =>
        rw [List.cons_append, splitOnce] at hnone
        split at hnone
        next => cases hnone
        next => exact ih (Option.map_eq_none_iff.1 hnone)
  · intro hsep
    cases hcut : splitOnce sep cs with
    | none => rfl
    | some parts =>
        refine absurd ⟨parts.1, parts.2, ?_⟩ hsep
        rw [List.append_assoc]
        exact (eq_append_of_splitOnce_eq_some hcut).symm

theorem dropPrefix?_append_of_none {ps : List Char} (h : dropPrefix? ps cs = none)
    (hlength : ps.length ≤ cs.length) (rest : List Char) : dropPrefix? ps (cs ++ rest) = none := by
  induction ps generalizing cs with
  | nil => cases h
  | cons p ps ih =>
      cases cs with
      | nil => exact absurd hlength (Nat.not_succ_le_zero _)
      | cons c cs =>
          rw [dropPrefix?] at h
          rw [List.cons_append, dropPrefix?]
          split at h
          next hc => rw [if_pos hc, ih h (Nat.le_of_succ_le_succ hlength)]
          next hc => exact if_neg hc

/-- A text is cut where it is cut without what follows it. -/
theorem splitOnce_append_of_some (h : splitOnce sep cs = some (before, after)) (rest : List Char) :
    splitOnce sep (cs ++ rest) = some (before, after ++ rest) := by
  induction cs generalizing before with
  | nil => cases h
  | cons c cs ih =>
      rw [splitOnce] at h
      rw [List.cons_append, splitOnce, ← List.cons_append]
      split at h
      next tail heq =>
        cases h
        rw [Placeholder.eq_of_dropPrefix? heq, List.append_assoc, dropPrefix?_append]
      next heq =>
        obtain ⟨⟨first, tail⟩, hcut, hparts⟩ := Option.map_eq_some_iff.1 h
        cases hparts
        have hlength : sep.length ≤ (c :: cs).length := by
          rw [eq_append_of_splitOnce_eq_some hcut, List.length_cons, List.length_append,
            List.length_append]
          omega
        rw [dropPrefix?_append_of_none heq hlength, ih hcut]
        rfl

/-- A text that is not cut stays in front, if the separator does not start at its end either. -/
theorem splitOnce_append_of_none (h : splitOnce [s, t] cs = none) {rest : List Char}
    (hjoin : cs.getLast? = some s → rest.head? ≠ some t) :
    splitOnce [s, t] (cs ++ rest) =
      (splitOnce [s, t] rest).map fun parts => (cs ++ parts.1, parts.2) := by
  induction cs with
  | nil =>
      rw [List.nil_append]
      cases splitOnce [s, t] rest <;> rfl
  | cons c cs ih =>
      rw [splitOnce] at h
      split at h
      next => cases h
      next hnone =>
        have hrest := ih (Option.map_eq_none_iff.1 h) fun hlast => hjoin (by
          cases cs with
          | nil => cases hlast
          | cons d cs => rwa [List.getLast?_cons_cons])
        have hprefix : dropPrefix? [s, t] (c :: (cs ++ rest)) = none := by
          cases cs with
          | nil =>
              rw [List.nil_append, dropPrefix?]
              split
              next hc =>
                cases rest with
                | nil => rfl
                | cons d rest =>
                    have hd : t ≠ d := fun heq => hjoin (by rw [hc]; rfl) (by rw [heq]; rfl)
                    exact if_neg hd
              next => rfl
          | cons d cs => exact dropPrefix?_append_of_none hnone (by simp) rest
        rw [List.cons_append, splitOnce, hprefix, hrest]
        cases splitOnce [s, t] rest <;> rfl

/-- Pieces with a separator between them are the pieces between the separators again. -/
theorem splitAt_join {ts : List (List Char)} (h : ∀ u ∈ ts, s ∉ u) (hts : ts ≠ []) :
    splitAt (· == s) ([s].intercalate ts) = ts := by
  induction ts with
  | nil => exact absurd rfl hts
  | cons u ts ih =>
      obtain ⟨hu, hrest⟩ := List.forall_mem_cons.1 h
      have hrun : ∀ d ∈ u, (d == s) = false := fun d hd =>
        beq_eq_false_iff_ne.2 fun heq => hu (heq ▸ hd)
      cases ts with
      | nil => rw [List.intercalate_singleton, splitAt_run hrun]
      | cons v ts =>
          rw [List.intercalate_cons_cons, List.append_assoc, List.singleton_append,
            splitAt_append hrun (beq_self_eq_true s), ih hrest (List.cons_ne_nil v ts)]

end PageLayout.Text
