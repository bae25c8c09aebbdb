import Mathlib.Data.List.Basic
import PageLayout.Text.Glob

/-!
# What a pattern with stars matches

`Glob.Matches` says what a pattern matches: each star stands for a run of characters within a
line, and every other character for itself.  Of a text without line ends this says that it
`Fits`: it is the pattern with some text in place of each star (`matches_iff_fits`).

`Glob.holds` follows all possibilities at once.  It finds a match whenever there is one, and no
others (`holds_iff`).
-/

namespace PageLayout.Glob

/-- A pattern matches a whole text. -/
inductive Matches : List Char → List Char → Prop
  | nil : Matches [] []
  | char {c : Char} {ps cs : List Char} : c ≠ '*' → Matches ps cs → Matches (c :: ps) (c :: cs)
  | star {run ps cs : List Char} : '\n' ∉ run → Matches ps cs → Matches ('*' :: ps) (run ++ cs)

variable {c d : Char} {ps cs : List Char}

/-- A star stands for a run of characters within a line. -/
theorem matches_star_iff {text : List Char} :
    Matches ('*' :: ps) text ↔ ∃ run rest, '\n' ∉ run ∧ Matches ps rest ∧ text = run ++ rest := by
  constructor
  · intro h
    generalize hps : '*' :: ps = pattern at h
    cases h with
    | nil => cases hps
    | char hc _ =>
        cases hps
        exact absurd rfl hc
    | star hrun hrest =>
        cases hps
        exact ⟨_, _, hrun, hrest, rfl⟩
  · rintro ⟨run, rest, hrun, hrest, rfl⟩
    exact .star hrun hrest

/-- Another character stands for itself. -/
theorem matches_char_iff {text : List Char} (hd : d ≠ '*') :
    Matches (d :: ps) text ↔ ∃ rest, Matches ps rest ∧ text = d :: rest := by
  constructor
  · intro h
    generalize hps : d :: ps = pattern at h
    cases h with
    | nil => cases hps
    | char _ hrest =>
        cases hps
        exact ⟨_, hrest, rfl⟩
    | star =>
        cases hps
        exact absurd rfl hd
  · rintro ⟨rest, hrest, rfl⟩
    exact .char hd hrest

theorem matches_star_nil : Matches ('*' :: ps) [] ↔ Matches ps [] := by
  rw [matches_star_iff]
  constructor
  · rintro ⟨run, rest, -, hrest, htext⟩
    obtain ⟨-, rfl⟩ := List.append_eq_nil_iff.1 htext.symm
    exact hrest
  · exact fun h => ⟨[], [], List.not_mem_nil, h, rfl⟩

/-- A star stands for one character more, or the rest of the pattern matches. -/
theorem matches_star_cons :
    Matches ('*' :: ps) (c :: cs) ↔ (c ≠ '\n' ∧ Matches ('*' :: ps) cs) ∨ Matches ps (c :: cs) := by
  rw [matches_star_iff, matches_star_iff]
  constructor
  · rintro ⟨run, rest, hrun, hrest, htext⟩
    cases run with
    | nil => exact .inr (htext ▸ hrest)
    | cons e run =>
        obtain ⟨rfl, rfl⟩ := List.cons.inj htext
        rw [List.mem_cons, not_or] at hrun
        exact .inl ⟨Ne.symm hrun.1, run, rest, hrun.2, hrest, rfl⟩
  · rintro (⟨hc, run, rest, hrun, hrest, rfl⟩ | h)
    · refine ⟨c :: run, rest, ?_, hrest, rfl⟩
      rw [List.mem_cons, not_or]
      exact ⟨Ne.symm hc, hrun⟩
    · exact ⟨[], c :: cs, List.not_mem_nil, h, rfl⟩

/-- Text without stars in front of a pattern stands for itself. -/
theorem Matches.append {stem : List Char} (hstem : '*' ∉ stem) (h : Matches ps cs) :
    Matches (stem ++ ps) (stem ++ cs) := by
  induction stem with
  | nil => exact h
  | cons c stem ih =>
      rw [List.mem_cons, not_or] at hstem
      exact .char (Ne.symm hstem.1) (ih hstem.2)

/-! ## Texts in place of the stars -/

/-- A pattern with texts in place of its stars, one after another. -/
def fill : List Char → List (List Char) → List Char
  | [], _ => []
  | '*' :: ps, runs => runs.headD [] ++ fill ps runs.tail
  | c :: ps, runs => c :: fill ps runs

/-- A text is a pattern with some text in place of each star. -/
def Fits (pattern text : List Char) : Prop :=
  ∃ runs : List (List Char), runs.length = pattern.count '*' ∧ fill pattern runs = text

theorem fill_char (hd : d ≠ '*') (ps : List Char) (runs : List (List Char)) :
    fill (d :: ps) runs = d :: fill ps runs := by
  rw [fill]
  exact hd

theorem Matches.fits {pattern text : List Char} (h : Matches pattern text) :
    Fits pattern text := by
  induction h with
  | nil => exact ⟨[], rfl, rfl⟩
  | char hc _ ih =>
      obtain ⟨runs, hlength, rfl⟩ := ih
      exact ⟨runs, by rw [hlength, List.count_cons_of_ne hc], fill_char hc _ runs⟩
  | @star run _ _ _ _ ih =>
      obtain ⟨runs, hlength, rfl⟩ := ih
      exact ⟨run :: runs, by rw [List.length_cons, hlength, List.count_cons_self], rfl⟩

/-- Within a line, a pattern matches what it fits. -/
theorem matches_fill {pattern : List Char} {runs : List (List Char)}
    (hline : '\n' ∉ fill pattern runs) : Matches pattern (fill pattern runs) := by
  induction pattern generalizing runs with
  | nil => exact .nil
  | cons d ps ih =>
      by_cases hd : d = '*'
      · subst hd
        change '\n' ∉ runs.headD [] ++ fill ps runs.tail at hline
        rw [List.mem_append, not_or] at hline
        exact .star hline.1 (ih hline.2)
      · rw [fill_char hd] at hline ⊢
        exact .char hd (ih fun hmem => hline (List.mem_cons_of_mem _ hmem))

theorem matches_iff_fits {text : List Char} (hline : '\n' ∉ text) (pattern : List Char) :
    Matches pattern text ↔ Fits pattern text := by
  refine ⟨Matches.fits, ?_⟩
  rintro ⟨runs, -, rfl⟩
  exact matches_fill hline

/-! ## Following all possibilities -/

/-- A state reads a text to the end of the pattern. -/
def Reads : List Char → List Char → Prop
  | state, [] => state = []
  | state, c :: cs => ∃ state' ∈ advance c state, Reads state' cs

/-- The states after a text are those that one of the states before it comes to. -/
theorem any_foldl_step (states : List (List Char)) (text : List Char) :
    (text.foldl step states).any List.isEmpty = true ↔ ∃ state ∈ states, Reads state text := by
  induction text generalizing states with
  | nil => simp [Reads]
  | cons c text ih =>
      rw [List.foldl_cons, ih]
      constructor
      · rintro ⟨state', hmem, hreads⟩
        rw [step, List.mem_eraseDups] at hmem
        obtain ⟨state, hstate, hadvance⟩ := List.mem_flatMap.1 hmem
        exact ⟨state, hstate, state', hadvance, hreads⟩
      · rintro ⟨state, hstate, state', hadvance, hreads⟩
        refine ⟨state', ?_, hreads⟩
        rw [step, List.mem_eraseDups]
        exact List.mem_flatMap.2 ⟨state, hstate, hadvance⟩

theorem closure_char (hd : d ≠ '*') : closure (d :: ps) = [d :: ps] := by
  rw [closure.eq_2]
  exact fun rest h => hd (List.cons.inj h).1

theorem advance_star (c : Char) (ps : List Char) :
    advance c ('*' :: ps) = if c == '\n' then [] else closure ('*' :: ps) := rfl

theorem advance_char (c : Char) (hd : d ≠ '*') :
    advance c (d :: ps) = if c == d then closure ps else [] := by
  rw [advance.eq_3]
  exact hd

/-- The states that a pattern starts with read what it matches. -/
theorem exists_reads_iff (pattern text : List Char) :
    (∃ state ∈ closure pattern, Reads state text) ↔ Matches pattern text := by
  induction text generalizing pattern with
  | nil =>
      induction pattern with
      | nil => simp [closure, Reads, Matches.nil]
      | cons d ps ih =>
          by_cases hd : d = '*'
          · subst hd
            rw [matches_star_nil, ← ih]
            simp [closure, Reads]
          · rw [matches_char_iff hd, closure_char hd]
            simp [Reads]
  | cons c cs ihText =>
      induction pattern with
      | nil =>
          constructor
          · rintro ⟨state, hmem, state', hadvance, _⟩
            cases List.mem_singleton.1 hmem
            cases hadvance
          · exact nofun
      | cons d ps ih =>
          by_cases hd : d = '*'
          · subst hd
            have hstar : Reads ('*' :: ps) (c :: cs) ↔ c ≠ '\n' ∧ Matches ('*' :: ps) cs := by
              rw [Reads, advance_star, ← ihText]
              by_cases hc : c = '\n' <;> simp [hc]
            rw [matches_star_cons, ← hstar, ← ih, closure]
            simp only [List.mem_cons, exists_eq_or_imp]
          · rw [matches_char_iff hd, closure_char hd]
            simp only [List.mem_singleton, exists_eq_left]
            rw [Reads, advance_char c hd]
            by_cases hc : c = d
            · simp [hc, ihText]
            · simp [hc]

/-- A pattern holds of the texts that it matches. -/
theorem holds_iff (pattern text : List Char) :
    holds pattern text = true ↔ Matches pattern text := by
  rw [holds, any_foldl_step, exists_reads_iff]

end PageLayout.Glob
