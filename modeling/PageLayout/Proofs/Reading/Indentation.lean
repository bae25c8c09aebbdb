import Mathlib.Data.List.Induction
import PageLayout.Proofs.Text.Pieces
import PageLayout.Reading.Line

/-!
# Texts with regular indentation

The rows of a text that count are regular if spaces are all that stands in front of them, and
if every maximal run of indented rows among them is even: its rows have one indentation, of one
to eight spaces.  Rows that do not count neither end a run nor belong to it.

`Regular` says this of a text as a whole, while a scan knows only the indentation of the last
row that counts.  That is enough, because one more row keeps a text regular exactly if it fits
that indentation (`regular_concat`).  So a scan finds its lines if its text is regular, and
otherwise an error at the first row with which the text is not regular any more
(`scan_regular`).
-/

namespace PageLayout.Line

/-! ## Rows that count -/

/-- A line has a character that is not blank, and the first of them is not `#`. -/
def Counts (raw : List Char) : Prop :=
  ∃ blanks c rest, raw = blanks ++ c :: rest ∧ (∀ b ∈ blanks, isBlank b = true) ∧
    isBlank c = false ∧ c ≠ '#'

theorem counts_iff {raw : List Char} : Counts raw ↔ isSilent raw = false := by
  unfold isSilent Text.trimStart
  constructor
  · rintro ⟨blanks, c, rest, rfl, hblanks, hc, hne⟩
    rw [Text.dropWhile_run hblanks fun _ h => by cases h; exact hc]
    simpa using hne
  · intro h
    split at h
    next => cases h
    next c rest hdrop =>
      refine ⟨raw.takeWhile isBlank, c, rest, ?_, fun b hb => List.mem_takeWhile_imp hb, ?_, ?_⟩
      · rw [← hdrop, List.takeWhile_append_dropWhile]
      · have hhead := List.head?_dropWhile_not isBlank raw
        rw [hdrop] at hhead
        simpa using hhead
      · simpa using h

instance : DecidablePred Counts := fun _ => decidable_of_iff _ counts_iff.symm

/-- The rows that count. -/
def counting (raws : List (List Char)) : List (List Char) := raws.filter Counts

/-- The lines of the rows that count, of which the first row has a given number. -/
def listed (file : String) (number : Nat) (raws : List (List Char)) : List Line :=
  ((raws.zipIdx number).filter fun row => Counts row.1).map fun row =>
    ⟨String.ofList (Text.trim row.1), ⟨file, row.2⟩, row.1.head? = some ' '⟩

/-! ## Runs of indented rows -/

/-- Indented rows, with no indented row right before them and none right after. -/
structure IsRun (before run after : List (List Char)) : Prop where
  indented : ∀ raw ∈ run, margin raw ≠ []
  start : ∀ raw ∈ before.getLast?, margin raw = []
  stop : ∀ raw ∈ after.head?, margin raw = []

/-- Rows have one indentation, of one to eight characters. -/
def IsEven (run : List (List Char)) : Prop :=
  ∃ width, 1 ≤ width ∧ width ≤ 8 ∧ ∀ raw ∈ run, (margin raw).length = width

/-- Every maximal run of indented rows is even. -/
def RunsEven (rows : List (List Char)) : Prop :=
  ∀ before run after, rows = before ++ run ++ after → IsRun before run after → IsEven run

/-- The rows of a text that count are indented by spaces, and evenly. -/
structure Regular (raws : List (List Char)) : Prop where
  spaces : ∀ raw ∈ raws, Counts raw → ∀ c ∈ margin raw, c = ' '
  even : RunsEven (counting raws)

/-- The indentation of the last row. -/
def lastWidth (rows : List (List Char)) : Nat :=
  (rows.getLast?.map fun raw => (margin raw).length).getD 0

/-- A row of some width can stand below one of another. -/
def Fits (above width : Nat) : Prop := width = 0 ∨ width = above ∨ (above = 0 ∧ width ≤ 8)

section Runs

variable {rows run : List (List Char)} {raw : List Char}

theorem lastWidth_concat (rows : List (List Char)) (raw : List Char) :
    lastWidth (rows ++ [raw]) = (margin raw).length := by
  rw [lastWidth, List.getLast?_concat]
  rfl

theorem lastWidth_eq_zero (h : ∀ raw ∈ rows.getLast?, margin raw = []) : lastWidth rows = 0 := by
  unfold lastWidth
  cases hlast : rows.getLast? with
  | none => rfl
  | some raw =>
      have hmargin : margin raw = [] := h raw hlast
      simp [hmargin]

theorem isEven_nil : IsEven [] := ⟨1, Nat.le_refl 1, by decide, nofun⟩

theorem IsEven.of_append {more : List (List Char)} (h : IsEven (run ++ more)) : IsEven run := by
  obtain ⟨width, hlow, hhigh, hall⟩ := h
  exact ⟨width, hlow, hhigh, fun raw hraw => hall raw (List.mem_append_left more hraw)⟩

/-- One more indented row makes a run at the end longer. -/
theorem IsRun.concat {before : List (List Char)} (h : IsRun before run []) (hraw : margin raw ≠ []) :
    IsRun before (run ++ [raw]) [] := by
  refine ⟨fun x hx => ?_, h.start, nofun⟩
  rcases List.mem_append.1 hx with hx | hx
  · exact h.indented x hx
  · rw [List.mem_singleton.1 hx]
    exact hraw

/-- Rows end in a run, which is empty if the last of them is not indented. -/
theorem exists_run_at_end (rows : List (List Char)) :
    ∃ before run, rows = before ++ run ∧ IsRun before run [] := by
  induction rows using List.reverseRecOn with
  | nil => exact ⟨[], [], rfl, nofun, nofun, nofun⟩
  | append_singleton rows raw ih =>
      by_cases hraw : margin raw = []
      · refine ⟨rows ++ [raw], [], (List.append_nil _).symm, nofun, fun last hlast => ?_, nofun⟩
        rw [List.getLast?_concat] at hlast
        cases hlast
        exact hraw
      · obtain ⟨before, run, rfl, hrun⟩ := ih
        exact ⟨before, run ++ [raw], List.append_assoc .., hrun.concat hraw⟩

/-- The runs of some rows are runs of more rows, or the start of one. -/
theorem RunsEven.of_concat (h : RunsEven (rows ++ [raw])) : RunsEven rows := by
  rintro before run after rfl hrun
  cases after with
  | cons next after =>
      exact h before run (next :: after ++ [raw]) (by simp) ⟨hrun.indented, hrun.start, hrun.stop⟩
  | nil =>
      rw [List.append_nil] at h
      by_cases hraw : margin raw = []
      · refine h before run [raw] rfl ⟨hrun.indented, hrun.start, fun next hnext => ?_⟩
        cases hnext
        exact hraw
      · exact (h before (run ++ [raw]) [] (by simp) (hrun.concat hraw)).of_append

theorem fits_of_runsEven_concat (h : RunsEven (rows ++ [raw])) :
    Fits (lastWidth rows) (margin raw).length := by
  by_cases hraw : margin raw = []
  · exact .inl (List.length_eq_zero_iff.2 hraw)
  · obtain ⟨before, run, rfl, hrun⟩ := exists_run_at_end rows
    obtain ⟨width, _, hhigh, hall⟩ := h before (run ++ [raw]) [] (by simp) (hrun.concat hraw)
    have hwidth : (margin raw).length = width := hall raw (List.mem_append_right _ List.mem_cons_self)
    cases run using List.reverseRecOn with
    | nil =>
        rw [List.append_nil, lastWidth_eq_zero hrun.start, hwidth]
        exact .inr (.inr ⟨rfl, hhigh⟩)
    | append_singleton run last =>
        have hlast : (margin last).length = width :=
          hall last (List.mem_append_left _ (List.mem_append_right _ List.mem_cons_self))
        rw [← List.append_assoc, lastWidth_concat, hlast, hwidth]
        exact .inr (.inl rfl)

/-- A run is even with one more row that fits. -/
theorem isEven_concat {before : List (List Char)} (h : RunsEven (before ++ run))
    (hrun : IsRun before (run ++ [raw]) [])
    (hfits : Fits (lastWidth (before ++ run)) (margin raw).length) : IsEven (run ++ [raw]) := by
  have hpositive : 1 ≤ (margin raw).length :=
    List.length_pos_iff.2 (hrun.indented raw (List.mem_append_right _ List.mem_cons_self))
  have hrun' : IsRun before run [] :=
    ⟨fun x hx => hrun.indented x (List.mem_append_left _ hx), hrun.start, nofun⟩
  obtain ⟨width, hlow, hhigh, hall⟩ := h before run [] (List.append_nil _).symm hrun'
  cases run using List.reverseRecOn with
  | nil =>
      rw [List.append_nil, lastWidth_eq_zero hrun.start] at hfits
      refine ⟨(margin raw).length, hpositive, ?_, by simp⟩
      rcases hfits with hzero | hzero | ⟨_, hwidth⟩
      · omega
      · omega
      · exact hwidth
  | append_singleton run last =>
      have hlast : (margin last).length = width :=
        hall last (List.mem_append_right _ List.mem_cons_self)
      rw [← List.append_assoc, lastWidth_concat, hlast] at hfits
      have hwidth : (margin raw).length = width := by
        rcases hfits with hzero | hwidth | ⟨hzero, _⟩
        · omega
        · exact hwidth
        · omega
      refine ⟨width, hlow, hhigh, fun x hx => ?_⟩
      rcases List.mem_append.1 hx with hx | hx
      · exact hall x hx
      · rw [List.mem_singleton.1 hx]
        exact hwidth

/-- Runs stay even with one more row that fits. -/
theorem RunsEven.concat (h : RunsEven rows) (hfits : Fits (lastWidth rows) (margin raw).length) :
    RunsEven (rows ++ [raw]) := by
  intro before run after heq hrun
  cases after using List.reverseRecOn with
  | append_singleton after last =>
      obtain ⟨rfl, -⟩ := List.append_inj' (heq.trans (List.append_assoc ..).symm) rfl
      refine h before run after rfl ⟨hrun.indented, hrun.start, fun next hnext => ?_⟩
      exact hrun.stop next (by rw [List.head?_append, Option.mem_def.1 hnext, Option.some_or]; rfl)
  | nil =>
      cases run using List.reverseRecOn with
      | nil => exact isEven_nil
      | append_singleton run last =>
          rw [List.append_nil, ← List.append_assoc] at heq
          obtain ⟨rfl, hlast⟩ := List.append_inj' heq rfl
          cases hlast
          exact isEven_concat h hrun hfits

theorem runsEven_concat :
    RunsEven (rows ++ [raw]) ↔ RunsEven rows ∧ Fits (lastWidth rows) (margin raw).length :=
  ⟨fun h => ⟨h.of_concat, fits_of_runsEven_concat h⟩, fun h => h.1.concat h.2⟩

end Runs

/-! ## Regular texts -/

section Regular

variable {raws more : List (List Char)} {raw : List Char}

theorem counting_concat (h : Counts raw) : counting (raws ++ [raw]) = counting raws ++ [raw] := by
  simp [counting, h]

theorem counting_concat_silent (h : ¬Counts raw) : counting (raws ++ [raw]) = counting raws := by
  simp [counting, h]

/-- A row that does not count changes nothing. -/
theorem regular_concat_silent (h : ¬Counts raw) : Regular (raws ++ [raw]) ↔ Regular raws := by
  constructor
  · intro hr
    refine ⟨fun x hx => hr.spaces x (List.mem_append_left _ hx), ?_⟩
    rw [← counting_concat_silent h]
    exact hr.even
  · intro hr
    refine ⟨fun x hx hcounts => ?_, ?_⟩
    · rcases List.mem_append.1 hx with hx | hx
      · exact hr.spaces x hx hcounts
      · exact absurd (List.mem_singleton.1 hx ▸ hcounts) h
    · rw [counting_concat_silent h]
      exact hr.even

/-- A row that counts keeps a text regular if it is indented by spaces and fits the last row that
counts. -/
theorem regular_concat (h : Counts raw) :
    Regular (raws ++ [raw]) ↔ Regular raws ∧ (∀ c ∈ margin raw, c = ' ') ∧
      Fits (lastWidth (counting raws)) (margin raw).length := by
  constructor
  · intro hr
    have heven := hr.even
    rw [counting_concat h, runsEven_concat] at heven
    exact ⟨⟨fun x hx => hr.spaces x (List.mem_append_left _ hx), heven.1⟩,
      hr.spaces raw (List.mem_append_right _ List.mem_cons_self) h, heven.2⟩
  · rintro ⟨hr, hspaces, hfits⟩
    refine ⟨fun x hx hcounts => ?_, ?_⟩
    · rcases List.mem_append.1 hx with hx | hx
      · exact hr.spaces x hx hcounts
      · rwa [List.mem_singleton.1 hx]
    · rw [counting_concat h, runsEven_concat]
      exact ⟨hr.even, hfits⟩

theorem regular_nil : Regular [] := by
  refine ⟨nofun, fun before run after heq _ => ?_⟩
  obtain ⟨h, -⟩ := List.append_eq_nil_iff.1 heq.symm
  rw [(List.append_eq_nil_iff.1 h).2]
  exact isEven_nil

/-- What a regular text starts with is regular. -/
theorem Regular.of_append (h : Regular (raws ++ more)) : Regular raws := by
  induction more using List.reverseRecOn with
  | nil => rwa [List.append_nil] at h
  | append_singleton more raw ih =>
      rw [← List.append_assoc] at h
      by_cases hraw : Counts raw
      · exact ih ((regular_concat hraw).1 h).1
      · exact ih ((regular_concat_silent hraw).1 h)

theorem Regular.of_prefix (h : Regular raws) (hmore : more <+: raws) : Regular more := by
  obtain ⟨rest, rfl⟩ := hmore
  exact h.of_append

end Regular

/-! ## Scans -/

theorem marginFault?_eq_none_iff {m : List Char} :
    marginFault? m = none ↔ ∀ c ∈ m, c = ' ' := by
  unfold marginFault?
  constructor
  · intro h
    split at h
    next => cases h
    next =>
      split at h
      next => cases h
      next hany => simpa using hany
  · intro h
    have htab : ¬m.contains '\t' = true := by
      intro htab
      cases h '\t' (List.contains_iff_mem.1 htab)
    have hany : ¬m.any (· != ' ') = true := by simpa using h
    rw [if_neg htab, if_neg hany]

theorem widthFault?_eq_none_iff {above width : Nat} :
    widthFault? above width = none ↔ Fits above width := by
  have hwidest : widestIndent = 8 := rfl
  simp only [widthFault?, Fits, beq_iff_eq, bne_iff_ne]
  split
  · simp [*]
  · split <;> split <;> simp only [reduceCtorEq, false_iff, true_iff] <;> omega

variable {raws before : List (List Char)} {raw : List Char} {above number : Nat} (file : String)

theorem scanFrom_silent_cons (h : ¬Counts raw) :
    scanFrom file above number (raw :: raws) = scanFrom file above (number + 1) raws := by
  rw [counts_iff, Bool.not_eq_false] at h
  rw [scanFrom, if_pos h]

/-- A line is indented if its row starts with a space. -/
theorem indented_eq (h : ∀ c ∈ margin raw, c = ' ') :
    ((margin raw).length != 0) = decide (raw.head? = some ' ') := by
  cases raw with
  | nil => rfl
  | cons c cs =>
      cases hc : isBlank c with
      | false =>
          have hne : c ≠ ' ' := by
            rintro rfl
            cases hc
          simp [margin, hc, hne]
      | true =>
          have heq : c = ' ' := h c (by simp [margin, hc])
          subst heq
          simp [margin, hc]

theorem scanFrom_cons (h : Counts raw) (hspaces : ∀ c ∈ margin raw, c = ' ')
    (hfits : Fits above (margin raw).length) :
    scanFrom file above number (raw :: raws) =
      (scanFrom file (margin raw).length (number + 1) raws).map
        (⟨String.ofList (Text.trim raw), ⟨file, number⟩, raw.head? = some ' '⟩ :: ·) := by
  have hsilent := Bool.eq_false_iff.1 (counts_iff.1 h)
  have hfault : (marginFault? (margin raw)).or (widthFault? above (margin raw).length) = none :=
    Option.or_eq_none_iff.2 ⟨marginFault?_eq_none_iff.2 hspaces, widthFault?_eq_none_iff.2 hfits⟩
  rw [scanFrom, if_neg hsilent]
  dsimp only
  rw [hfault, indented_eq hspaces]
  cases scanFrom file (margin raw).length (number + 1) raws <;> rfl

theorem scanFrom_fault (h : Counts raw)
    (hfault : ¬((∀ c ∈ margin raw, c = ' ') ∧ Fits above (margin raw).length)) :
    ∃ cause, scanFrom file above number (raw :: raws) =
      .error (.indentation cause ⟨file, number⟩) := by
  have hsilent := Bool.eq_false_iff.1 (counts_iff.1 h)
  rw [scanFrom, if_neg hsilent]
  dsimp only
  cases hcause : (marginFault? (margin raw)).or (widthFault? above (margin raw).length) with
  | some cause => exact ⟨cause, rfl⟩
  | none =>
      obtain ⟨hspaces, hfits⟩ := Option.or_eq_none_iff.1 hcause
      exact absurd ⟨marginFault?_eq_none_iff.1 hspaces, widthFault?_eq_none_iff.1 hfits⟩ hfault

/-- The scan of the rest of a regular text finds the lines of the rows that count. -/
theorem scanFrom_listed (h : Regular (before ++ raws)) :
    scanFrom file (lastWidth (counting before)) number raws = .ok (listed file number raws) := by
  induction raws generalizing before number with
  | nil => rfl
  | cons raw raws ih =>
      rw [List.append_cons] at h
      have hrest : scanFrom file (lastWidth (counting (before ++ [raw]))) (number + 1) raws =
          .ok (listed file (number + 1) raws) := ih h
      by_cases hraw : Counts raw
      · obtain ⟨-, hspaces, hfits⟩ := (regular_concat hraw).1 h.of_append
        rw [counting_concat hraw, lastWidth_concat] at hrest
        rw [scanFrom_cons file hraw hspaces hfits, hrest]
        simp [listed, List.zipIdx_cons, hraw, Except.map]
      · rw [counting_concat_silent hraw] at hrest
        rw [scanFrom_silent_cons file hraw, hrest]
        simp [listed, List.zipIdx_cons, hraw]

/-- The scan of the rest of a text that is not regular ends at the row that breaks the rules
first. -/
theorem scanFrom_error (hbefore : Regular before) (h : ¬Regular (before ++ raws)) :
    ∃ k cause, k < raws.length ∧
      scanFrom file (lastWidth (counting before)) number raws =
        .error (.indentation cause ⟨file, number + k⟩) ∧
      Regular (before ++ raws.take k) ∧ ¬Regular (before ++ raws.take (k + 1)) := by
  induction raws generalizing before number with
  | nil =>
      rw [List.append_nil] at h
      exact absurd hbefore h
  | cons raw raws ih =>
      rw [List.append_cons] at h
      by_cases hnext : Regular (before ++ [raw])
      · obtain ⟨k, cause, hk, hscan, hregular, hbroken⟩ := @ih _ (number + 1) hnext h
        have hnumber : number + 1 + k = number + (k + 1) := by omega
        rw [hnumber] at hscan
        rw [List.append_assoc, List.singleton_append] at hregular hbroken
        refine ⟨k + 1, cause, Nat.succ_lt_succ hk, ?_, hregular, hbroken⟩
        by_cases hraw : Counts raw
        · obtain ⟨-, hspaces, hfits⟩ := (regular_concat hraw).1 hnext
          rw [counting_concat hraw, lastWidth_concat] at hscan
          rw [scanFrom_cons file hraw hspaces hfits, hscan]
          rfl
        · rw [counting_concat_silent hraw] at hscan
          rw [scanFrom_silent_cons file hraw, hscan]
      · have hraw : Counts raw := by
          by_contra hraw
          exact hnext ((regular_concat_silent hraw).2 hbefore)
        obtain ⟨cause, hscan⟩ := scanFrom_fault file hraw fun hgood =>
          hnext ((regular_concat hraw).2 ⟨hbefore, hgood⟩)
        exact ⟨0, cause, Nat.succ_pos _, hscan, by simpa using hbefore, by simpa using hnext⟩

/-- The first rows of a text are regular up to the row that breaks the rules first, and not from
there on. -/
theorem regular_take_iff {k : Nat} (hregular : Regular (raws.take k))
    (hbroken : ¬Regular (raws.take (k + 1))) (n : Nat) : Regular (raws.take n) ↔ n ≤ k := by
  constructor
  · intro hn
    by_contra hlt
    exact hbroken (hn.of_prefix (List.take_prefix_take_left (Nat.lt_of_not_le hlt)))
  · exact fun hn => hregular.of_prefix (List.take_prefix_take_left hn)

/-- A text is cut into lines exactly if its rows are regular.  Its lines are then those of the rows
that count, trimmed and numbered from the offset, and indented where a row starts with a space.
Otherwise the error is about the first row with which the rows are not regular any more. -/
theorem scan_regular (text file : String) (offset : Nat) :
    (∀ lines, scan text file offset = .ok lines ↔
      Regular (Text.lines text.toList) ∧
        lines = listed file (offset + 1) (Text.lines text.toList)) ∧
    ∀ error, scan text file offset = .error error →
      ∃ k cause, k < (Text.lines text.toList).length ∧
        error = .indentation cause ⟨file, offset + (k + 1)⟩ ∧
        ∀ n, Regular ((Text.lines text.toList).take n) ↔ n ≤ k := by
  generalize hraws : Text.lines text.toList = raws
  have hscan : scan text file offset =
      scanFrom file (lastWidth (counting [])) (offset + 1) raws := by
    rw [scan, hraws]
    rfl
  by_cases hregular : Regular raws
  · have hok : scanFrom file (lastWidth (counting [])) (offset + 1) raws =
        .ok (listed file (offset + 1) raws) := scanFrom_listed file hregular
    rw [hscan, hok]
    refine ⟨fun lines => ⟨?_, ?_⟩, fun error herror => by cases herror⟩
    · rintro ⟨⟩
      exact ⟨hregular, rfl⟩
    · rintro ⟨-, rfl⟩
      rfl
  · obtain ⟨k, cause, hk, herror, hstart, hbroken⟩ :=
      scanFrom_error file regular_nil hregular
    rw [hscan, herror]
    refine ⟨fun lines => ⟨nofun, fun h => absurd h.1 hregular⟩, ?_⟩
    rintro _ ⟨⟩
    refine ⟨k, cause, hk, ?_, regular_take_iff hstart hbroken⟩
    rw [Nat.add_right_comm, Nat.add_assoc]

/-- An object with two rules that are not indented alike. -/
def unevenSample : String := "menu\n  width: 1px\n   # wide\n\n    height: 2px\n"

/-- A comment and a blank line do not end the run, so the fifth row breaks the rules. -/
theorem scan_regular_uneven :
    scan unevenSample "page" 10 = .error (.indentation .uneven ⟨"page", 15⟩) ∧
      ∀ n, Regular ((Text.lines unevenSample.toList).take n) ↔ n ≤ 4 := by
  have hscan : scan unevenSample "page" 10 = .error (.indentation .uneven ⟨"page", 15⟩) := by
    decide +kernel
  obtain ⟨k, cause, _, herror, hregular⟩ := (scan_regular unevenSample "page" 10).2 _ hscan
  obtain rfl : k = 4 := by
    injection herror with _ hplace
    injection hplace with _ hline
    omega
  exact ⟨hscan, hregular⟩

end PageLayout.Line
