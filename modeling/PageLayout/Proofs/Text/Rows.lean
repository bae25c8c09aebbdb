import Mathlib.Data.List.Forall2
import PageLayout.Proofs.Text.Pieces
import PageLayout.Reading.Line

/-!
# The rows of a text

The rows of a text are what stands between its line feeds.  A line is a row that has given up
the carriage return at its end, if it had one and a line feed follows.  A carriage return at
the end is blank, and blanks at the end of a line do not count.  So the lines of a text that
count can be read off its rows (`scan_eq_scanFrom_rows`), which say where each line stands
without regard to how it ends.
-/

namespace PageLayout

namespace Text

/-! ## Blanks at the end -/

theorem dropEndWhile_concat {p : Char → Bool} {c : Char} (h : p c = true) (cs : List Char) :
    dropEndWhile p (cs ++ [c]) = dropEndWhile p cs := by
  induction cs with
  | nil => simp [dropEndWhile, h]
  | cons d cs ih => rw [List.cons_append, dropEndWhile, dropEndWhile, ih]

/-- A text with one more blank at its end starts with the same ink, if it has any. -/
theorem trimStart_concat {b : Char} (hb : isBlank b = true) (cs : List Char) :
    trimStart (cs ++ [b]) = if trimStart cs = [] then [] else trimStart cs ++ [b] := by
  unfold trimStart
  induction cs with
  | nil => simp [hb]
  | cons c cs ih => cases hc : isBlank c <;> simp [hc, ih]

theorem trim_concat {b : Char} (hb : isBlank b = true) (cs : List Char) :
    trim (cs ++ [b]) = trim cs := by
  unfold trim trimEnd
  rw [trimStart_concat hb]
  split
  next h => rw [h]
  next => exact dropEndWhile_concat hb _

/-- A text with ink has the same margin with one more character at its end. -/
theorem takeWhile_isBlank_concat {cs : List Char} (h : trimStart cs ≠ []) (b : Char) :
    (cs ++ [b]).takeWhile isBlank = cs.takeWhile isBlank := by
  induction cs with
  | nil => exact absurd rfl h
  | cons c cs ih =>
      cases hc : isBlank c with
      | false => simp [hc]
      | true =>
          have hstart : trimStart (c :: cs) = trimStart cs := by simp [trimStart, hc]
          rw [hstart] at h
          simp [hc, ih h]

/-- A text is either without a carriage return at its end, or it has one. -/
theorem eq_dropReturn_or (cs : List Char) : cs = dropReturn cs ∨ cs = dropReturn cs ++ ['\r'] := by
  unfold dropReturn dropSuffix?
  cases hcs : cs.reverse with
  | nil => exact .inl rfl
  | cons c ds =>
      have hcs : cs = ds.reverse ++ [c] := by rw [← List.reverse_cons, ← hcs, List.reverse_reverse]
      by_cases hc : '\r' = c
      · refine .inr ?_
        simp [dropPrefix?, hcs, ← hc]
      · refine .inl ?_
        simp [dropPrefix?, hc]

/-! ## Rows -/

/-- The lines of a text as they are written, with their carriage returns. -/
def rows (cs : List Char) : List (List Char) :=
  match (splitAt (· == '\n') cs).reverse with
  | [] => []
  | [] :: ended => ended.reverse
  | last :: ended => (last :: ended).reverse

/-- Lines agree with their rows in whatever does not depend on a carriage return at the end. -/
theorem forall₂_lines_rows {R : List Char → List Char → Prop} (hrefl : ∀ raw, R raw raw)
    (hreturn : ∀ raw, R (dropReturn raw) raw) (cs : List Char) :
    List.Forall₂ R (lines cs) (rows cs) := by
  have hended : ∀ ended : List (List Char), List.Forall₂ R (ended.map dropReturn) ended := by
    intro ended
    rw [List.forall₂_map_left_iff, List.forall₂_same]
    exact fun raw _ => hreturn raw
  unfold lines rows
  rcases (splitAt (· == '\n') cs).reverse with _ | ⟨_ | ⟨c, last⟩, ended⟩
  · exact .nil
  · exact List.rel_reverse (hended ended)
  · exact List.rel_reverse (.cons (hrefl (c :: last)) (hended ended))

end Text

namespace Line

/-- Two rows of which the same counts. -/
structure Alike (raw raw' : List Char) : Prop where
  silent : isSilent raw = isSilent raw'
  text : Text.trim raw = Text.trim raw'
  margin : isSilent raw = false → margin raw = margin raw'

theorem Alike.refl (raw : List Char) : Alike raw raw := ⟨rfl, rfl, fun _ => rfl⟩

/-- A blank at the end does not count. -/
theorem Alike.concat {b : Char} (hb : isBlank b = true) (cs : List Char) :
    Alike cs (cs ++ [b]) := by
  have hstart := Text.trimStart_concat hb cs
  refine ⟨?_, (Text.trim_concat hb cs).symm, fun h => ?_⟩
  · unfold isSilent
    rw [hstart]
    cases Text.trimStart cs <;> rfl
  · have hink : Text.trimStart cs ≠ [] := by
      intro hnil
      rw [isSilent, hnil] at h
      cases h
    exact (Text.takeWhile_isBlank_concat hink b).symm

/-- Rows of which the same counts give the same lines. -/
theorem scanFrom_congr {raws raws' : List (List Char)} (h : List.Forall₂ Alike raws raws')
    (file : String) (above number : Nat) :
    scanFrom file above number raws = scanFrom file above number raws' := by
  induction h generalizing above number with
  | nil => rfl
  | @cons raw raw' raws raws' hraw _ ih =>
      rw [scanFrom, scanFrom, ← hraw.silent, ← hraw.text]
      cases hs : isSilent raw with
      | true => exact ih above (number + 1)
      | false =>
          simp only [Bool.false_eq_true, if_false]
          rw [← hraw.margin hs, ih]

theorem alike_dropReturn (raw : List Char) : Alike (Text.dropReturn raw) raw := by
  rcases Text.eq_dropReturn_or raw with h | h
  · rw [← h]
    exact .refl raw
  · have hconcat := Alike.concat (b := '\r') rfl (Text.dropReturn raw)
    rwa [← h] at hconcat

/-- The lines that count can be read off the rows. -/
theorem scan_eq_scanFrom_rows (text file : String) (offset : Nat) :
    scan text file offset = scanFrom file 0 (offset + 1) (Text.rows text.toList) :=
  scanFrom_congr (Text.forall₂_lines_rows .refl alike_dropReturn text.toList) file 0 (offset + 1)

end Line

end PageLayout
