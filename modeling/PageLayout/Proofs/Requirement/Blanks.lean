import PageLayout.Proofs.Text.Words
import PageLayout.Requirement.Reader

/-!
# Blanks around a requirement

A requirement is the same with blanks around it (`ofText_trim`): its head and its value are cut
out of the line without the blanks at their ends.  No requirement starts with a percent sign,
so the mark of a warning is never a part of one (`ofText_percent`).
-/

namespace PageLayout

namespace Requirement

variable {b : Char} {tolerance : Float} {r : Requirement}

theorem ne_colon_of_isBlank (hb : isBlank b = true) : ':' ≠ b := by
  rintro rfl
  exact absurd hb (by decide)

theorem splitLine_blank (hb : isBlank b = true) (line : List Char) :
    splitLine (b :: line) = splitLine line := by
  have hnone : Text.dropPrefix? [':'] (b :: line) = none := if_neg (ne_colon_of_isBlank hb)
  rw [splitLine, splitLine, Text.splitOnce, hnone]
  cases Text.splitOnce [':'] line with
  | none => exact congrArg (·, []) (Text.trim_blank hb line)
  | some pair => exact congrArg (·, Text.trim pair.2) (Text.trim_blank hb pair.1)

theorem splitOnce_concat (hb : isBlank b = true) (line : List Char) :
    Text.splitOnce [':'] (line ++ [b]) =
      (Text.splitOnce [':'] line).map fun pair => (pair.1, pair.2 ++ [b]) := by
  induction line with
  | nil =>
      have hnone : Text.dropPrefix? [':'] [b] = none := if_neg (ne_colon_of_isBlank hb)
      show Text.splitOnce [':'] [b] = none
      rw [Text.splitOnce, hnone]
      rfl
  | cons c line ih =>
      obtain rfl | hc := eq_or_ne ':' c
      · rfl
      · have hnone : ∀ cs, Text.dropPrefix? [':'] (c :: cs) = none := fun _ => if_neg hc
        rw [List.cons_append, Text.splitOnce, Text.splitOnce, hnone, hnone, ih]
        cases Text.splitOnce [':'] line <;> rfl

theorem splitLine_concat (hb : isBlank b = true) (line : List Char) :
    splitLine (line ++ [b]) = splitLine line := by
  rw [splitLine, splitLine, splitOnce_concat hb]
  cases Text.splitOnce [':'] line with
  | none => exact congrArg (·, []) (Text.trim_concat hb line)
  | some pair => exact congrArg (Text.trim pair.1, ·) (Text.trim_concat hb pair.2)

/-- The head and the value of a line are the same with blanks around the line. -/
theorem splitLine_trim (line : List Char) : splitLine (Text.trim line) = splitLine line :=
  Text.apply_trim (fun _ cs hb => splitLine_blank hb cs) (fun _ cs hb => splitLine_concat hb cs) line

/-- Only faults name the line that a demand on a text stands on. -/
theorem toOption_readText (head value line line' : List Char) :
    (readText head value line').toOption = (readText head value line).toOption := by
  unfold readText
  cases (Text.words head).drop 1 <;> rfl

/-- Lines with the same head and the same value are the same requirement. -/
theorem toOption_read {line line' : List Char} (h : splitLine line' = splitLine line) :
    (read tolerance line').toOption = (read tolerance line).toOption := by
  unfold read
  rw [h]
  obtain ⟨head, value⟩ := splitLine line
  dsimp only
  generalize String.ofList head = word
  split
  case h_11 =>
    repeat' split
    case isFalse.isFalse.isTrue => exact toOption_readText head value line line'
    all_goals rfl
  all_goals rfl

/-- Blanks around a requirement do not count. -/
theorem toOption_ofText_trim (line : List Char) :
    (ofText tolerance (String.ofList (Text.trim line))).toOption =
      (ofText tolerance (String.ofList line)).toOption := by
  rw [ofText, ofText, String.toList_ofList, String.toList_ofList]
  exact toOption_read (splitLine_trim line)

/-- The head of a line starts with the first character of the line, unless this is blank or a
colon. -/
theorem head?_splitLine {c : Char} (hc : isBlank c = false) (hcolon : ':' ≠ c)
    (line : List Char) : (splitLine (c :: line)).1.head? = some c := by
  have hnone : Text.dropPrefix? [':'] (c :: line) = none := if_neg hcolon
  have htrim : ∀ cs, (Text.trim (c :: cs)).head? = some c := by
    intro cs
    have hstart : Text.trimStart (c :: cs) = c :: cs :=
      List.dropWhile_cons_of_neg (Bool.eq_false_iff.1 hc)
    rw [Text.trim, hstart, Text.trimEnd, Text.dropEndWhile]
    split
    next => rw [if_neg (Bool.eq_false_iff.1 hc)]; rfl
    next => rfl
  rw [splitLine, Text.splitOnce, hnone]
  cases Text.splitOnce [':'] line with
  | none => exact htrim line
  | some pair => exact htrim pair.1

/-- No requirement starts with a percent sign. -/
theorem ofText_percent (line : List Char) (r : Requirement) :
    ofText tolerance (String.ofList ('%' :: line)) ≠ .ok r := by
  have hhead := head?_splitLine (c := '%') rfl (by decide) line
  rw [ofText, String.toList_ofList, read]
  generalize splitLine ('%' :: line) = parts at hhead
  obtain ⟨head, value⟩ := parts
  dsimp only at hhead ⊢
  have hne : ∀ word : String, word.toList.head? ≠ some '%' → String.ofList head ≠ word := by
    rintro word hword rfl
    rw [String.toList_ofList] at hword
    exact hword hhead
  have htext : Text.dropPrefix? "text ".toList head = none := by
    obtain ⟨rest, rfl⟩ := List.head?_eq_some_iff.1 hhead
    rfl
  split
  case h_11 =>
    rw [beq_false_of_ne (hne "absent" (by decide)), beq_false_of_ne (hne "visible" (by decide)), htext]
    exact nofun
  all_goals next hword => exact absurd hword (hne _ (by decide))

end Requirement

end PageLayout
