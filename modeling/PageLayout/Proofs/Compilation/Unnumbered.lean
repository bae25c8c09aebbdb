import PageLayout.Proofs.Compilation.Alone
import PageLayout.Proofs.Text.Rows

/-!
# Lines without their numbers

`Line.scanUnnumbered` gives the lines of rows that count, without regard to where in a file the
rows stand.  All that a row hands on to the next ones is then how wide the last line was
indented.  That does not matter to rows whose first line is not indented (`Line.RowsStartFlush`),
so the lines of such rows follow those of any rows above them (`scanUnnumbered_append`).
-/

namespace PageLayout

/-- A line of a file, whichever it is. -/
def Place.unnumbered (p : Place) : Place := { p with line := 0 }

namespace Line

/-- The lines that were read, without their numbers. -/
def unnumbered : Except LayoutError (List Line) → Except LayoutError (List Line) :=
  both (LayoutError.moved Place.unnumbered) (List.map (Line.moved Place.unnumbered))

/-- The lines of rows that count, without their numbers. -/
def scanUnnumbered (file : String) (above : Nat) (rows : List (List Char)) :
    Except LayoutError (List Line) :=
  unnumbered (scanFrom file above 1 rows)

variable {file : String} {above : Nat} {raw : List Char} {rows xs ys : List (List Char)}

theorem unnumbered_scanFrom_silent (h : isSilent raw = true) (number : Nat) :
    unnumbered (scanFrom file above number (raw :: rows)) =
      unnumbered (scanFrom file above (number + 1) rows) := by
  rw [scanFrom, if_pos h]

theorem unnumbered_scanFrom_cons (h : isSilent raw = false) (number : Nat) :
    unnumbered (scanFrom file above number (raw :: rows)) =
      match (marginFault? (margin raw)).or (widthFault? above (margin raw).length) with
      | some cause => .error (.indentation cause ⟨file, 0⟩)
      | none => do
          let lines ← unnumbered (scanFrom file (margin raw).length (number + 1) rows)
          return ⟨String.ofList (Text.trim raw), ⟨file, 0⟩, (margin raw).length != 0⟩ :: lines := by
  rw [scanFrom, if_neg (Bool.eq_false_iff.1 h)]
  dsimp only
  cases (marginFault? (margin raw)).or (widthFault? above (margin raw).length) with
  | some cause => rfl
  | none => cases scanFrom file (margin raw).length (number + 1) rows <;> rfl

/-- Without numbers, lines are the same wherever the rows stand. -/
theorem unnumbered_scanFrom (number : Nat) :
    unnumbered (scanFrom file above number rows) = scanUnnumbered file above rows := by
  have h : ∀ above n n', unnumbered (scanFrom file above n rows) =
      unnumbered (scanFrom file above n' rows) := by
    induction rows with
    | nil => exact fun _ _ _ => rfl
    | cons raw rows ih =>
        intro above n n'
        cases hs : isSilent raw with
        | true =>
            rw [unnumbered_scanFrom_silent hs, unnumbered_scanFrom_silent hs]
            exact ih above _ _
        | false => rw [unnumbered_scanFrom_cons hs, unnumbered_scanFrom_cons hs, ih _ _ (n' + 1)]
  exact h above number 1

@[simp] theorem scanUnnumbered_nil : scanUnnumbered file above [] = .ok [] := rfl

theorem scanUnnumbered_silent (h : isSilent raw = true) :
    scanUnnumbered file above (raw :: rows) = scanUnnumbered file above rows :=
  (unnumbered_scanFrom_silent h 1).trans (unnumbered_scanFrom 2)

theorem scanUnnumbered_cons (h : isSilent raw = false) :
    scanUnnumbered file above (raw :: rows) =
      match (marginFault? (margin raw)).or (widthFault? above (margin raw).length) with
      | some cause => .error (.indentation cause ⟨file, 0⟩)
      | none => do
          let lines ← scanUnnumbered file (margin raw).length rows
          return ⟨String.ofList (Text.trim raw), ⟨file, 0⟩, (margin raw).length != 0⟩ :: lines := by
  rw [scanUnnumbered, unnumbered_scanFrom_cons h, unnumbered_scanFrom]

/-! ## Rows below other rows -/

/-- The first of some rows that counts is not indented. -/
def RowsStartFlush (rows : List (List Char)) : Prop :=
  ∀ raw ∈ rows.find? (fun raw => !isSilent raw), margin raw = []

theorem RowsStartFlush.append (hxs : RowsStartFlush xs) (hys : RowsStartFlush ys) : RowsStartFlush (xs ++ ys) := by
  intro raw hraw
  rw [List.find?_append] at hraw
  cases hx : xs.find? (fun raw => !isSilent raw) with
  | none =>
      rw [hx, Option.none_or] at hraw
      exact hys raw hraw
  | some x =>
      rw [hx] at hraw
      cases hraw
      exact hxs _ hx

/-- How wide the line above does not matter to a line that is not indented. -/
theorem scanUnnumbered_flush (h : RowsStartFlush rows) (above' : Nat) :
    scanUnnumbered file above rows = scanUnnumbered file above' rows := by
  induction rows with
  | nil => rfl
  | cons raw rows ih =>
      cases hs : isSilent raw with
      | true =>
          rw [scanUnnumbered_silent hs, scanUnnumbered_silent hs]
          refine ih fun x hx => h x ?_
          rwa [List.find?_cons_of_neg (by simp [hs])]
      | false =>
          have hmargin : margin raw = [] := h raw (by rw [List.find?_cons_of_pos (by simp [hs])]; rfl)
          rw [scanUnnumbered_cons hs, scanUnnumbered_cons hs, hmargin]
          rfl

/-- The lines of rows whose first line is not indented follow those of the rows above. -/
theorem scanUnnumbered_append (h : RowsStartFlush ys) :
    scanUnnumbered file above (xs ++ ys) = (do
      let lines ← scanUnnumbered file above xs
      let below ← scanUnnumbered file 0 ys
      return lines ++ below) := by
  induction xs generalizing above with
  | nil =>
      rw [List.nil_append, scanUnnumbered_flush h 0, scanUnnumbered_nil]
      exact (bind_pure _).symm
  | cons raw xs ih =>
      cases hs : isSilent raw with
      | true => rw [List.cons_append, scanUnnumbered_silent hs, scanUnnumbered_silent hs, ih]
      | false =>
          rw [List.cons_append, scanUnnumbered_cons hs, scanUnnumbered_cons hs]
          cases (marginFault? (margin raw)).or (widthFault? above (margin raw).length) with
          | some cause => rfl
          | none =>
              dsimp only
              rw [ih, bind_assoc, bind_assoc]
              cases scanUnnumbered file (margin raw).length xs with
              | error e => rfl
              | ok lines => cases scanUnnumbered file 0 ys <;> rfl

/-- The lines of rows that start flush do. -/
theorem startFlush_of_scanUnnumbered (h : RowsStartFlush rows) {lines : List Line}
    (hlines : scanUnnumbered file above rows = .ok lines) : StartFlush lines := by
  induction rows generalizing above with
  | nil =>
      cases hlines
      exact nofun
  | cons raw rows ih =>
      cases hs : isSilent raw with
      | true =>
          rw [scanUnnumbered_silent hs] at hlines
          refine ih (fun x hx => h x ?_) hlines
          rwa [List.find?_cons_of_neg (by simp [hs])]
      | false =>
          have hmargin : margin raw = [] := h raw (by rw [List.find?_cons_of_pos (by simp [hs])]; rfl)
          rw [scanUnnumbered_cons hs, hmargin] at hlines
          obtain ⟨below, _, hlines⟩ := bind_eq_ok_iff.1 hlines
          cases hlines
          intro line hline
          cases hline
          rfl

end Line

end PageLayout
