import PageLayout.Proofs.Pattern.Group

/-!
# Readings inside a group

One step of a reading looks at a character and what follows it.  With `)$` after the
pattern it does what it does alone, except after a backslash (`local_step`), and it always
leaves an end of what it was given (`step_suffix`).

The pattern for whole texts is read inside a group, so the reading of the text that is
asked for has one frame more at the bottom of its stack.  No step looks at that frame but
the end of a group when no other group is open, so every other step does the same with it
(`step_lift`).
-/

namespace PageLayout.Pattern.Reading

variable {b : Bool} {r : Reading} {cs rest : List Char} {c : Char}

/-! ## One step -/

theorem local_dropLazy {α : Type} (a : α) : Local b 2 fun cs => some (a, dropLazy cs) where
  suffix h := by cases h; exact dropLazy_suffix _
  agree {cs} _ := by rw [dropLazy_append]; exact .kept a _

theorem local_skip {α : Type} (b : Bool) {f : List Char → Option (α × List Char)}
    (hf : Local b 2 f) : Local b 2 fun cs => f (skip b cs) where
  suffix h := (hf.suffix h).trans (skip_suffix b _)
  agree hs := by rw [skip_append b hs]; exact hf.agree (hs.skip b)

theorem local_readBounds (b : Bool) :
    Local b 2 fun cs => (readBounds b cs).map fun p => ((p.1, p.2.1), p.2.2) := by
  rw [funext (readBounds_eq b)]
  exact local_skip b (local_readNumber.bind fun min => local_readBoundsAfter min)

theorem local_optional {α : Type} (o : Option α) {f : α → List Char → List Char}
    (hf : ∀ a, o = some a → Local b 2 fun cs => some (a, f a cs)) :
    Local b 2 fun cs => o.map fun a => (a, f a cs) := by
  cases o with
  | none => exact .fail
  | some a => exact hf a rfl

theorem repeatLast?_spaced {r' : Reading} {min : Nat} {max : Option Nat}
    (h : r.repeatLast? min max = some r') : r'.spaced = r.spaced := by
  unfold repeatLast? at h
  split at h
  · cases h
  · cases h
  · cases h
  · cases h; rfl

/-- A repetition in braces after its opening brace. -/
theorem step_brace (cs : List Char) :
    r.step '\x7b' cs =
      ((readBounds r.spaced cs).map fun p => ((p.1, p.2.1), p.2.2)) >>= fun p =>
        (r.repeatLast? p.1.1 p.1.2).map fun (r' : Reading) =>
          (r', dropLazy (skip r'.spaced p.2)) := by
  simp only [step]
  cases readBounds r.spaced cs with
  | none => rfl
  | some p =>
      change (r.repeatLast? p.1 p.2.1 >>= _) = (r.repeatLast? p.1 p.2.1).map _
      cases r.repeatLast? p.1 p.2.1 <;> rfl

theorem local_step_brace : Local r.spaced 2 (r.step '\x7b') := by
  rw [funext step_brace]
  exact (local_readBounds r.spaced).bind fun p =>
    local_optional (r.repeatLast? p.1 p.2) fun r' h => by
      rw [repeatLast?_spaced h]
      exact local_skip r.spaced (local_dropLazy r')

/-- The characters that do more than stand for themselves. -/
def specials : List Char := ['(', ')', '|', '[', '?', '*', '+', '\x7b', '\\', '.', '^', '$']

theorem step_symbol (hc : c ∉ specials) (cs : List Char) :
    r.step c cs = some (r.push (.symbol ⟨c, false⟩), cs) := by
  unfold step
  split
  all_goals first
    | rfl
    | exact absurd (by decide) hc

theorem local_step (hc : c ≠ '\\') : Local r.spaced 2 (r.step c) := by
  by_cases hspecial : c ∈ specials
  · simp only [specials, List.mem_cons, List.not_mem_nil, or_false] at hspecial
    obtain rfl | rfl | rfl | rfl | rfl | rfl | rfl | rfl | rfl | rfl | rfl | rfl := hspecial
    · exact local_readOpening
    · exact local_optional r.closeGroup? fun r' _ => .pure r'
    · exact .pure _
    · exact local_readClass.map _
    · exact local_optional (r.repeatLast? 0 (some 1)) fun r' _ => local_dropLazy r'
    · exact local_optional (r.repeatLast? 0 none) fun r' _ => local_dropLazy r'
    · exact local_optional (r.repeatLast? 1 none) fun r' _ => local_dropLazy r'
    · exact local_step_brace
    · exact absurd rfl hc
    · exact .pure _
    · exact .pure _
    · exact .pure _
  · rw [funext (step_symbol hspecial)]
    exact .pure _

/-- After a backslash, everything but the edge of a word is read alike. -/
theorem local_step_escape (hc : c ≠ 'b') : Local r.spaced 2 fun cs => r.step '\\' (c :: cs) :=
  (local_readEscape hc).map _

theorem step_suffix {r' : Reading} (h : r.step c cs = some (r', rest)) : rest <:+ cs := by
  by_cases hc : c = '\\'
  · subst hc
    obtain ⟨⟨tree, after⟩, hescape, h⟩ := Option.map_eq_some_iff.mp h
    cases h
    cases cs with
    | nil => cases hescape
    | cons d cs => exact (readEscape_suffix hescape).trans (List.suffix_cons d cs)
  · exact (local_step hc).suffix h

theorem finish_succ (r : Reading) (n : Nat) (cs : List Char) :
    r.finish (n + 1) cs =
      match skip r.spaced cs with
      | [] => if r.frames.isEmpty then some r.body else none
      | c :: cs => r.step c cs >>= fun p => p.1.finish n p.2 := rfl

/-- More fuel than characters makes no difference. -/
theorem finish_fuel {n m : Nat} (hn : cs.length < n) (hm : cs.length < m) :
    r.finish n cs = r.finish m cs := by
  induction n generalizing m r cs with
  | zero => cases hn
  | succ n ih =>
      obtain _ | m := m
      · cases hm
      unfold finish
      cases hskip : skip r.spaced cs with
      | nil => rfl
      | cons c after =>
          refine Option.bind_congr fun ⟨r', rest⟩ hstep => ?_
          have hlength := Nat.lt_of_le_of_lt (step_suffix hstep).length_le (length_lt_of_skip hskip)
          exact ih (by omega) (by omega)

/-- Where blanks are not skipped, a reading goes on after one step. -/
theorem finish_cons {r' : Reading} (hr : r.spaced = false) (hstep : r.step c cs = some (r', rest)) :
    r.finish ((c :: cs).length + 1) (c :: cs) = r'.finish (rest.length + 1) rest := by
  have hskip : skip r.spaced (c :: cs) = c :: cs := by
    rw [hr]
    rfl
  have hlength := (step_suffix hstep).length_le
  rw [finish_succ, hskip]
  dsimp only
  rw [hstep]
  exact finish_fuel (Nat.lt_succ_of_le hlength) (Nat.lt_succ_self _)

/-! ## Groups around a reading -/

/-- The reading inside one more group. -/
def lift (r : Reading) (f : Frame) : Reading := { r with frames := r.frames ++ [f] }

variable {f : Frame}

@[simp] theorem lift_spaced (r : Reading) (f : Frame) : (r.lift f).spaced = r.spaced := rfl

@[simp] theorem lift_body (r : Reading) (f : Frame) : (r.lift f).body = r.body := rfl

theorem openNamed_lift (cs : List Char) :
    (r.lift f).openNamed cs = (r.openNamed cs).map fun p => (p.1.lift f, p.2) := by
  unfold openNamed
  cases readGroupName cs with
  | none => rfl
  | some p =>
      change (if r.names.contains p.1 then none else _) =
        Option.map _ (if r.names.contains p.1 then none else _)
      split <;> rfl

theorem readFlagGroup_lift (cs : List Char) :
    (r.lift f).readFlagGroup cs = (r.readFlagGroup cs).map fun p => (p.1.lift f, p.2) := by
  unfold readFlagGroup
  cases readFlags [] false false cs with
  | none => rfl
  | some p =>
      change (if p.2.1 == ':' then _ else if p.1.isEmpty then _ else _) =
        Option.map _ (if p.2.1 == ':' then _ else if p.1.isEmpty then _ else _)
      split
      · rfl
      · split <;> rfl

theorem readOpening_lift (cs : List Char) :
    (r.lift f).readOpening cs = (r.readOpening cs).map fun p => (p.1.lift f, p.2) := by
  unfold readOpening
  rw [lift_spaced]
  split
  · rfl
  · rfl
  · rfl
  · rfl
  · exact openNamed_lift _
  · exact openNamed_lift _
  · exact readFlagGroup_lift _
  · rfl

theorem repeatLast?_lift (min : Nat) (max : Option Nat) :
    (r.lift f).repeatLast? min max = (r.repeatLast? min max).map (lift · f) := by
  obtain ⟨_ | ⟨t, parts⟩, branches, frames, spaced, names⟩ := r
  · rfl
  · cases t <;> rfl

theorem closeGroup?_lift (h : r.frames ≠ []) :
    (r.lift f).closeGroup? = r.closeGroup?.map (lift · f) := by
  obtain ⟨parts, branches, _ | ⟨g, frames⟩, spaced, names⟩ := r
  · exact absurd rfl h
  · rfl

/-- A group around a reading changes nothing, as long as it is not closed. -/
theorem step_lift (h : c ≠ ')' ∨ r.frames ≠ []) (cs : List Char) :
    (r.lift f).step c cs = (r.step c cs).map fun p => (p.1.lift f, p.2) := by
  have hrepeat : ∀ min max, ((r.lift f).repeatLast? min max).map (fun r => (r, dropLazy cs)) =
      ((r.repeatLast? min max).map fun r => (r, dropLazy cs)).map
        fun p => (p.1.lift f, p.2) := by
    intro min max
    rw [repeatLast?_lift, Option.map_map, Option.map_map]
    rfl
  have hpart : ∀ o : Option (Tree × List Char),
      o.map (fun p => ((r.lift f).push p.1, p.2)) =
        (o.map fun p => (r.push p.1, p.2)).map fun p => (p.1.lift f, p.2) := by
    intro o
    rw [Option.map_map]
    rfl
  by_cases hspecial : c ∈ specials
  · simp only [specials, List.mem_cons, List.not_mem_nil, or_false] at hspecial
    obtain rfl | rfl | rfl | rfl | rfl | rfl | rfl | rfl | rfl | rfl | rfl | rfl := hspecial
    · exact readOpening_lift cs
    · change ((r.lift f).closeGroup?.map fun r => (r, cs)) =
        (r.closeGroup?.map fun r => (r, cs)).map _
      rw [closeGroup?_lift (h.resolve_left fun hc => hc rfl), Option.map_map, Option.map_map]
      rfl
    · rfl
    · exact hpart _
    · exact hrepeat _ _
    · exact hrepeat _ _
    · exact hrepeat _ _
    · rw [step_brace, step_brace, lift_spaced]
      cases readBounds r.spaced cs with
      | none => rfl
      | some p =>
          change ((r.lift f).repeatLast? p.1 p.2.1).map _ = ((r.repeatLast? p.1 p.2.1).map _).map _
          rw [repeatLast?_lift, Option.map_map, Option.map_map]
          rfl
    · exact hpart _
    · rfl
    · rfl
    · rfl
  · rw [step_symbol hspecial, step_symbol hspecial]
    rfl

end PageLayout.Pattern.Reading
