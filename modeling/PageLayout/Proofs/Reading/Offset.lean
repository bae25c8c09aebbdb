import PageLayout.Proofs.Decimal.Literal
import PageLayout.Proofs.Text.Indexes
import PageLayout.Proofs.Text.Separators

/-!
# Placeholders of an index

`IsOffset` says how a placeholder with an offset is written, and `Scan` how a text is cut into
pieces from left to right: a placeholder with an offset is a piece where one starts, any other
`@` is a piece that stands for the index itself, and every other character is a piece of its own.

A text has exactly one scan.  If the index and the offset of every piece give an integer of 64
bits, the pieces are replaced by their integers.  The first piece for which they do not is the
error (`fill_scan`).

A digit of another script makes no integer, and a placeholder with such digits is an error of its
own.  Nothing is said here of a text that has them.
-/

namespace PageLayout.Placeholder

open Text (AllBlank)

/-! ## Offsets -/

/-- The sign of an offset. -/
def signChar (negative : Bool) : Char := if negative then '-' else '+'

/-- What stands after the `@` of a placeholder with an offset, and what the offset is. -/
inductive IsOffset : (negative : Bool) → (amount : Nat) → List Char → Prop
  | braced {negative : Bool} {outer inner digits closing : List Char} :
      AllBlank outer → AllBlank inner → digits ≠ [] → (∀ c ∈ digits, Decimal.isDigit c = true) →
        AllBlank closing →
          IsOffset negative (Decimal.spell digits)
            ('\x7b' :: (outer ++ signChar negative :: (inner ++ (digits ++ (closing ++ ['\x7d'])))))

/-- A placeholder with an offset starts at the beginning of a text. -/
def StartsOffset (text : List Char) : Prop :=
  ∃ negative amount body rest, text = '@' :: (body ++ rest) ∧ IsOffset negative amount body

/-- All digits of a text are those from `0` to `9`. -/
def PlainDigits (text : List Char) : Prop :=
  ∀ c ∈ text, isDecimalDigit c = true → Decimal.isDigit c = true

instance (text : List Char) : Decidable (PlainDigits text) :=
  List.decidableBAll (fun c => isDecimalDigit c = true → Decimal.isDigit c = true) text

section Reading

variable {cs body rest digits : List Char} {negative : Bool} {amount : Nat} {o : Offset}

theorem isDecimalDigit_of_isDigit {c : Char} (h : Decimal.isDigit c = true) :
    isDecimalDigit c = true :=
  Decimal.all_of_isDigit (p := isDecimalDigit) (by decide) h

theorem isBlank_of_isDigit {c : Char} (h : Decimal.isDigit c = true) : isBlank c = false :=
  (Bool.not_eq_true' _).mp (Decimal.all_of_isDigit (p := fun c => !isBlank c) (by decide) h)

theorem readSign?_signChar (negative : Bool) (cs : List Char) :
    readSign? (signChar negative :: cs) = some (negative, cs) := by
  cases negative <;> rfl

/-- A placeholder with an offset is read as it is written. -/
theorem readOffset?_of_isOffset (h : IsOffset negative amount body) (rest : List Char) :
    ∃ digits, readOffset? (body ++ rest) = some (⟨negative, digits⟩, rest) ∧
      digits ≠ [] ∧ (∀ c ∈ digits, Decimal.isDigit c = true) ∧ amount = Decimal.spell digits := by
  obtain @⟨outer, inner, digits, closing, houter, hinner, hne, hdigits, hclosing⟩ := h
  refine ⟨digits, ?_, hne, hdigits, rfl⟩
  have hsign : ∀ c ∈ (signChar negative :: (inner ++ (digits ++ (closing ++ '\x7d' :: rest)))).head?,
      isBlank c = false := by
    intro c hc
    cases hc
    cases negative <;> rfl
  have hfirst : ∀ c ∈ (digits ++ (closing ++ '\x7d' :: rest)).head?, isBlank c = false := by
    intro c hc
    rw [List.head?_append, List.head?_eq_some_head hne, Option.some_or,
      ← List.head?_eq_some_head hne] at hc
    exact isBlank_of_isDigit (hdigits c (List.mem_of_mem_head? hc))
  have hrun : ∀ c ∈ digits, isDecimalDigit c = true := fun c hc =>
    isDecimalDigit_of_isDigit (hdigits c hc)
  have hend : ∀ c ∈ (closing ++ '\x7d' :: rest).head?, isDecimalDigit c = false := by
    intro c hc
    cases closing with
    | nil =>
        cases hc
        decide
    | cons b closing =>
        cases hc
        exact isDecimalDigit_eq_false (hclosing _ List.mem_cons_self)
  have hbrace : ∀ c ∈ ('\x7d' :: rest).head?, isBlank c = false := by
    rintro _ ⟨⟩
    decide
  have hempty : ¬digits.isEmpty = true := mt List.isEmpty_iff.1 hne
  have hbody : '\x7b' :: (outer ++ signChar negative :: (inner ++ (digits ++ (closing ++ ['\x7d'])))) ++
      rest = '\x7b' ::
        (outer ++ signChar negative :: (inner ++ (digits ++ (closing ++ '\x7d' :: rest)))) := by
    simp
  rw [hbody, readOffset?]
  simp only [Text.dropPrefix?, if_true, Option.bind_eq_bind, Option.bind_some,
    Text.trimStart_append houter hsign, readSign?_signChar, Text.trimStart_append hinner hfirst,
    Text.takeWhile_run hrun hend, Text.dropWhile_run hrun hend, Text.trimStart_append hclosing hbrace,
    if_neg hempty]

/-- What is read as an offset is written like one, if all its digits are those from `0` to `9`. -/
theorem isOffset_of_readOffset? (hplain : PlainDigits cs) (h : readOffset? cs = some (o, rest)) :
    ∃ body, cs = body ++ rest ∧ IsOffset o.negative (Decimal.spell o.digits) body := by
  simp only [readOffset?, Option.bind_eq_bind, Option.bind_eq_some_iff] at h
  obtain ⟨inner, hinner, ⟨negative, after⟩, hsign, last, hlast, hdigits⟩ := h
  split at hdigits
  next => cases hdigits
  next hne =>
    cases hdigits
    have hsigned : Text.trimStart inner = signChar negative :: after := by
      unfold readSign? at hsign
      split at hsign
      next heq =>
        cases hsign
        exact heq
      next heq =>
        cases hsign
        exact heq
      next => cases hsign
    generalize hrun : Text.trimStart after = run at *
    have hcs : cs = '\x7b' :: (inner.takeWhile isBlank ++ signChar negative ::
        (after.takeWhile isBlank ++ (run.takeWhile isDecimalDigit ++
          ((run.dropWhile isDecimalDigit).takeWhile isBlank ++ '\x7d' :: rest)))) := by
      have hclosed : Text.trimStart (run.dropWhile isDecimalDigit) = '\x7d' :: rest :=
        eq_of_dropPrefix? hlast
      have hend : (run.dropWhile isDecimalDigit).takeWhile isBlank ++ '\x7d' :: rest =
          run.dropWhile isDecimalDigit := by
        rw [← hclosed]
        exact List.takeWhile_append_dropWhile
      have hafter : after.takeWhile isBlank ++ run = after := by
        rw [← hrun]
        exact List.takeWhile_append_dropWhile
      have hfront : inner.takeWhile isBlank ++ signChar negative :: after = inner := by
        rw [← hsigned]
        exact List.takeWhile_append_dropWhile
      rw [hend, List.takeWhile_append_dropWhile, hafter, hfront]
      exact eq_of_dropPrefix? hinner
    refine ⟨'\x7b' :: (inner.takeWhile isBlank ++ signChar negative ::
        (after.takeWhile isBlank ++ (run.takeWhile isDecimalDigit ++
          ((run.dropWhile isDecimalDigit).takeWhile isBlank ++ ['\x7d'])))), ?_,
      .braced (fun _ => List.mem_takeWhile_imp) (fun _ => List.mem_takeWhile_imp)
        (mt List.isEmpty_iff.2 hne) (fun c hc => ?_) (fun _ => List.mem_takeWhile_imp)⟩
    · rw [hcs]
      simp
    · refine hplain c ?_ (List.mem_takeWhile_imp hc)
      rw [hcs]
      simp [hc]

/-- Where a placeholder with an offset starts, an offset is read. -/
theorem readOffset?_of_startsOffset (h : StartsOffset ('@' :: cs)) :
    ∃ o rest, readOffset? cs = some (o, rest) := by
  obtain ⟨negative, amount, body, rest, heq, hbody⟩ := h
  cases heq
  obtain ⟨digits, hread, -⟩ := readOffset?_of_isOffset hbody rest
  exact ⟨_, _, hread⟩

theorem not_startsOffset (h : readOffset? cs = none) : ¬StartsOffset ('@' :: cs) := by
  intro hstarts
  obtain ⟨o, rest, hread⟩ := readOffset?_of_startsOffset hstarts
  rw [h] at hread
  cases hread

/-- No offset is read where no placeholder with one starts. -/
theorem readOffset?_eq_none (hplain : PlainDigits cs) (h : ¬StartsOffset ('@' :: cs)) :
    readOffset? cs = none := by
  cases hread : readOffset? cs with
  | none => rfl
  | some read =>
      obtain ⟨o, rest⟩ := read
      obtain ⟨body, rfl, hbody⟩ := isOffset_of_readOffset? hplain hread
      exact absurd ⟨_, _, body, rest, rfl, hbody⟩ h

/-- Two offsets that start at one place are the same. -/
theorem IsOffset.unique {negative' : Bool} {amount' : Nat} {body' rest' : List Char}
    (h : IsOffset negative amount body) (h' : IsOffset negative' amount' body')
    (heq : body ++ rest = body' ++ rest') :
    negative = negative' ∧ amount = amount' ∧ body = body' ∧ rest = rest' := by
  obtain ⟨digits, hread, -, -, rfl⟩ := readOffset?_of_isOffset h rest
  obtain ⟨digits', hread', -, -, rfl⟩ := readOffset?_of_isOffset h' rest'
  rw [heq, hread'] at hread
  cases hread
  exact ⟨rfl, rfl, List.append_cancel_right heq, rfl⟩

end Reading

/-! ## Scans -/

/-- A piece of a text. -/
inductive Piece where
  /-- A character that is kept. -/
  | kept (c : Char)
  /-- A placeholder of the index itself. -/
  | index
  /-- A placeholder with an offset, and the offset. -/
  | offset (body : List Char) (negative : Bool) (amount : Nat)
deriving DecidableEq, Repr

/-- An index moved by an offset. -/
def moved (i : Int) (negative : Bool) (amount : Nat) : Int :=
  if negative then i - amount else i + amount

namespace Piece

/-- The characters of a piece. -/
def written : Piece → List Char
  | .kept c => [c]
  | .index => ['@']
  | .offset body _ _ => '@' :: body

/-- The characters that a piece is replaced by. -/
def shown (i : Int) : Piece → List Char
  | .kept c => [c]
  | .index => (toString i).toList
  | .offset _ negative amount => (toString (moved i negative amount)).toList

/-- The offset, or the index moved by it, is no integer of 64 bits. -/
def exceeds (i : Int) : Piece → Bool
  | .offset _ negative amount =>
      !(Decimal.fitsInt64 amount && Decimal.fitsInt64 (moved i negative amount))
  | _ => false

end Piece

/-- A text is cut into pieces from left to right. -/
inductive Scan : List Char → List Piece → Prop
  | nil : Scan [] []
  | kept {c : Char} {cs : List Char} {ps : List Piece} :
      c ≠ '@' → Scan cs ps → Scan (c :: cs) (.kept c :: ps)
  | index {cs : List Char} {ps : List Piece} :
      ¬StartsOffset ('@' :: cs) → Scan cs ps → Scan ('@' :: cs) (.index :: ps)
  | offset {negative : Bool} {amount : Nat} {body rest : List Char} {ps : List Piece} :
      IsOffset negative amount body → Scan rest ps →
        Scan ('@' :: (body ++ rest)) (.offset body negative amount :: ps)

theorem PlainDigits.of_suffix {rest text : List Char} (h : PlainDigits text) (hrest : rest <:+ text) :
    PlainDigits rest :=
  fun c hc => h c (hrest.subset hc)

section Filling

variable {i : Int} {text digits : List Char} {negative : Bool}

/-- An index is moved by the integer that the digits of the offset spell. -/
theorem shift?_eq (hne : digits ≠ []) (hdigits : ∀ c ∈ digits, Decimal.isDigit c = true)
    (body : List Char) :
    shift? i ⟨negative, digits⟩ =
      if (Piece.offset body negative (Decimal.spell digits)).exceeds i then none
      else some (moved i negative (Decimal.spell digits)) := by
  have hread : Decimal.readInt? digits = some (Decimal.spell digits : Int) :=
    Decimal.literal_iff.1 (.bare hne hdigits)
  rw [shift?, Decimal.readInt64?, hread, Option.bind_some, Piece.exceeds]
  cases Decimal.fitsInt64 (Decimal.spell digits) with
  | false => rfl
  | true =>
      show (if Decimal.fitsInt64 (moved i negative (Decimal.spell digits)) = true then _ else _) = _
      cases Decimal.fitsInt64 (moved i negative (Decimal.spell digits)) <;> rfl

namespace Scan

variable {ps ps' : List Piece}

/-- The pieces make up the text. -/
theorem written_eq (h : Scan text ps) : ps.flatMap Piece.written = text := by
  induction h with
  | nil => rfl
  | kept _ _ ih => rw [List.flatMap_cons, ih]; rfl
  | index _ _ ih => rw [List.flatMap_cons, ih]; rfl
  | offset _ _ ih => rw [List.flatMap_cons, ih]; rfl

/-- At every `@` either a placeholder with an offset starts, and only one, or none does. -/
theorem unique (h : Scan text ps) (h' : Scan text ps') : ps = ps' := by
  induction h generalizing ps' with
  | nil =>
      cases h'
      rfl
  | kept hc _ ih =>
      cases h' with
      | kept _ hscan' => rw [ih hscan']
      | index => exact absurd rfl hc
      | offset => exact absurd rfl hc
  | @index cs ps hindex _ ih =>
      generalize htext : '@' :: cs = text at h'
      cases h' with
      | nil => cases htext
      | kept hc' =>
          cases htext
          exact absurd rfl hc'
      | index _ hscan' =>
          cases htext
          rw [ih hscan']
      | offset hoffset' => exact absurd ⟨_, _, _, _, htext, hoffset'⟩ hindex
  | @offset negative amount body rest ps hoffset _ ih =>
      generalize htext : '@' :: (body ++ rest) = text at h'
      cases h' with
      | nil => cases htext
      | kept hc' =>
          cases htext
          exact absurd rfl hc'
      | index hindex' => exact absurd ⟨_, _, _, _, htext.symm, hoffset⟩ hindex'
      | offset hoffset' hscan' =>
          obtain ⟨rfl, rfl, rfl, rfl⟩ := hoffset.unique hoffset' (List.cons.inj htext).2
          rw [ih hscan']

/-- The pieces of a text are replaced one after the other, up to the first one for which there
is no index. -/
theorem fillChars_eq (h : Scan text ps) (hplain : PlainDigits text) :
    fillChars i text =
      match ps.find? (Piece.exceeds i) with
      | none => .ok (ps.flatMap (Piece.shown i))
      | some p => .error (.badIndex (String.ofList p.written)) := by
  induction h with
  | nil => exact fillChars_nil i
  | @kept c cs ps hc _ ih =>
      rw [fillChars_char hc, ih (hplain.of_suffix (List.suffix_cons c cs)),
        List.find?_cons_of_neg Bool.false_ne_true]
      cases ps.find? (Piece.exceeds i) <;> rfl
  | @index cs ps hindex _ ih =>
      have hrest : PlainDigits cs := hplain.of_suffix (List.suffix_cons '@' cs)
      rw [fillChars_index (readOffset?_eq_none hrest hindex), ih hrest,
        List.find?_cons_of_neg Bool.false_ne_true]
      cases ps.find? (Piece.exceeds i) <;> rfl
  | @offset negative amount body rest ps hoffset _ ih =>
      have hsuffix : rest <:+ '@' :: (body ++ rest) :=
        (List.suffix_append body rest).trans (List.suffix_cons _ _)
      obtain ⟨digits, hread, hne, hdigits, rfl⟩ := readOffset?_of_isOffset hoffset rest
      rw [fillChars_offset hread, shift?_eq hne hdigits body, ih (hplain.of_suffix hsuffix)]
      by_cases hexceeds : (Piece.offset body negative (Decimal.spell digits)).exceeds i = true
      · have hwhole : ('@' :: (body ++ rest)).take ((body ++ rest).length + 1 - rest.length) =
            '@' :: body := by
          rw [List.length_append, Nat.add_right_comm, Nat.add_sub_cancel]
          exact congrArg _ List.take_left
        rw [if_pos hexceeds, List.find?_cons_of_pos hexceeds, hwhole]
        rfl
      · rw [if_neg hexceeds, List.find?_cons_of_neg hexceeds]
        cases ps.find? (Piece.exceeds i) <;> rfl

/-- No placeholder is left in what the pieces show. -/
theorem at_notMem_shown (h : Scan text ps) : '@' ∉ ps.flatMap (Piece.shown i) := by
  have hindex (i : Int) : '@' ∉ (toString i).toList := fun hmem =>
    absurd (isIndexPart_of_mem hmem) (by decide)
  induction h with
  | nil => exact List.not_mem_nil
  | kept hc _ ih =>
      rw [List.flatMap_cons, List.mem_append]
      exact not_or.2 ⟨fun hmem => hc (List.mem_singleton.1 hmem).symm, ih⟩
  | index _ _ ih =>
      rw [List.flatMap_cons, List.mem_append]
      exact not_or.2 ⟨hindex _, ih⟩
  | offset _ _ ih =>
      rw [List.flatMap_cons, List.mem_append]
      exact not_or.2 ⟨hindex _, ih⟩

end Scan

/-- Every text has a scan. -/
theorem exists_scan : (text : List Char) → ∃ ps, Scan text ps
  | [] => ⟨[], .nil⟩
  | c :: cs => by
      obtain ⟨ps, hps⟩ := exists_scan cs
      by_cases hc : c = '@'
      · subst hc
        by_cases hstarts : StartsOffset ('@' :: cs)
        · obtain ⟨negative, amount, body, rest, heq, hoffset⟩ := hstarts
          cases heq
          have hlength : rest.length < ('@' :: (body ++ rest)).length := by
            rw [List.length_cons, List.length_append]
            omega
          obtain ⟨ps, hps⟩ := exists_scan rest
          exact ⟨_, .offset hoffset hps⟩
        · exact ⟨_, .index hstarts hps⟩
      · exact ⟨_, .kept hc hps⟩
termination_by text => text.length

end Filling

/-- A text whose digits are all those from `0` to `9` is filled piece by piece: the index takes the
place of an `@`, the index moved by the offset that of a placeholder with an offset, and all other
characters are kept in order, so that no `@` is left.  It is an error, and only then, if an offset
or an index moved by it is no integer of 64 bits, and the error names the first such placeholder. -/
theorem fill_scan (i : Int) (text : String) (hplain : PlainDigits text.toList) :
    (∃! ps, Scan text.toList ps) ∧
    ∀ ps, Scan text.toList ps →
      ps.flatMap Piece.written = text.toList ∧
      fill i text = (match ps.find? (Piece.exceeds i) with
        | none => .ok (String.ofList (ps.flatMap (Piece.shown i)))
        | some p => .error (.badIndex (String.ofList p.written))) ∧
      '@' ∉ ps.flatMap (Piece.shown i) ∧
      ((∃ e, fill i text = .error e) ↔ ∃ p ∈ ps, p.exceeds i = true) := by
  refine ⟨?_, fun ps hps => ?_⟩
  · obtain ⟨ps, hps⟩ := exists_scan text.toList
    exact ⟨ps, hps, fun _ hps' => hps'.unique hps⟩
  · have hfill : fill i text = (match ps.find? (Piece.exceeds i) with
        | none => .ok (String.ofList (ps.flatMap (Piece.shown i)))
        | some p => .error (.badIndex (String.ofList p.written))) := by
      rw [fill, hps.fillChars_eq hplain]
      cases ps.find? (Piece.exceeds i) <;> rfl
    refine ⟨hps.written_eq, hfill, hps.at_notMem_shown, ?_⟩
    rw [hfill, ← List.find?_isSome]
    cases ps.find? (Piece.exceeds i) <;> simp

/-- The index is moved below zero, a placeholder that is not closed stands for the index itself,
and the largest offset is one too many for the index 1. -/
theorem fill_scan_moved :
    fill 5 "a@\x7b - 7 \x7d@\x7b+1" = .ok "a-25\x7b+1" ∧
      fill 1 "@@\x7b+9223372036854775807\x7d" =
        .error (.badIndex "@\x7b+9223372036854775807\x7d") := by
  have hblank : AllBlank [' '] := List.forall_mem_singleton.2 rfl
  have hback : IsOffset true 7 ['\x7b', ' ', '-', ' ', '7', ' ', '\x7d'] :=
    @IsOffset.braced true [' '] [' '] ['7'] [' '] hblank hblank (by decide)
      (List.all_eq_true.mp rfl) hblank
  have hmoved : Scan "a@\x7b - 7 \x7d@\x7b+1".toList
      [.kept 'a', .offset ['\x7b', ' ', '-', ' ', '7', ' ', '\x7d'] true 7, .index, .kept '\x7b',
        .kept '+', .kept '1'] :=
    .kept (by decide) <| .offset hback <| .index (not_startsOffset rfl) <|
      .kept (by decide) <| .kept (by decide) <| .kept (by decide) .nil
  have hlargest : IsOffset false 9223372036854775807 "\x7b+9223372036854775807\x7d".toList :=
    @IsOffset.braced false [] [] "9223372036854775807".toList [] nofun nofun (by decide)
      (List.all_eq_true.mp rfl) nofun
  have hexceeds : Scan "@@\x7b+9223372036854775807\x7d".toList
      [.index, .offset "\x7b+9223372036854775807\x7d".toList false 9223372036854775807] :=
    .index (not_startsOffset rfl) (.offset hlargest .nil)
  exact ⟨((fill_scan 5 "a@\x7b - 7 \x7d@\x7b+1" (by decide)).2 _ hmoved).2.1,
    ((fill_scan 1 "@@\x7b+9223372036854775807\x7d" (by decide)).2 _ hexceeds).2.1⟩

end PageLayout.Placeholder
