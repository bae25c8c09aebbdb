import PageLayout.Proofs.Compilation.Padding
import PageLayout.Proofs.Compilation.Repetition
import PageLayout.Proofs.Compilation.Unnumbered

/-!
# Lists of indexes can be written out

A list of indexes and the object block below it are a short form of a text in which the block is
repeated, with each of the indexes in place of its placeholders.  `compileText_writtenOut` says
that the long form is compiled to the same layout, or ends with the same error, but for the
numbers of the lines.

No list may be waiting for its block already where the list stands: the block belongs to the
last list above it, and without that list to the one before.
-/

namespace PageLayout

namespace Line

variable {file : String} {above : Nat} {rows rows' : List (List Char)} {lines : List Line}

/-! ## The rows of an object block -/

/-- Rows are an object block: the name of an object, and rows below it that are indented or say
nothing.  Rows that say nothing may stand above the name. -/
inductive AreBlock : List (List Char) → Prop
  | name {raw : List Char} {below : List (List Char)} :
      isSilent raw = false → margin raw = [] → LineKind.of false (Text.trim raw) = .objectName →
        (∀ raw ∈ below, isSilent raw = true ∨ margin raw ≠ []) → AreBlock (raw :: below)
  | silent {raw : List Char} {rows : List (List Char)} :
      isSilent raw = true → AreBlock rows → AreBlock (raw :: rows)

theorem AreBlock.rowsStartFlush (h : AreBlock rows) : RowsStartFlush rows := by
  induction h with
  | name hs hmargin _ _ =>
      intro raw hraw
      rw [List.find?_cons_of_pos (by simp [hs])] at hraw
      cases hraw
      exact hmargin
  | silent hs _ ih =>
      intro raw hraw
      rw [List.find?_cons_of_neg (by simp [hs])] at hraw
      exact ih raw hraw

/-- Rows that are indented give lines that are. -/
theorem indented_of_scanUnnumbered (h : ∀ raw ∈ rows, isSilent raw = true ∨ margin raw ≠ [])
    (hlines : scanUnnumbered file above rows = .ok lines) : ∀ line ∈ lines, line.indented = true := by
  induction rows generalizing above lines with
  | nil =>
      cases hlines
      exact nofun
  | cons raw rows ih =>
      have hrows := fun raw hraw => h raw (List.mem_cons_of_mem _ hraw)
      cases hs : isSilent raw with
      | true =>
          rw [scanUnnumbered_silent hs] at hlines
          exact ih hrows hlines
      | false =>
          rw [scanUnnumbered_cons hs] at hlines
          split at hlines
          next => cases hlines
          next =>
            obtain ⟨below, hbelow, hlines⟩ := bind_eq_ok_iff.1 hlines
            cases hlines
            intro line hline
            obtain rfl | hline := List.mem_cons.1 hline
            · have hmargin : margin raw ≠ [] := (h raw List.mem_cons_self).resolve_left (by simp [hs])
              simpa using hmargin
            · exact ih hrows hbelow line hline

/-- The lines of an object block are one. -/
theorem AreBlock.exists_lines (h : AreBlock rows)
    (hlines : scanUnnumbered file above rows = .ok lines) :
    ∃ q : Paragraph, lines = q.lines ∧ q.IsBlock := by
  induction h with
  | @name raw below hs hmargin hk hbelow =>
      rw [scanUnnumbered_cons hs, hmargin] at hlines
      obtain ⟨lines, hscan, hlines⟩ := bind_eq_ok_iff.1 hlines
      cases hlines
      refine ⟨⟨_, lines⟩, rfl, ⟨rfl, indented_of_scanUnnumbered hbelow hscan⟩, ?_⟩
      rwa [String.toList_ofList]
  | silent hs _ ih =>
      rw [scanUnnumbered_silent hs] at hlines
      exact ih hlines

/-- A line has the text of a row. -/
theorem exists_row_of_scanUnnumbered (hlines : scanUnnumbered file above rows = .ok lines) :
    ∀ line ∈ lines, ∃ raw ∈ rows, line.text = String.ofList (Text.trim raw) := by
  induction rows generalizing above lines with
  | nil =>
      cases hlines
      exact nofun
  | cons raw rows ih =>
      have hrest : ∀ {above lines}, scanUnnumbered file above rows = .ok lines → ∀ line ∈ lines,
          ∃ raw' ∈ raw :: rows, line.text = String.ofList (Text.trim raw') := by
        intro above lines h line hline
        obtain ⟨raw', hraw', htext⟩ := ih h line hline
        exact ⟨raw', List.mem_cons_of_mem _ hraw', htext⟩
      cases hs : isSilent raw with
      | true =>
          rw [scanUnnumbered_silent hs] at hlines
          exact hrest hlines
      | false =>
          rw [scanUnnumbered_cons hs] at hlines
          split at hlines
          next => cases hlines
          next =>
            obtain ⟨below, hbelow, hlines⟩ := bind_eq_ok_iff.1 hlines
            cases hlines
            intro line hline
            obtain rfl | hline := List.mem_cons.1 hline
            · exact ⟨raw, List.mem_cons_self, rfl⟩
            · exact hrest hbelow line hline

/-! ## The row of a list -/

/-- A row is a list in brackets that is not indented. -/
structure IsList (row : List Char) : Prop where
  flush : margin row = []
  brackets : bracketed? (Text.trim row) = true

theorem head_of_bracketed {cs : List Char} (h : bracketed? cs = true) : cs.head? = some '[' := by
  rw [bracketed?, Bool.and_eq_true, beq_iff_eq] at h
  exact h.1

/-- A list in brackets is nothing else, where no definitions are read. -/
theorem kind_of_bracketed {cs : List Char} (h : bracketed? cs = true) :
    LineKind.of false cs = .indexList := by
  obtain ⟨cs, rfl⟩ := List.head?_eq_some_iff.1 (head_of_bracketed h)
  have hruler : ∀ c, '[' ≠ c → isRuler c ('[' :: cs) = false := by
    intro c hc
    rw [isRuler, List.all_cons, beq_false_of_ne hc, Bool.false_and, Bool.and_false]
  unfold LineKind.of
  rw [hruler '=' (by decide)]
  show (if isRuler '-' ('[' :: cs) = true then LineKind.ruler
    else if bracketed? ('[' :: cs) = true then LineKind.indexList else .objectName) = .indexList
  rw [hruler '-' (by decide), h]
  rfl

theorem IsList.isSilent_eq_false {row : List Char} (h : IsList row) : isSilent row = false := by
  obtain ⟨rest, hrest⟩ := List.head?_eq_some_iff.1 (head_of_bracketed h.brackets)
  obtain ⟨blanks, hblanks⟩ := Text.dropEndWhile_isPrefix isBlank (Text.trimStart row)
  have hstart : Text.trimStart row = '[' :: (rest ++ blanks) := by
    rw [← hblanks, ← List.cons_append, ← hrest]
    rfl
  rw [isSilent, hstart]
  rfl

theorem IsList.rowsStartFlush {row : List Char} (h : IsList row) (rows : List (List Char)) :
    RowsStartFlush (row :: rows) := by
  intro raw hraw
  rw [List.find?_cons_of_pos (by simp [h.isSilent_eq_false])] at hraw
  cases hraw
  exact h.flush

/-- The line of a list, without its number. -/
def listLine (file : String) (row : List Char) : Line :=
  ⟨String.ofList (Text.trim row), ⟨file, 0⟩, false⟩

theorem scanUnnumbered_list {row : List Char} (h : IsList row) :
    scanUnnumbered file above (row :: rows) = (do
      let lines ← scanUnnumbered file 0 rows
      return listLine file row :: lines) := by
  rw [scanUnnumbered_cons h.isSilent_eq_false, h.flush]
  rfl

/-- The lines of a text with a list and the block below it. -/
theorem exists_parts_of_scanUnnumbered {row : List Char} {before block after : List (List Char)}
    (hrow : IsList row) (hblock : AreBlock block) (hafter : RowsStartFlush after)
    (h : scanUnnumbered file 0 (before ++ row :: (block ++ after)) = .ok lines) :
    ∃ above q below, scanUnnumbered file 0 before = .ok above ∧
      scanUnnumbered file 0 block = .ok q.lines ∧ q.IsBlock ∧
      scanUnnumbered file 0 after = .ok below ∧
      lines = above ++ (listLine file row :: Paragraph.lines q ++ below) := by
  rw [scanUnnumbered_append (hrow.rowsStartFlush _), scanUnnumbered_list hrow,
    scanUnnumbered_append hafter] at h
  obtain ⟨aboveLines, habove, h⟩ := bind_eq_ok_iff.1 h
  obtain ⟨lines', h', h⟩ := bind_eq_ok_iff.1 h
  obtain ⟨lines'', h'', h'⟩ := bind_eq_ok_iff.1 h'
  obtain ⟨blockLines, hlines, h''⟩ := bind_eq_ok_iff.1 h''
  obtain ⟨below, hbelow, h''⟩ := bind_eq_ok_iff.1 h''
  obtain ⟨q, rfl, hq⟩ := hblock.exists_lines hlines
  cases h''
  cases h'
  cases h
  exact ⟨aboveLines, q, below, habove, hlines, hq, hbelow, rfl⟩

/-! ## Copies of rows -/

/-- Rows come from others by putting an index in place of their placeholders. -/
abbrev Filled (index : Int) : List (List Char) → List (List Char) → Prop :=
  List.Forall₂ fun raw raw' => Placeholder.fillChars index raw = .ok raw'

theorem Filled.rowsStartFlush {index : Int} (h : Filled index rows rows')
    (hflush : RowsStartFlush rows) : RowsStartFlush rows' := by
  induction h with
  | nil => exact nofun
  | @cons raw raw' rows rows' hraw _ ih =>
      have hs := Placeholder.isSilent_of_fillChars hraw
      have hmargin := (Placeholder.fillChars_trimStart hraw).1
      cases hsilent : isSilent raw with
      | true =>
          rw [hsilent] at hs
          intro x hx
          rw [List.find?_cons_of_neg (by simp [hs])] at hx
          refine ih (fun y hy => hflush y ?_) x hx
          rwa [List.find?_cons_of_neg (by simp [hsilent])]
      | false =>
          rw [hsilent] at hs
          intro x hx
          rw [List.find?_cons_of_pos (by simp [hs])] at hx
          cases hx
          rw [hmargin]
          exact hflush raw (by rw [List.find?_cons_of_pos (by simp [hsilent])]; rfl)

/-- The lines of filled rows are copies of the lines. -/
theorem Filled.scanUnnumbered {index : Int} (h : Filled index rows rows')
    (hlines : Line.scanUnnumbered file above rows = .ok lines) :
    ∃ copies, Line.scanUnnumbered file above rows' = .ok copies ∧
      List.Forall₂ (CopyOf index) lines copies := by
  induction h generalizing above lines with
  | nil =>
      cases hlines
      exact ⟨[], rfl, .nil⟩
  | @cons raw raw' rows rows' hraw _ ih =>
      have hs := Placeholder.isSilent_of_fillChars hraw
      have hmargin := (Placeholder.fillChars_trimStart hraw).1
      cases hsilent : isSilent raw with
      | true =>
          rw [hsilent] at hs
          rw [scanUnnumbered_silent hsilent] at hlines
          rw [scanUnnumbered_silent hs]
          exact ih hlines
      | false =>
          rw [hsilent] at hs
          rw [scanUnnumbered_cons hsilent] at hlines
          rw [scanUnnumbered_cons hs, hmargin]
          split at hlines
          next => cases hlines
          next =>
            obtain ⟨below, hbelow, hlines⟩ := bind_eq_ok_iff.1 hlines
            cases hlines
            obtain ⟨copies, hcopies, hforall⟩ := ih hbelow
            rw [hcopies]
            refine ⟨_, rfl, .cons ⟨rfl, rfl, ?_⟩ hforall⟩
            rw [Placeholder.fill, String.toList_ofList, Placeholder.fillChars_trim hraw]
            rfl

/-- Copies of the rows of a block give copies of the block. -/
theorem exists_copies {q : Paragraph} (hblock : AreBlock rows)
    (hlines : Line.scanUnnumbered file 0 rows = .ok q.lines) {indexes : List Int}
    {copies : List (List (List Char))} (h : List.Forall₂ (fun i copy => Filled i rows copy) indexes copies)
    (above : Nat) :
    RowsStartFlush copies.flatten ∧
      ∃ qs : List Paragraph, Line.scanUnnumbered file above copies.flatten =
          .ok (qs.flatMap Paragraph.lines) ∧
        List.Forall₂ (fun i copy => Paragraph.CopyOf i q copy) indexes qs := by
  induction h generalizing above with
  | nil => exact ⟨nofun, [], rfl, .nil⟩
  | @cons i copy indexes copies hcopy _ ih =>
      have hflush : RowsStartFlush copy := hcopy.rowsStartFlush hblock.rowsStartFlush
      obtain ⟨hrest, qs, hqs, hforall⟩ := ih 0
      obtain ⟨copyLines, hscan, hcopyOf⟩ := hcopy.scanUnnumbered hlines
      refine ⟨hflush.append hrest, ?_⟩
      cases hcopyOf with
      | @cons _ head _ below hhead hbelow =>
          refine ⟨⟨head, below⟩ :: qs, ?_, .cons ⟨hhead, hbelow⟩ hforall⟩
          rw [List.flatten_cons, scanUnnumbered_append hrest, scanUnnumbered_flush hflush 0, hscan, hqs]
          rfl

/-- The lines of a text, without their numbers, are those of its rows. -/
theorem scanUnnumbered_eq_ok_iff {text : String} :
    scanUnnumbered file 0 (Text.rows text.toList) = .ok lines ↔
      ∃ numbered, scan text file 0 = .ok numbered ∧
        numbered.map (Line.moved Place.unnumbered) = lines := by
  rw [scan_eq_scanFrom_rows]
  exact both_eq_ok_iff

end Line

/-! ## Reading the long form -/

/-- What a row with a list stands for, where the rows above it lead. -/
structure Job.Expands {π : Type} (j : Job π) (p : Progress) (row : List Char) (indexes : List Int) :
    Prop where
  /-- No definitions are read there. -/
  defining : p.cursor.defining = false
  /-- The values of its expressions make it a list of the indexes. -/
  read : ∃ text, (∀ place, j.substitute p.store none place (String.ofList (Text.trim row)) = .ok text) ∧
    IndexList.read (String.ofList (dropBrackets text.toList)) = .ok indexes

/-- A list without expressions stands for its own indexes. -/
theorem Job.expands_of_notMem {π : Type} {j : Job π} {p : Progress} {row : List Char}
    {indexes : List Int} (hdefining : p.cursor.defining = false) (hdollar : '$' ∉ Text.trim row)
    (hread : IndexList.read (String.ofList (dropBrackets (Text.trim row))) = .ok indexes) :
    j.Expands p row indexes :=
  ⟨hdefining, _, fun place => j.substitute_of_notMem p.store place (by rwa [String.toList_ofList]),
    by rwa [String.toList_ofList]⟩

namespace Job

variable {π : Type} [Page π] {j : Job π} {p : Progress}

/-- The lines of the long form ask in vain if those of the short form do, and they are read
alike. -/
theorem readRest_writtenOut {before after : List Line} {line : Line} {q : Paragraph}
    {copies : List Paragraph} (hflush : Line.StartFlush after) (hline : line.indented = false)
    (hcopies : ∀ copy ∈ copies, copy.IsBlock)
    (hread : ∀ p', j.readTo j.loader p before = .ok p' →
      j.readTo j.loader p' (line :: q.lines) = j.readTo j.loader p' (copies.flatMap Paragraph.lines))
    (hvain : j.AsksInVain j.loader p (before ++ (line :: q.lines ++ after))) :
    j.AsksInVain j.loader p (before ++ (copies.flatMap Paragraph.lines ++ after)) ∧
      j.readRest j.loader p (before ++ (line :: q.lines ++ after)) =
        j.readRest j.loader p (before ++ (copies.flatMap Paragraph.lines ++ after)) := by
  have hshort : Line.StartFlush (line :: q.lines) := by
    intro l hl
    cases hl
    exact hline
  have hlong := startFlush_flatMap_lines hcopies
  -- What is read before `after` is the same in both forms.
  have hto : j.readTo j.loader p (before ++ line :: q.lines) =
      j.readTo j.loader p (before ++ copies.flatMap Paragraph.lines) := by
    rw [readTo_append hshort, readTo_append hlong]
    cases hbefore : j.readTo j.loader p before with
    | error a => rfl
    | ok p' => exact hread p' hbefore
  rw [← List.append_assoc] at hvain
  rw [← List.append_assoc, ← List.append_assoc, readRest_append hflush, readRest_append hflush, hto]
  refine ⟨?_, rfl⟩
  rw [asksInVain_append_flush hflush] at hvain ⊢
  obtain ⟨hfirst, hrest⟩ := hvain
  refine ⟨?_, hto ▸ hrest⟩
  rw [asksInVain_append] at hfirst ⊢
  refine ⟨hfirst.1, fun p' _ => asksInVain_of_forall_ne p' fun l hl => ?_⟩
  obtain ⟨copy, hcopy, hl⟩ := List.mem_flatMap.1 hl
  obtain rfl | hl := List.mem_cons.1 hl
  · exact .inr (hcopies copy hcopy).name
  · exact .inl ((hcopies copy hcopy).indented.2 l hl)

end Job

/-! ## Results without line numbers -/

/-- Two results are the same but for the numbers of lines: two layouts that are equal without
them, or two errors of the same kind with the same text. -/
def SameUnnumbered : Except LayoutError Layout → Except LayoutError Layout → Prop
  | .ok l, .ok l' => l.moved Place.unnumbered = l'.moved Place.unnumbered
  | .error e, .error e' => e.kind = e'.kind ∧ e.bare = e'.bare
  | _, _ => False

theorem sameUnnumbered_of_eq {x y : Except LayoutError Layout}
    (h : both (LayoutError.moved Place.unnumbered) (Layout.moved Place.unnumbered) x =
      both (LayoutError.moved Place.unnumbered) (Layout.moved Place.unnumbered) y) :
    SameUnnumbered x y := by
  cases x with
  | ok l =>
      cases y with
      | ok l' => exact Except.ok.inj h
      | error e' => cases h
  | error e =>
      cases y with
      | ok l' => cases h
      | error e' =>
          have h : e.moved Place.unnumbered = e'.moved Place.unnumbered := Except.error.inj h
          have he := e.same_moved Place.unnumbered
          have he' := e'.same_moved Place.unnumbered
          rw [h] at he
          exact ⟨he.1.symm.trans he'.1, he.2.1.symm.trans he'.2.1⟩

/-- The shift that takes the numbers of lines and the names of files away. -/
def unnumbering : Shift := ⟨Place.unnumbered, 0, [], fun _ => []⟩

/-- Without the numbers of lines, a list and its block are read as the copies of the block are. -/
theorem Job.readTo_listLine {π : Type} [Page π] {j : Job π} {p : Progress} {path : String}
    {row : List Char} {indexes : List Int} {q : Paragraph} {copies : List Paragraph}
    (hpending : p.cursor.pending = .nothing) (hindexes : p.cursor.indexes = none)
    (hrow : Line.IsList row) (hexpands : j.Expands p row indexes) (hq : q.IsBlock)
    (hdollar : ∀ line ∈ q.lines, '$' ∉ line.text.toList)
    (hcopies : List.Forall₂ (fun i copy => Paragraph.CopyOf i q copy) indexes copies) :
    j.readTo j.loader (p.shift unnumbering) (Line.listLine path row :: q.lines) =
      j.readTo j.loader (p.shift unnumbering) (copies.flatMap Paragraph.lines) := by
  obtain ⟨hdefining, text, htext, hread⟩ := hexpands
  have hkind : LineKind.of false (Line.listLine path row).text.toList = .indexList := by
    rw [Line.listLine, String.toList_ofList]
    exact Line.kind_of_bracketed hrow.brackets
  have hmoved : j.substitute (p.store.shift unnumbering) none ⟨path, 0⟩
      (String.ofList (Text.trim row)) = .ok text := by
    have hshift := j.substitute_shift (σ := unnumbering) p.store none ⟨path, 0⟩
      (String.ofList (Text.trim row))
    rw [htext] at hshift
    exact hshift
  refine readTo_copies j.loader ?_ ?_ rfl (hdefining ▸ hkind) hmoved hread hq hdollar hcopies
  · rw [Progress.shift, Cursor.shift, hpending]
    rfl
  · rw [Progress.shift, Cursor.shift, hindexes]
    rfl

/-- Results that are the same but for the numbers of lines have all in common that does not
depend on them. -/
theorem SameUnnumbered.view_eq {x y : Except LayoutError Layout} (h : SameUnnumbered x y)
    {α : Type} (view : Layout → α)
    (hview : ∀ l : Layout, view (l.moved Place.unnumbered) = view l) :
    x.toOption.map view = y.toOption.map view := by
  cases x with
  | error e =>
      cases y with
      | error e' => rfl
      | ok l' => exact h.elim
  | ok l =>
      cases y with
      | error e' => exact h.elim
      | ok l' =>
          have hmoved : l.moved Place.unnumbered = l'.moved Place.unnumbered := h
          show some (view l) = some (view l')
          rw [← hview l, hmoved, hview l']

namespace Compiler

variable {π : Type} [Page π]

/-- The progress that the first rows of a text lead to, when the last object block in them is
completed. -/
def Reaches (c : Compiler π) (page : Option π) (text label : String) (before : List (List Char))
    (p : Progress) : Prop :=
  let j : Job π := ⟨c, page⟩
  let path := Path.normalize label
  ∃ lines, Line.scanFrom path 0 1 before = .ok lines ∧
    j.readTo j.loader ⟨Store.start.inside path text, .start⟩ lines = .ok p

/-- The progress at the start of any text of some path, unnumbered. -/
def startOf (path : String) : Progress :=
  ⟨⟨⟨[Path.directory path], []⟩, .empty, .empty, []⟩, .start⟩

theorem start_shift (path text : String) :
    (Progress.mk (Store.start.inside path text) .start).shift unnumbering = startOf path := by
  rw [Store.start_inside]
  rfl

/-- The lines of a text that is read alone ask in vain, wherever they stand. -/
theorem asksInVain_of_readsAlone {c : Compiler π} {page : Option π} {text label : String}
    {lines : List Line} (halone : c.ReadsAlone page text label)
    (hscan : Line.scan text (Path.normalize label) 0 = .ok lines) :
    Job.AsksInVain ⟨c, page⟩ (Job.loader ⟨c, page⟩) (startOf (Path.normalize label))
      (lines.map (Line.moved Place.unnumbered)) := by
  obtain ⟨done, halone⟩ := halone
  cases halone with
  | badText _ hs =>
      rw [hscan] at hs
      cases hs
  | text _ hs hlines =>
      rw [hscan] at hs
      cases hs
      rw [← start_shift _ text]
      exact (Job.asksInVain_shift (σ := unnumbering) rfl).2 (Job.asksInVain_of_runs hlines)

/-- The layout of a text that asks in vain is made of its lines without their numbers. -/
theorem unnumbered_compileText (c : Compiler π) (page : Option π) {text label : String}
    {lines : List Line} (hscan : Line.scan text (Path.normalize label) 0 = .ok lines)
    (h : Job.AsksInVain ⟨c, page⟩ (Job.loader ⟨c, page⟩) (startOf (Path.normalize label))
      (lines.map (Line.moved Place.unnumbered))) :
    both (LayoutError.moved Place.unnumbered) (Layout.moved Place.unnumbered)
        (c.compileText page text label) =
      Job.result ⟨c, page⟩ (Job.readRest ⟨c, page⟩ (Job.loader ⟨c, page⟩)
        (startOf (Path.normalize label)) (lines.map (Line.moved Place.unnumbered))) := by
  let j : Job π := ⟨c, page⟩
  let path := Path.normalize label
  have hcompile : c.compileText page text label =
      j.result (j.processText j.loader (Store.start.marked path text) path text) := rfl
  have hvain : j.AsksInVain j.loader ⟨Store.start.inside path text, .start⟩ lines := by
    rw [← start_shift path text] at h
    exact (Job.asksInVain_shift (σ := unnumbering) rfl).1 h
  have hread := hvain.readRest_shift (σ := unnumbering) rfl
  rw [start_shift] at hread
  rw [hcompile, Job.processText_eq, hscan]
  dsimp only
  rw [Job.result_leaving]
  exact (Job.result_shift (σ := unnumbering) rfl _).symm.trans (congrArg j.result hread.symm)

/-- A list of indexes and the block below it can be written out. -/
theorem compileText_writtenOut (c : Compiler π) (page : Option π) (text text' label : String)
    (before block after : List (List Char)) (list : List Char) (indexes : List Int)
    (copies : List (List (List Char)))
    (hrows : Text.rows text.toList = before ++ list :: (block ++ after))
    (hrows' : Text.rows text'.toList = before ++ (copies.flatten ++ after))
    (hscan : ∃ lines, Line.scan text (Path.normalize label) 0 = .ok lines)
    (halone : c.ReadsAlone page text label) (hrow : Line.IsList list)
    (hlist : ∀ p, c.Reaches page text label before p → Job.Expands ⟨c, page⟩ p list indexes)
    (hunused : ∀ p, c.Reaches page text label before p → p.cursor.indexes = none)
    (hblock : Line.AreBlock block) (hafter : Line.RowsStartFlush after)
    (hdollar : ∀ row ∈ block, '$' ∉ row)
    (hcopies : indexes.mapM (fun i => block.mapM (Placeholder.fillChars i)) = .ok copies) :
    SameUnnumbered (c.compileText page text label) (c.compileText page text' label) := by
  let j : Job π := ⟨c, page⟩
  let path := Path.normalize label
  obtain ⟨lines, hlines⟩ := hscan
  have hshort := Line.scanUnnumbered_eq_ok_iff.2 ⟨lines, hlines, rfl⟩
  rw [hrows] at hshort
  obtain ⟨above, q, below, habove, hq, hqblock, hbelow, hparts⟩ :=
    Line.exists_parts_of_scanUnnumbered hrow hblock hafter hshort
  obtain ⟨hflush, qs, hqs, hcopyOf⟩ := Line.exists_copies hblock hq
    ((forall₂_of_mapM hcopies).imp fun i copy h => forall₂_of_mapM h) 0
  -- The lines of the long form.
  have hlong : Line.scanUnnumbered path 0 (Text.rows text'.toList) =
      .ok (above ++ (qs.flatMap Paragraph.lines ++ below)) := by
    rw [hrows', Line.scanUnnumbered_append (hflush.append hafter), habove,
      Line.scanUnnumbered_append hafter, hqs, hbelow]
    rfl
  obtain ⟨lines', hlines', hparts'⟩ := Line.scanUnnumbered_eq_ok_iff.1 hlong
  have hvain := asksInVain_of_readsAlone halone hlines
  rw [hparts] at hvain
  have hread : ∀ p', j.readTo j.loader (startOf path) above = .ok p' →
      j.readTo j.loader p' (Line.listLine path list :: q.lines) =
        j.readTo j.loader p' (qs.flatMap Paragraph.lines) := by
    intro p' hp'
    have hvainAbove := (Job.asksInVain_append.1 hvain).1
    obtain ⟨numbered, hnumbered, rfl⟩ := both_eq_ok_iff.1 habove
    rw [← start_shift path text] at hp' hvainAbove
    have hshift := ((Job.asksInVain_shift (σ := unnumbering) rfl).1 hvainAbove).readTo_shift
      (σ := unnumbering) rfl
    obtain ⟨p, hp, rfl⟩ := both_eq_ok_iff.1 (hshift.symm.trans hp')
    have hreach : c.Reaches page text label before p := ⟨numbered, hnumbered, hp⟩
    refine Job.readTo_listLine (Job.pending_of_readTo hp) (hunused p hreach) hrow (hlist p hreach)
      hqblock (fun line hline hmem => ?_) hcopyOf
    obtain ⟨row, hmemRow, htext⟩ := Line.exists_row_of_scanUnnumbered hq line hline
    rw [htext, String.toList_ofList] at hmem
    exact hdollar row hmemRow <| (List.dropWhile_suffix _).subset <|
      (Text.dropEndWhile_isPrefix _ _).subset hmem
  have hblocks : ∀ copy ∈ qs, copy.IsBlock := by
    intro copy hcopy
    obtain ⟨i, _, h⟩ := exists_of_mem_right hcopyOf hcopy
    exact h.isBlock hqblock
  obtain ⟨hvain', hsame⟩ := Job.readRest_writtenOut (Line.startFlush_of_scanUnnumbered hafter hbelow)
    rfl hblocks hread hvain
  refine sameUnnumbered_of_eq ?_
  rw [unnumbered_compileText c page hlines (hparts ▸ hvain),
    unnumbered_compileText c page hlines' (hparts' ▸ hvain'), hparts, hparts', hsame]

/-- What a text comes to in the rows above a list, it comes to wherever they lead. -/
theorem view_of_reaches {c : Compiler π} {page : Option π} {text label : String}
    {before : List (List Char)} {α : Type} (view : Progress → α) {a : α}
    (h : (Line.scanFrom (Path.normalize label) 0 1 before).toOption.bind (fun lines =>
      (Job.readTo ⟨c, page⟩ (Job.loader ⟨c, page⟩)
        ⟨Store.start.inside (Path.normalize label) text, .start⟩ lines).toOption.map view) = some a)
    {p : Progress} (hp : c.Reaches page text label before p) : view p = a := by
  obtain ⟨lines, hlines, hread⟩ := hp
  rw [hlines] at h
  exact Option.some.inj ((congrArg (fun x => x.toOption.map view) hread).symm.trans h)

/-- A text with columns in a list. -/
def columnsText : String :=
  "@ all\n[7, 3 to 4]\ncolumn-@\n visible\n near: column-@\x7b+1\x7d 10px right\n@ rest\nfooter\n visible\n"

/-- The same text with the columns written out. -/
def columnsTextWrittenOut : String :=
  "@ all\ncolumn-7\n visible\n near: column-8 10px right\ncolumn-3\n visible\n near: column-4 10px right\ncolumn-4\n visible\n near: column-5 10px right\n@ rest\nfooter\n visible\n"

/-- The columns of a list can be written out. -/
theorem compileText_writtenOut_columns :
    (∃ l, bare.compileText none columnsText "columns" = .ok l ∧
      l.sections.map (fun own => own.objects.map (·.object)) =
        [["column-7", "column-3", "column-4"], ["footer"]]) ∧
    SameUnnumbered (bare.compileText none columnsText "columns")
      (bare.compileText none columnsTextWrittenOut "columns") := by
  constructor
  · exact exists_ok_of_toOption (by decide +kernel)
  · have hview : ∀ p, bare.Reaches none columnsText "columns" ["@ all".toList] p →
        (p.cursor.defining, p.cursor.indexes) = (false, none) := fun p hp =>
      view_of_reaches (fun p => (p.cursor.defining, p.cursor.indexes)) (by decide +kernel) hp
    exact compileText_writtenOut bare none columnsText columnsTextWrittenOut "columns"
      ["@ all".toList]
      ["column-@".toList, " visible".toList, " near: column-@\x7b+1\x7d 10px right".toList]
      ["@ rest".toList, "footer".toList, " visible".toList] "[7, 3 to 4]".toList [7, 3, 4]
      [["column-7".toList, " visible".toList, " near: column-8 10px right".toList],
        ["column-3".toList, " visible".toList, " near: column-4 10px right".toList],
        ["column-4".toList, " visible".toList, " near: column-5 10px right".toList]]
      (by decide +kernel) (by decide +kernel) ⟨_, rfl⟩
      (readsAlone_of_no_files (fun _ => ⟨_, rfl⟩) none columnsText "columns")
      ⟨by decide, by decide⟩
      (fun p hp => Job.expands_of_notMem (congrArg Prod.fst (hview p hp)) (by decide)
        (by decide +kernel))
      (fun p hp => congrArg Prod.snd (hview p hp))
      (.name (by decide) (by decide) (by decide) (by decide))
      (by unfold Line.RowsStartFlush; decide) (by decide) (by decide +kernel)

/-- It is not enough that the line right above a list is no list.  A list further above is still
waiting for the block here, and it gets the copy. -/
theorem compileText_not_writtenOut :
    ¬ ∀ (text text' label : String) (before block after : List (List Char)) (list : List Char)
        (indexes : List Int) (copies : List (List (List Char))),
      Text.rows text.toList = before ++ list :: (block ++ after) →
      Text.rows text'.toList = before ++ (copies.flatten ++ after) →
      (∃ lines, Line.scan text (Path.normalize label) 0 = .ok lines) →
      bare.ReadsAlone none text label → Line.IsList list →
      (∀ p, bare.Reaches none text label before p → Job.Expands ⟨bare, none⟩ p list indexes) →
      (∀ row ∈ (before.filter fun raw => !Line.isSilent raw).getLast?, ¬ Line.IsList row) →
      Line.AreBlock block → Line.RowsStartFlush after → (∀ row ∈ block, '$' ∉ row) →
      indexes.mapM (fun i => block.mapM (Placeholder.fillChars i)) = .ok copies →
      SameUnnumbered (bare.compileText none text label) (bare.compileText none text' label) := by
  intro h
  have hdefining : ∀ p, bare.Reaches none "[1, 2]\n@@ set x 1\n[3]\nbox-@\n visible\n" "boxes"
      ["[1, 2]".toList, "@@ set x 1".toList] p → p.cursor.defining = false := fun p hp =>
    view_of_reaches (fun p => p.cursor.defining) (by decide +kernel) hp
  have hsame := h "[1, 2]\n@@ set x 1\n[3]\nbox-@\n visible\n" "[1, 2]\n@@ set x 1\nbox-3\n visible\n"
    "boxes" ["[1, 2]".toList, "@@ set x 1".toList] ["box-@".toList, " visible".toList] []
    "[3]".toList [3] [["box-3".toList, " visible".toList]]
    (by decide +kernel) (by decide +kernel) ⟨_, rfl⟩
    (readsAlone_of_no_files (fun _ => ⟨_, rfl⟩) none _ "boxes") ⟨by decide, by decide⟩
    (fun p hp => Job.expands_of_notMem (hdefining p hp) (by decide) (by decide +kernel))
    (by
      intro row hrow
      cases hrow
      exact fun hlist => absurd hlist.brackets (by decide))
    (.name (by decide) (by decide) (by decide) (by decide))
    (by unfold Line.RowsStartFlush; decide) (by decide) (by decide +kernel)
  have hcounts := hsame.view_eq (fun l => l.sections.map fun own => own.objects.length)
    fun l => by simp [Layout.moved, Section.moved]
  exact absurd hcounts (by decide +kernel)

end Compiler

end PageLayout
