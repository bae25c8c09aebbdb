import PageLayout.Expression.Script
import PageLayout.Proofs.Expression.Spacing
import PageLayout.Proofs.Text.Separators

/-!
# Lines that define a name

`Defines` says how a line of a script defines a name as an expression: with a word that may
introduce the name, and with semicolons and a comment that may follow the expression.

Such a line is cut into its name and what stands behind the first equals sign
(`splitDefinition_content`).  A comment is cut off at the first two slashes in a row, wherever they
stand.  So the rest of the line is what comes before the slashes in what stands behind the sign
(`beforeComment_append`), without semicolons and blanks at its end (`trim_trimEnd`).
-/

namespace PageLayout

namespace Script

open Text (AllBlank)

/-! ## Lines that define a name -/

/-- A name can be written in an expression. -/
def IsName (name : String) : Prop := Token.Spelled (.name name) name.toList

/-- How the name of a definition is introduced.  The words that introduce names do not stand for
names of their own. -/
inductive Introduced (name : String) : List Char → Prop
  | plain : name ≠ "var" → name ≠ "let" → Introduced name name.toList
  | withVar {gap : List Char} : AllBlank gap → Introduced name ("var ".toList ++ (gap ++ name.toList))
  | withLet {gap : List Char} : AllBlank gap → Introduced name ("let ".toList ++ (gap ++ name.toList))

/-- A comment, or nothing. -/
inductive Comment : List Char → Prop
  | none : Comment []
  | slashes (text : List Char) : Comment ('/' :: '/' :: text)

/-- A line defines a name as an expression. -/
inductive Defines (name expression : String) : List Char → Prop
  | intro {margin opening gap before after semicolons tail comment : List Char} :
      IsName name → AllBlank margin → Introduced name opening → AllBlank gap → AllBlank before →
        AllBlank after → (∀ c ∈ semicolons, c = ';') → AllBlank tail → Comment comment →
          Defines name expression (margin ++ (opening ++ (gap ++ '=' :: (before ++
            (expression.toList ++ (after ++ (semicolons ++ (tail ++ comment))))))))

section Names

variable {name : String} {path : String} {opening gap cs : List Char}

theorem IsName.parts (h : IsName name) : ∀ c ∈ name.toList, Token.isNamePart c = true := by
  unfold IsName at h
  generalize hname : name.toList = word at h
  cases h with
  | name hc hparts _ => exact Token.isNamePart_of_name hc hparts

theorem IsName.word (h : IsName name) : Text.Word name.toList where
  ne_nil := by
    obtain ⟨c, cs, heq, -⟩ := Token.Spelled.head h
    rw [heq]
    exact List.cons_ne_nil c cs
  ink := fun c hc => Bool.eq_false_iff.2 fun hblank => by
    have hpart := h.parts c hc
    rw [(Token.not_part_of_isBlank hblank).2] at hpart
    cases hpart

/-- What separates a name from other things is not in it. -/
theorem IsName.notMem (h : IsName name) {d : Char} (hd : Token.isNamePart d = false) :
    d ∉ name.toList := fun hmem => by
  have hpart := h.parts d hmem
  rw [hd] at hpart
  cases hpart

/-- Only a word itself is read as the word. -/
theorem dropPrefix?_name (h : IsName name) {word : String} (hne : name ≠ word)
    (hword : ∀ c ∈ word.toList, Token.isNamePart c = true)
    (hcs : ∀ c ∈ cs.head?, Token.isNamePart c = false) :
    Text.dropPrefix? (word.toList ++ [' ']) (name.toList ++ cs) = none := by
  cases hdrop : Text.dropPrefix? (word.toList ++ [' ']) (name.toList ++ cs) with
  | none => rfl
  | some rest =>
      have heq := Placeholder.eq_of_dropPrefix? hdrop
      rw [List.append_assoc] at heq
      have hblank : ∀ c ∈ ([' '] ++ rest).head?, Token.isNamePart c = false := by
        rintro _ ⟨⟩
        decide
      have hrun := congrArg (List.takeWhile Token.isNamePart) heq
      rw [Text.takeWhile_run h.parts hcs, Text.takeWhile_run hword hblank] at hrun
      exact absurd (String.toList_inj.1 hrun) hne

/-- What stands before the expression starts with a character that is not blank. -/
theorem Introduced.head (hname : IsName name) (h : Introduced name opening) :
    ∃ c rest, opening = c :: rest ∧ isBlank c = false := by
  cases h with
  | plain =>
      obtain ⟨c, cs, heq, hc⟩ := Token.Spelled.head hname
      exact ⟨c, cs, heq, hc⟩
  | withVar => exact ⟨'v', _, rfl, by decide⟩
  | withLet => exact ⟨'l', _, rfl, by decide⟩

theorem Introduced.slash_notMem (hname : IsName name) (h : Introduced name opening) :
    '/' ∉ opening := by
  have hslash : '/' ∉ name.toList := hname.notMem (by decide +kernel)
  cases h with
  | plain => exact hslash
  | withVar hgap | withLet hgap =>
      simp only [List.mem_append, not_or]
      exact ⟨by decide, hgap.notMem (by decide), hslash⟩

/-- A definition is cut into its name and its expression. -/
theorem splitDefinition_dropKeyword (hname : IsName name) (hopening : Introduced name opening)
    (hgap : AllBlank gap) (cs : List Char) :
    splitDefinition path (dropKeyword (opening ++ (gap ++ '=' :: cs))) =
      .ok (name, String.ofList (Text.trim cs)) := by
  have hsplit : ∀ {lead : List Char}, AllBlank lead →
      splitDefinition path (lead ++ (name.toList ++ (gap ++ '=' :: cs))) =
        .ok (name, String.ofList (Text.trim cs)) := by
    intro lead hlead
    have hnot : '=' ∉ lead ++ (name.toList ++ gap) := by
      simp only [List.mem_append, not_or]
      exact ⟨hlead.notMem (by decide), hname.notMem (by decide +kernel), hgap.notMem (by decide)⟩
    have hcut : Text.splitOnce ['='] (lead ++ (name.toList ++ (gap ++ '=' :: cs))) =
        some (lead ++ (name.toList ++ gap), cs) := by
      have happend : Text.splitOnce ['='] (lead ++ (name.toList ++ gap) ++ (['='] ++ cs)) =
          some (lead ++ (name.toList ++ gap), cs) := Text.splitOnce_append hnot
      simpa only [List.append_assoc, List.cons_append, List.nil_append] using happend
    rw [splitDefinition, hcut]
    dsimp only
    rw [Text.trim_between hlead hgap hname.word.trimmed, String.ofList_toList]
  have hend : ∀ c ∈ (gap ++ '=' :: cs).head?, Token.isNamePart c = false := by
    intro c hc
    cases gap with
    | nil =>
        cases hc
        decide +kernel
    | cons b gap =>
        cases hc
        exact (Token.not_part_of_isBlank (hgap _ List.mem_cons_self)).2
  cases hopening with
  | plain hvar hlet =>
      have hnoVar : Text.dropPrefix? "var ".toList (name.toList ++ (gap ++ '=' :: cs)) = none :=
        dropPrefix?_name hname hvar (List.all_eq_true.mp rfl) hend
      have hnoLet : Text.dropPrefix? "let ".toList (name.toList ++ (gap ++ '=' :: cs)) = none :=
        dropPrefix?_name hname hlet (List.all_eq_true.mp rfl) hend
      rw [dropKeyword, hnoVar, hnoLet]
      exact @hsplit [] nofun
  | withVar hlead =>
      rw [List.append_assoc, List.append_assoc, dropKeyword, Text.dropPrefix?_append]
      exact hsplit hlead
  | withLet hlead =>
      have hnoVar : ∀ rest, Text.dropPrefix? "var ".toList ("let ".toList ++ rest) = none :=
        fun _ => rfl
      rw [List.append_assoc, List.append_assoc, dropKeyword, hnoVar, Text.dropPrefix?_append]
      exact hsplit hlead

end Names

/-! ## What is left of a line -/

section Content

variable {name : String} {path : String} {margin opening gap before after semicolons tail cs : List Char}

theorem beforeComment_append (hnone : Text.splitOnce ['/', '/'] cs = none)
    (hlast : cs.getLast? ≠ some '/') (rest : List Char) :
    beforeComment (cs ++ rest) = cs ++ beforeComment rest := by
  rw [beforeComment, beforeComment,
    Text.splitOnce_append_of_none hnone fun hslash => absurd hslash hlast]
  cases Text.splitOnce ['/', '/'] rest <;> rfl

theorem beforeComment_of_notMem (h : '/' ∉ cs) (rest : List Char) :
    beforeComment (cs ++ rest) = cs ++ beforeComment rest :=
  beforeComment_append (Text.splitOnce_eq_none h) (fun hlast => h (List.mem_of_getLast? hlast)) rest

theorem beforeComment_of_some (h : Text.splitOnce ['/', '/'] cs = some (before, after))
    (rest : List Char) : beforeComment (cs ++ rest) = before := by
  rw [beforeComment, Text.splitOnce_append_of_some h]

theorem Comment.beforeComment_eq (h : Comment cs) : beforeComment cs = [] := by
  cases h <;> rfl

/-- A text without the semicolons at its end, and the blanks around them. -/
def trimEnd (cs : List Char) : List Char :=
  Text.trimEnd (Text.dropEndWhile (· == ';') (Text.trimEnd cs))

/-- What is cut off a line with an equals sign stands behind the sign, but for the margin. -/
theorem content_append (hname : IsName name) (hmargin : AllBlank margin)
    (hopening : Introduced name opening) (hgap : AllBlank gap) (cs : List Char) :
    content (margin ++ (opening ++ (gap ++ '=' :: cs))) =
      opening ++ (gap ++ '=' :: trimEnd (beforeComment cs)) := by
  have hcomment : beforeComment (margin ++ (opening ++ (gap ++ '=' :: cs))) =
      margin ++ (opening ++ (gap ++ '=' :: beforeComment cs)) := by
    rw [beforeComment_of_notMem (hmargin.notMem (by decide)),
      beforeComment_of_notMem (hopening.slash_notMem hname),
      beforeComment_of_notMem (hgap.notMem (by decide))]
    have hsign : '/' ∉ ['='] := by decide
    have hrest : beforeComment ('=' :: cs) = '=' :: beforeComment cs :=
      beforeComment_of_notMem hsign cs
    rw [hrest]
  have hdrop : ∀ {p : Char → Bool}, p '=' = false → ∀ rest,
      Text.dropEndWhile p (opening ++ (gap ++ '=' :: rest)) =
        opening ++ (gap ++ '=' :: Text.dropEndWhile p rest) := by
    intro p hp rest
    rw [← List.append_assoc, Text.dropEndWhile_append hp, List.append_assoc]
  have htrim : ∀ {margin : List Char}, AllBlank margin → ∀ rest,
      Text.trim (margin ++ (opening ++ (gap ++ '=' :: rest))) =
        opening ++ (gap ++ '=' :: Text.trimEnd rest) := by
    intro margin hmargin rest
    obtain ⟨c, more, rfl, hc⟩ := hopening.head hname
    have hink : ∀ d ∈ (c :: more ++ (gap ++ '=' :: rest)).head?, isBlank d = false := by
      rintro _ ⟨⟩
      exact hc
    rw [Text.trim, Text.trimStart_append hmargin hink]
    exact hdrop (by decide) rest
  rw [content, hcomment, htrim hmargin, hdrop (by decide)]
  exact htrim (List.forall_mem_nil _) _

/-- A line that defines a name is cut into the name and the expression. -/
theorem splitDefinition_content (hname : IsName name) (hmargin : AllBlank margin)
    (hopening : Introduced name opening) (hgap : AllBlank gap) (cs : List Char) :
    splitDefinition path (dropKeyword (content (margin ++ (opening ++ (gap ++ '=' :: cs))))) =
      .ok (name, String.ofList (Text.trim (trimEnd (beforeComment cs)))) := by
  rw [content_append hname hmargin hopening hgap, splitDefinition_dropKeyword hname hopening hgap]

/-- Semicolons at the end are cut off with the blanks around them. -/
theorem trim_trimEnd (hcs : (Text.trimEnd cs).getLast? ≠ some ';')
    (hsemicolons : ∀ c ∈ semicolons, c = ';') (htail : AllBlank tail) :
    Text.trim (trimEnd (cs ++ (semicolons ++ tail))) = Text.trim cs := by
  have hstays : ∀ {cs : List Char}, cs.getLast? ≠ some ';' →
      Text.dropEndWhile (· == ';') cs = cs := fun hlast =>
    Text.dropEndWhile_of_getLast fun c hc => beq_eq_false_iff_ne.2 fun heq => hlast (heq ▸ hc)
  have hink : ∀ {cs : List Char}, cs.getLast? = some ';' → Text.trimEnd cs = cs := fun hlast =>
    Text.dropEndWhile_of_getLast fun c hc => by
      rw [hlast] at hc
      cases hc
      decide
  have hrun : ∀ c ∈ semicolons, (c == ';') = true := fun c hc => beq_iff_eq.2 (hsemicolons c hc)
  have hblanks : Text.trimEnd (cs ++ semicolons ++ tail) = Text.trimEnd (cs ++ semicolons) :=
    Text.dropEndWhile_append_run htail _
  rw [trimEnd, Text.trim_trimEnd, ← List.append_assoc, hblanks]
  cases hlast : semicolons.getLast? with
  | none => rw [List.getLast?_eq_none_iff.1 hlast, List.append_nil, hstays hcs, Text.trim_trimEnd]
  | some c =>
      -- No blank is cut off in front of the last semicolon.
      obtain rfl := hsemicolons c (List.mem_of_getLast? hlast)
      have hend : (cs ++ semicolons).getLast? = some ';' := by
        rw [List.getLast?_append, hlast, Option.some_or]
      have hsemicolon : cs.getLast? ≠ some ';' := fun hlast => hcs (by rw [hink hlast, hlast])
      rw [hink hend, Text.dropEndWhile_append_run hrun, hstays hsemicolon]

end Content

end Script

end PageLayout
