import PageLayout.Page.Snapshot
import PageLayout.Proofs.Expression.Definition
import PageLayout.Proofs.Expression.Persistence
import PageLayout.Proofs.Expression.Slashes
import PageLayout.Proofs.Expression.Value

/-!
# The definitions of a script

A line defines its name as the value of its expression, if no two slashes in a row occur in the
expression (`defineAll_defines`).  Such slashes are taken as the start of a comment, also inside
quotes, and the open quote that is left is an error (`defineAll_slashes`).

The lines of a script are evaluated one after the other, each in the scope after the ones before
it (`defineAll_append`).  So `definitions_defines` says of a line that defines a name what it adds
to any script, and of a script of such lines what all of its definitions are.
-/

namespace PageLayout

section

variable {π : Type}

/-- A scope after some definitions. -/
def Scope.after (s : Scope π) (definitions : List (String × Value)) : Scope π :=
  { s with values := definitions.foldl (fun values d => values.insert d.1 d.2) s.values }

theorem Scope.after_append (s : Scope π) (ds ds' : List (String × Value)) :
    s.after (ds ++ ds') = (s.after ds).after ds' := by
  rw [after, after, after, List.foldl_append]

end

namespace Script

open Text (AllBlank)

/-! ## What is read of a line -/

section Reading

variable {name expression : String} {path : String} {v : Value} {line margin opening gap : List Char}
  {before after semicolons tail cs : List Char}

variable {π : Type} [Page π] {s : Scope π}

/-- The tokens of an expression with a value, and what stands between them. -/
theorem exists_scanned (h : evaluate s expression = .ok v) :
    ∃ ts, Token.scan expression.toList = .ok ts ∧ Token.Solid ts ∧
      Token.Scanned expression.toList ts := by
  obtain ⟨ts, _, hscan, hderives, -⟩ := sentence_of_evaluate h
  exact ⟨ts, hscan, hderives.solid, Token.scanned_of_scan hscan⟩

/-- What is left of an expression with semicolons has the value of the expression. -/
theorem evaluate_trimEnd (h : evaluate s expression = .ok v) (hbefore : AllBlank before)
    (hafter : AllBlank after) (hsemicolons : ∀ c ∈ semicolons, c = ';') (htail : AllBlank tail) :
    evaluate s (String.ofList (Text.trim (trimEnd
      (before ++ (expression.toList ++ (after ++ (semicolons ++ tail))))))) = .ok v := by
  have htrim : Text.trim (before ++ (expression.toList ++ after)) = Text.trim expression.toList := by
    rw [Text.trim_allBlank_append hbefore, Text.trim_append_allBlank hafter]
  have hlast : (Text.trimEnd (before ++ (expression.toList ++ after))).getLast? ≠ some ';' := by
    obtain ⟨ts, hscan, -⟩ := exists_scanned h
    have hleft : Token.scan (Text.trimEnd (before ++ (expression.toList ++ after))) = .ok ts := by
      rw [← Token.scan_trim, Text.trim_trimEnd, htrim, Token.scan_trim, hscan]
    exact fun hlast => ((Token.scanned_of_scan hleft).last hlast rfl).1 rfl
  have hsame : Token.scan expression.toList =
      Token.scan (String.ofList (Text.trim expression.toList)).toList := by
    rw [String.toList_ofList, Token.scan_trim]
  have hparts : before ++ (expression.toList ++ (after ++ (semicolons ++ tail))) =
      before ++ (expression.toList ++ after) ++ (semicolons ++ tail) := by
    simp only [List.append_assoc]
  rw [hparts, trim_trimEnd hlast hsemicolons htail, htrim]
  exact persists_of_scan_eq hsame v h

/-- Nothing is read of an expression with an open quote. -/
theorem evaluate_openQuote (h : Token.OpenQuote cs) (s : Scope π) :
    ∃ text fault, evaluate s (String.ofList (Text.trim (trimEnd cs))) =
      .error (.malformed text fault) := by
  have hblank : isBlank '"' = false ∧ isBlank '\'' = false := by decide
  have hopen : Token.OpenQuote (trimEnd cs) :=
    ((h.dropEndWhile hblank).dropEndWhile (by decide)).dropEndWhile hblank
  rw [evaluate, String.toList_ofList, Token.scan_trim]
  cases hscan : Token.scan (trimEnd cs) with
  | error fault => exact ⟨_, fault, rfl⟩
  | ok ts => exact absurd hscan (hopen.scan_ne ts)

/-- A line with a name and an equals sign defines the name as what is left behind the sign. -/
theorem defineAll_cons (hname : IsName name) (hmargin : AllBlank margin)
    (hopening : Introduced name opening) (hgap : AllBlank gap) (lines : List (List Char)) :
    defineAll path s ((margin ++ (opening ++ (gap ++ '=' :: cs))) :: lines) = do
      let value ← evaluate s (String.ofList (Text.trim (trimEnd (beforeComment cs))))
      let others ← defineAll path (s.after [(name, value)]) lines
      return (name, value) :: others := by
  have hsome : ¬(content (margin ++ (opening ++ (gap ++ '=' :: cs)))).isEmpty = true := by
    obtain ⟨c, rest, rfl, -⟩ := hopening.head hname
    rw [content_append hname hmargin hopening hgap]
    nofun
  rw [defineAll, if_neg hsome, splitDefinition_content hname hmargin hopening hgap]
  rfl

/-- A line defines its name as the value of its expression, if no slashes are in the expression. -/
theorem defineAll_defines (h : Defines name expression line)
    (hslashes : ¬['/', '/'] <:+: expression.toList) (hv : evaluate s expression = .ok v)
    (lines : List (List Char)) :
    defineAll path s (line :: lines) =
      (defineAll path (s.after [(name, v)]) lines).map ((name, v) :: ·) := by
  obtain ⟨hname, hmargin, hopening, hgap, hbefore, hafter, hsemicolons, htail, hcomment⟩ := h
  have hblank : isBlank '/' = false := by decide
  have hlast : expression.toList.getLast? ≠ some '/' := by
    obtain ⟨ts, -, hsolid, hscanned⟩ := exists_scanned hv
    exact fun hlast => hsolid.last ((hscanned.last hlast rfl).2 rfl)
  have hsemicolon : ∀ {cs : List Char}, (∀ c ∈ cs, c = ';') → '/' ∉ cs := fun h hmem =>
    absurd (h _ hmem) (by decide)
  rw [defineAll_cons hname hmargin hopening hgap, beforeComment_of_notMem (hbefore.notMem hblank),
    beforeComment_append ((Text.splitOnce_eq_none_iff (List.cons_ne_nil '/' ['/'])).2 hslashes) hlast,
    beforeComment_of_notMem (hafter.notMem hblank), beforeComment_of_notMem (hsemicolon hsemicolons),
    beforeComment_of_notMem (htail.notMem hblank), hcomment.beforeComment_eq, List.append_nil,
    evaluate_trimEnd hv hbefore hafter hsemicolons htail]
  change (do
    let others ← defineAll path (s.after [(name, v)]) lines
    return (name, v) :: others) = _
  cases defineAll path (s.after [(name, v)]) lines <;> rfl

/-- A line with two slashes in a row in its expression is an error. -/
theorem defineAll_slashes (h : Defines name expression line)
    (hslashes : ['/', '/'] <:+: expression.toList) (hv : evaluate s expression = .ok v)
    (lines : List (List Char)) :
    ∃ text fault, defineAll path s (line :: lines) = .error (.malformed text fault) := by
  obtain ⟨hname, hmargin, hopening, hgap, hbefore, -, -, -, -⟩ := h
  obtain ⟨ts, -, hsolid, hscanned⟩ := exists_scanned hv
  cases hcut : Text.splitOnce ['/', '/'] expression.toList with
  | none => exact absurd hslashes ((Text.splitOnce_eq_none_iff (List.cons_ne_nil '/' ['/'])).1 hcut)
  | some parts =>
      obtain ⟨first, rest⟩ := parts
      have hopen := (hscanned.openQuote hsolid.chain hcut).append
        (.of_notMem fun c hc => Template.notMem_delimiters (.inl (hbefore c hc)))
      obtain ⟨text, fault, herror⟩ := evaluate_openQuote hopen s
      refine ⟨text, fault, ?_⟩
      rw [defineAll_cons hname hmargin hopening hgap, beforeComment_of_notMem (hbefore.notMem (by decide)),
        beforeComment_of_some hcut, herror]
      rfl

end Reading

/-! ## The lines of a script -/

section Lines

variable {π : Type} [Page π] {s : Scope π} {path : String}

/-- The lines of a script are evaluated in the scope after the lines before them. -/
theorem defineAll_append (path : String) (s : Scope π) (lines lines' : List (List Char)) :
    defineAll path s (lines ++ lines') = do
      let ds ← defineAll path s lines
      let others ← defineAll path (s.after ds) lines'
      return ds ++ others := by
  induction lines generalizing s with
  | nil =>
      rw [List.nil_append, defineAll]
      change defineAll path s lines' = (defineAll path s lines').map id
      cases defineAll path s lines' <;> rfl
  | cons line lines ih =>
      rw [List.cons_append, defineAll, defineAll]
      split
      next => exact ih s
      next =>
        simp only [bind_assoc, pure_bind]
        refine bind_congr fun d => bind_congr fun value => ?_
        rw [ih]
        simp only [bind_assoc, pure_bind]
        rfl

/-- Lines that say the same give the same definitions. -/
theorem defineAll_congr {lines lines' : List (List Char)}
    (h : List.Forall₂ (fun line line' => content line = content line') lines lines') (s : Scope π) :
    defineAll path s lines = defineAll path s lines' := by
  induction h generalizing s with
  | nil => rfl
  | cons hline _ ih =>
      rw [defineAll, defineAll, hline]
      simp only [ih]

/-- A carriage return at the end of a line does not count. -/
theorem content_dropReturn (line : List Char) : content (Text.dropReturn line) = content line := by
  obtain h | h := Text.eq_dropReturn_or line
  · rw [← h]
  · generalize Text.dropReturn line = cs at h
    subst h
    cases hcut : Text.splitOnce ['/', '/'] cs with
    | some parts => rw [content, content, beforeComment_of_some hcut, beforeComment, hcut]
    | none =>
        have hreturn : beforeComment (cs ++ ['\r']) = beforeComment cs ++ ['\r'] := by
          have hjoin : cs.getLast? = some '/' → ['\r'].head? ≠ some '/' := fun _ => by decide
          rw [beforeComment, Text.splitOnce_append_of_none hcut hjoin, beforeComment, hcut]
          rfl
        rw [content, content, hreturn, Text.trim_concat (by decide)]

/-- The text of lines, with line feeds between them. -/
def ofLines (lines : List (List Char)) : String := String.ofList (['\n'].intercalate lines)

/-- A script has the definitions of its lines. -/
theorem definitions_ofLines {lines : List (List Char)} (h : ∀ line ∈ lines, '\n' ∉ line)
    (path : String) (s : Scope π) : definitions path (ofLines lines) s = defineAll path s lines := by
  have hrows := @Text.forall₂_lines_rows (fun line line' => content line = content line')
    (fun _ => rfl) content_dropReturn (['\n'].intercalate lines)
  rw [definitions, ofLines, String.toList_ofList, defineAll_congr hrows, Text.rows]
  cases lines with
  | nil => rfl
  | cons line lines =>
      rw [Text.splitAt_join h (List.cons_ne_nil line lines)]
      split
      next hnil => cases List.reverse_eq_nil_iff.1 hnil
      next ended hended =>
        -- An empty line at the end says nothing.
        rw [List.reverse_eq_iff.1 hended, List.reverse_cons, defineAll_append]
        cases defineAll path s ended.reverse with
        | error e => rfl
        | ok ds => exact congrArg Except.ok (List.append_nil ds).symm
      next last ended _ hended => rw [List.reverse_eq_iff.1 hended]

/-- The lines of a script define names, each in the scope after the lines before it. -/
inductive DefinesAll : Scope π → List (List Char) → List (String × Value) → Prop
  | nil {s : Scope π} : DefinesAll s [] []
  | cons {s : Scope π} {name expression : String} {v : Value} {line : List Char}
      {lines : List (List Char)} {ds : List (String × Value)} :
      Defines name expression line → ¬['/', '/'] <:+: expression.toList →
        evaluate s expression = .ok v → DefinesAll (s.after [(name, v)]) lines ds →
          DefinesAll s (line :: lines) ((name, v) :: ds)

theorem DefinesAll.defineAll {lines : List (List Char)} {ds : List (String × Value)}
    (h : DefinesAll s lines ds) (path : String) : defineAll path s lines = .ok ds := by
  induction h with
  | nil => rfl
  | cons hline hslashes hv _ ih =>
      rw [defineAll_defines hline hslashes hv, ih]
      rfl

end Lines

/-- A line that defines a name as an expression adds the name with the value that the expression
has after the lines above, if there are no two slashes in a row in the expression.  With such
slashes the line is an error.  A script of lines of the first kind has all of their definitions. -/
theorem definitions_defines {π : Type} [Page π] (path : String) (s : Scope π) :
    (∀ (above below : List (List Char)) (line : List Char) (name expression : String)
        (ds : List (String × Value)) (v : Value),
      (∀ l ∈ above ++ line :: below, '\n' ∉ l) → definitions path (ofLines above) s = .ok ds →
        Defines name expression line → evaluate (s.after ds) expression = .ok v →
          (¬['/', '/'] <:+: expression.toList →
            definitions path (ofLines (above ++ line :: below)) s =
              (definitions path (ofLines below) (s.after (ds ++ [(name, v)]))).map
                (ds ++ [(name, v)] ++ ·)) ∧
          (['/', '/'] <:+: expression.toList → ∃ text fault,
            definitions path (ofLines (above ++ line :: below)) s =
              .error (.malformed text fault))) ∧
    ∀ (lines : List (List Char)) (ds : List (String × Value)), (∀ line ∈ lines, '\n' ∉ line) →
      DefinesAll s lines ds → definitions path (ofLines lines) s = .ok ds := by
  refine ⟨fun above below line name expression ds v hlines habove hline hv => ?line,
    fun lines ds hlines h => ?lines⟩
  case line =>
    obtain ⟨hfirst, hrest⟩ := List.forall_mem_append.1 hlines
    obtain ⟨-, hlast⟩ := List.forall_mem_cons.1 hrest
    rw [definitions_ofLines hfirst] at habove
    have hscript : definitions path (ofLines (above ++ line :: below)) s =
        (defineAll path (s.after ds) (line :: below)).map (ds ++ ·) := by
      rw [definitions_ofLines hlines, defineAll_append, habove]
      change (do
        let others ← defineAll path (s.after ds) (line :: below)
        return ds ++ others) = _
      cases defineAll path (s.after ds) (line :: below) <;> rfl
    refine ⟨fun hslashes => ?_, fun hslashes => ?_⟩
    · rw [hscript, defineAll_defines hline hslashes hv, definitions_ofLines hlast,
        Scope.after_append]
      cases defineAll path ((s.after ds).after [(name, v)]) below with
      | error e => rfl
      | ok others => exact congrArg Except.ok (List.append_cons ds (name, v) others)
    · obtain ⟨text, fault, herror⟩ : ∃ text fault,
          defineAll path (s.after ds) (line :: below) = .error (.malformed text fault) :=
        defineAll_slashes hline hslashes hv below
      refine ⟨text, fault, ?_⟩
      rw [hscript, herror]
      rfl
  case lines => rw [definitions_ofLines hlines, h.defineAll]

/-- The second line uses what the first one defines, and a comment below defines nothing.  An
address in quotes is cut off. -/
theorem definitions_defines_cells :
    let s : Scope Snapshot := ⟨.empty, .empty, none⟩
    definitions "page.js" "var rows = 2; // two\nlet cells=rows * 3 ;" s =
        .ok [("rows", .number 2), ("cells", .number 6)] ∧
      definitions "page.js" "var rows = 2; // two\nlet cells=rows * 3 ;\n// all" s =
        .ok [("rows", .number 2), ("cells", .number 6)] ∧
      ∃ text fault, definitions "page.js" "var rows = 2; // two\nhome = 'http://a'" s =
        .error (.malformed text fault) := by
  intro s
  have hblank : AllBlank [' '] := List.all_eq_true.mp rfl
  have hsemicolon : ∀ c ∈ [';'], c = ';' := fun c => List.mem_singleton.1
  have hrows : IsName "rows" :=
    @Token.Spelled.name 'r' ['o', 'w', 's'] (by decide) (List.all_eq_true.mp rfl) (by decide)
  have hcells : IsName "cells" :=
    @Token.Spelled.name 'c' ['e', 'l', 'l', 's'] (by decide) (List.all_eq_true.mp rfl) (by decide)
  have hhome : IsName "home" :=
    @Token.Spelled.name 'h' ['o', 'm', 'e'] (by decide) (List.all_eq_true.mp rfl) (by decide)
  have hfirst : Defines "rows" "2" "var rows = 2; // two".toList :=
    @Defines.intro "rows" "2" [] _ _ _ [] _ _ _ hrows nofun (@Introduced.withVar "rows" [] nofun)
      hblank hblank nofun hsemicolon hblank (.slashes " two".toList)
  have hsecond : Defines "cells" "rows * 3" "let cells=rows * 3 ;".toList :=
    @Defines.intro "cells" "rows * 3" [] _ [] [] _ _ [] _ hcells nofun
      (@Introduced.withLet "cells" [] nofun) nofun nofun hblank hsemicolon nofun .none
  have haddress : Defines "home" "'http://a'" "home = 'http://a'".toList :=
    @Defines.intro "home" "'http://a'" [] _ _ _ [] [] [] _ hhome nofun
      (.plain (by decide) (by decide)) hblank hblank nofun nofun nofun .none
  have hvalue : evaluate (s.after [("rows", .number 2)]) "rows * 3" = .ok (.number 6) := by
    decide +kernel
  have hnone : ¬['/', '/'] <:+: "rows * 3".toList := by decide +kernel
  have hone : DefinesAll s ["var rows = 2; // two".toList] [("rows", .number 2)] :=
    .cons hfirst (by decide) (by decide +kernel) .nil
  have htwo : DefinesAll s ["var rows = 2; // two".toList, "let cells=rows * 3 ;".toList]
      [("rows", .number 2), ("cells", .number 6)] :=
    .cons hfirst (by decide) (by decide +kernel) (.cons hsecond hnone hvalue .nil)
  have htext : "var rows = 2; // two\nlet cells=rows * 3 ;" =
      ofLines ["var rows = 2; // two".toList, "let cells=rows * 3 ;".toList] := by decide +kernel
  have hmore : "var rows = 2; // two\nlet cells=rows * 3 ;\n// all" =
      ofLines (["var rows = 2; // two".toList] ++ ["let cells=rows * 3 ;".toList, "// all".toList]) := by
    decide +kernel
  have hcut : "var rows = 2; // two\nhome = 'http://a'" =
      ofLines (["var rows = 2; // two".toList] ++ ["home = 'http://a'".toList]) := by
    decide +kernel
  obtain ⟨hline, hlines⟩ := definitions_defines "page.js" s
  have habove := hlines _ _ (by decide) hone
  rw [htext, hmore, hcut]
  refine ⟨hlines _ _ (by decide) htwo, ?_, ?_⟩
  · rw [(hline _ _ _ _ _ _ _ (by decide) habove hsecond hvalue).1 hnone]
    decide +kernel
  · exact (hline _ [] _ _ _ _ (.text "http://a") (by decide) habove haddress (by decide +kernel)).2
      (by decide +kernel)

/-- A line defines a name as an address in quotes, and the address has a value. -/
theorem definitions_cut :
    let s : Scope Snapshot := ⟨.empty, .empty, none⟩
    Defines "x" "'http://a'" "x = 'http://a'".toList ∧
      evaluate s "'http://a'" = .ok (.text "http://a") ∧
      definitions "page.js" "x = 'http://a'" s =
        .error (.malformed "'http:" .unterminatedString) := by
  have hname : IsName "x" := @Token.Spelled.name 'x' [] (by decide) nofun (by decide)
  have hblank : AllBlank [' '] := List.all_eq_true.mp rfl
  exact ⟨@Defines.intro "x" "'http://a'" [] _ _ _ [] [] [] _ hname nofun
    (.plain (by decide) (by decide)) hblank hblank nofun nofun nofun .none,
    by decide +kernel, by decide +kernel⟩

end Script

end PageLayout
