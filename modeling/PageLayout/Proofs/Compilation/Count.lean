import Mathlib.Data.Set.Card
import PageLayout.Page.Snapshot
import PageLayout.Proofs.Compilation.Declaration
import PageLayout.Proofs.Compilation.Parts
import PageLayout.Proofs.Expression.Value
import PageLayout.Proofs.Text.Glob

/-!
# Counting declared objects

The count of a pattern is the number of declarations whose names it matches
(`Scope.countMatching_eq`).  Written in a line between braces, with the pattern in quotes, it is
replaced by its digits (`Template.fillChars_count`).
-/

namespace PageLayout

namespace Table

variable {α : Type}

theorem mem_names_iff (t : Table α) (name : String) : name ∈ t.names ↔ t.contains name = true := by
  obtain ⟨entries, ascending⟩ := t
  show name ∈ entries.map (·.1) ↔ (findEntry name entries).isSome = true
  clear ascending
  induction entries with
  | nil => simp [findEntry]
  | cons entry entries ih =>
      rw [List.map_cons, List.mem_cons, ih, findEntry]
      by_cases hname : entry.1 = name
      · simp [hname]
      · simp [hname, Ne.symm hname]

theorem nodup_names (t : Table α) : t.names.Nodup := by
  refine List.pairwise_map.2 (t.ascending.imp fun hlt heq => ?_)
  rw [heq] at hlt
  exact String.lt_irrefl _ hlt

/-- A table has the values of its entries. -/
theorem get?_eq_some_iff (t : Table α) (name : String) (value : α) :
    t.get? name = some value ↔ (name, value) ∈ t.entries := by
  obtain ⟨entries, ascending⟩ := t
  show findEntry name entries = some value ↔ (name, value) ∈ entries
  induction entries with
  | nil => simp [findEntry]
  | cons entry entries ih =>
      obtain ⟨hfirst, hrest⟩ := List.pairwise_cons.1 ascending
      rw [findEntry, List.mem_cons, ← ih hrest]
      split
      next hname =>
        subst hname
        have hfree : findEntry entry.1 entries ≠ some value := fun h =>
          String.lt_irrefl _ (hfirst (entry.1, value) ((ih hrest).1 h))
        simp [hfree, Prod.ext_iff, eq_comm]
      next hname => simp [Prod.ext_iff, Ne.symm hname]

/-- Every table can come from declarations. -/
theorem exists_holds (t : Table Locator) : ∃ ds, t.Holds ds := by
  refine ⟨t.entries.map fun e => ⟨e.1, e.2, ⟨"", 0⟩⟩, ?_, fun name locator => ?_⟩
  · rw [List.map_map]
    exact t.nodup_names
  · rw [get?_eq_some_iff]
    constructor
    · intro h
      exact ⟨_, List.mem_map_of_mem h, rfl, rfl⟩
    · rintro ⟨d, hd, rfl, rfl⟩
      obtain ⟨e, he, rfl⟩ := List.mem_map.1 hd
      exact he

/-- The names of a table are those of its declarations. -/
theorem Holds.names_perm {t : Table Locator} {ds : List Declaration} (h : t.Holds ds) :
    t.names.Perm (ds.map Declaration.name) :=
  (List.perm_ext_iff_of_nodup t.nodup_names h.nodup).2 fun name =>
    (t.mem_names_iff name).trans (h.contains_iff name)

end Table

/-- Names are counted by looking at each declaration. -/
theorem Scope.countMatching_eq {π : Type} {s : Scope π} {ds : List Declaration}
    (h : s.objects.Holds ds) (pattern : String) :
    s.countMatching pattern =
      (ds.filter fun d => Glob.holds pattern.toList d.name.toList).length := by
  rw [countMatching, (h.names_perm.filter _).length_eq, List.filter_map, List.length_map]
  rfl

/-- Names without line ends are counted if they are the pattern with some text in place of each
star. -/
theorem Scope.countMatching_eq_ncard {π : Type} {s : Scope π}
    (hline : ∀ name, s.objects.contains name = true → '\n' ∉ name.toList) (pattern : String) :
    s.countMatching pattern =
      {name | s.objects.contains name = true ∧ Glob.Fits pattern.toList name.toList}.ncard := by
  have hset : {name | s.objects.contains name = true ∧ Glob.Fits pattern.toList name.toList} =
      ((s.objects.names.filter fun name => Glob.holds pattern.toList name.toList).toFinset :
        Set String) := by
    ext name
    rw [Set.mem_ofPred_eq, List.coe_toFinset, Set.mem_ofPred_eq, List.mem_filter, Table.mem_names_iff,
      Glob.holds_iff]
    exact and_congr_right fun hname => (Glob.matches_iff_fits (hline name hname) _).symm
  rw [hset, Set.ncard_coe_finset, List.toFinset_card_of_nodup (s.objects.nodup_names.filter _)]
  rfl

/-! ## The expression -/

/-- The characters of a count. -/
def countText (pattern : List Char) : List Char := "count(".toList ++ '"' :: (pattern ++ ['"', ')'])

theorem Token.scan_countText {pattern : List Char} (h : '"' ∉ pattern) :
    scan (countText pattern) =
      .ok [.name "count", .opening, .string (String.ofList pattern), .closing] := by
  have hname : (lexeme 'c' ("ount".toList ++ '(' :: '"' :: (pattern ++ ['"', ')']))).map (·.1) =
      .ok (.name "count", '(' :: '"' :: (pattern ++ ['"', ')'])) :=
    lexeme_name rfl (List.all_eq_true.mp rfl) (by decide) (by intro d hd; cases hd; rfl)
  have hopening : (lexeme '(' ('"' :: (pattern ++ ['"', ')']))).map (·.1) =
      .ok (.opening, '"' :: (pattern ++ ['"', ')'])) := rfl
  have hstring : (lexeme '"' (pattern ++ ['"', ')'])).map (·.1) =
      .ok (.string (String.ofList pattern), [')']) := by
    have hquoted : (lexeme '"' (pattern ++ ['"'] ++ [')'])).map (·.1) =
        .ok (.string (String.ofList pattern), [')']) := lexeme_string (.inl rfl) h
    rwa [List.append_assoc] at hquoted
  have hclosing : (lexeme ')' []).map (·.1) = .ok (.closing, []) := rfl
  have htext : countText pattern = 'c' :: ("ount".toList ++ '(' :: '"' :: (pattern ++ ['"', ')'])) :=
    rfl
  rw [htext, scan_lexeme rfl hname, scan_lexeme rfl hopening, scan_lexeme rfl hstring,
    scan_lexeme rfl hclosing, scan]
  rfl

/-- The value of a count. -/
theorem evaluate_countText {π : Type} [Page π] (s : Scope π) {pattern : List Char}
    (h : '"' ∉ pattern) :
    evaluate s (String.ofList (countText pattern)) =
      .ok (.number (Float.ofNat (s.countMatching (String.ofList pattern)))) := by
  have htree : Expr.Derives .sum [.name "count", .opening, .string (String.ofList pattern), .closing]
      (.call "count" [.string (String.ofList pattern)]) :=
    .product (.operand (.atom (.call (.last (.product (.operand (.atom .string)))))))
  rw [evaluate, String.toList_ofList, Token.scan_countText h]
  show (Expr.ofTokens _).eval s _ = _
  rw [Expr.ofTokens_of_derives htree]
  simp only [Expr.eval, evalAll]
  rfl

/-! ## The line -/

namespace Template

/-- Without properties no reference is replaced. -/
theorem expandChars_empty (cs : List Char) : expandChars .empty cs = cs := by
  refine expandChars_eq_self fun rest _ ⟨written, after, value, _, hrefers⟩ => ?_
  cases hrefers with
  | braced _ _ hvalue => cases hvalue
  | bare _ _ _ hvalue => cases hvalue

/-- A count in a line is replaced by its digits. -/
theorem fillChars_count {π : Type} [Page π] (s : Scope π) {before pattern after : List Char}
    (hbefore : '$' ∉ before) (hpattern : '"' ∉ pattern) (hafter : '$' ∉ after) :
    fillChars (PageLayout.evaluate s)
        (before ++ '$' :: '\x7b' :: (countText pattern ++ '\x7d' :: after)) =
      .ok (before ++ ((Number.pixels (Float.ofNat (s.countMatching (String.ofList pattern)))).toList ++
        after)) := by
  have hopening : ¬['$', '\x7b'] <:+: before := fun hinside =>
    hbefore (hinside.subset List.mem_cons_self)
  rw [fillChars_evaluated hopening (evaluate_countText s hpattern), fillChars_of_notMem hafter]
  rfl

end Template

end PageLayout
