import Mathlib.Data.List.Flatten
import PageLayout.Proofs.Compilation.RecordedText
import PageLayout.Proofs.Import.Normal

/-!
# The files of components

A rule keeps the path of its component in normal form, as it is seen from the directory of the
file with the rule.  When the component is checked, the path is asked for once more, and it is
resolved again without any directories: the blanks at its ends are cut off, and the rest is
normalized.

For a path in normal form this changes nothing unless the path has blanks at its ends
(`resolve_eq_self_iff`).  One direction is that a normal form is its own.  For the other, no
step adds a blank to a path, so those that were cut off are missing in the end.  A name that
starts with a blank may stand behind other segments where the path is written, and come first in
the normal form.
-/

namespace PageLayout

/-! ## Blanks in paths -/

namespace Text

theorem flatten_splitAt_sublist (p : Char → Bool) (cs : List Char) :
    (splitAt p cs).flatten.Sublist cs := by
  induction cs with
  | nil => exact .slnil
  | cons c cs ih =>
      obtain ⟨piece, pieces, hcs⟩ := exists_splitAt p cs
      rw [hcs] at ih
      rw [splitAt, hcs]
      split
      · exact ih.cons c
      · exact ih.cons_cons c

/-- A text with blanks at its ends has more of them than without. -/
theorem trim_eq_of_countP_le {cs : List Char} (h : cs.countP isBlank ≤ (trim cs).countP isBlank) :
    trim cs = cs := by
  obtain ⟨after, hafter, htrim⟩ := exists_eq_dropEndWhile_append isBlank (trimStart cs)
  have hcs : cs = cs.takeWhile isBlank ++ (trim cs ++ after) :=
    List.takeWhile_append_dropWhile.symm.trans (congrArg _ htrim)
  have hbefore : ∀ c ∈ cs.takeWhile isBlank, isBlank c = true :=
    fun c hc => List.mem_takeWhile_imp hc
  generalize cs.takeWhile isBlank = before at hcs hbefore
  have hcount : cs.countP isBlank = before.length + ((trim cs).countP isBlank + after.length) := by
    rw [← List.countP_eq_length.2 hbefore, ← List.countP_eq_length.2 hafter,
      ← List.countP_append, ← List.countP_append, ← hcs]
  have hbefore : before = [] := List.eq_nil_of_length_eq_zero (by omega)
  have hafter : after = [] := List.eq_nil_of_length_eq_zero (by omega)
  rw [hbefore, hafter, List.nil_append, List.append_nil] at hcs
  exact hcs.symm

end Text

namespace Path

/-- The number of blanks in some segments. -/
def blanks (ss : List (List Char)) : Nat := ss.flatten.countP isBlank

theorem blanks_cons (s : List Char) (ss : List (List Char)) :
    blanks (s :: ss) = s.countP isBlank + blanks ss := by
  rw [blanks, List.flatten_cons, List.countP_append]
  rfl

theorem blanks_segments_le (path : List Char) : blanks (segments path) ≤ path.countP isBlank := by
  have hkept : (segments path).flatten.Sublist (Text.splitAt (· == '/') path).flatten :=
    List.filter_sublist.flatten
  exact (hkept.trans (Text.flatten_splitAt_sublist _ path)).countP_le

theorem blanks_follow_le (absolute : Bool) (before : List (List Char)) (s : List Char) :
    blanks (follow absolute before s) ≤ blanks before + s.countP isBlank := by
  unfold follow
  split
  next hup =>
    have hs : s.countP isBlank = 0 := by
      rw [eq_of_beq hup]
      rfl
    cases before with
    | nil =>
        cases absolute with
        | true => exact Nat.zero_le _
        | false => rw [if_neg Bool.false_ne_true, blanks_cons, Nat.add_comm]
    | cons last rest =>
        dsimp only
        split
        · rw [blanks_cons]
          omega
        · rw [blanks_cons]
          omega
  next =>
    rw [blanks_cons]
    omega

theorem blanks_foldl_follow_le (absolute : Bool) (ss before : List (List Char)) :
    blanks (ss.foldl (follow absolute) before) ≤ blanks before + blanks ss := by
  induction ss generalizing before with
  | nil => exact Nat.le_add_right _ _
  | cons s ss ih =>
      have hs := blanks_follow_le absolute before s
      have hss := ih (follow absolute before s)
      rw [List.foldl_cons, blanks_cons]
      omega

theorem countP_isBlank_join (absolute : Bool) (ss : List (List Char)) :
    (join absolute ss).countP isBlank = blanks ss := by
  have hslash : isBlank '/' = false := by decide
  have hjoined : ∀ ss : List (List Char), (['/'].intercalate ss).countP isBlank = blanks ss := by
    intro ss
    induction ss with
    | nil => rfl
    | cons s ss ih =>
        cases ss with
        | nil => simp [blanks]
        | cons t ts =>
            rw [List.intercalate_cons_cons, List.countP_append, List.countP_append, ih,
              blanks_cons s]
            simp [hslash]
  cases absolute with
  | true => rw [join, List.countP_cons_of_neg (by simp [hslash]), hjoined]
  | false =>
      cases ss with
      | nil => rfl
      | cons s ss => exact hjoined (s :: ss)

/-- The normal form of a path has no more blanks than the path. -/
theorem countP_isBlank_normalizeChars_le (path : List Char) :
    (normalizeChars path).countP isBlank ≤ path.countP isBlank := by
  have hfollowed : blanks (followed path) ≤ blanks (segments path) := by
    have h := blanks_foldl_follow_le (isAbsolute path) (segments path) []
    rwa [show blanks [] = 0 from rfl, Nat.zero_add] at h
  have hreverse : blanks (normalSegments path) = blanks (followed path) :=
    ((followed path).reverse_perm.flatten).countP_eq _
  rw [normalizeChars, countP_isBlank_join, hreverse]
  exact hfollowed.trans (blanks_segments_le path)

/-- A path in normal form that is asked for without directories is looked up as it is, unless it
has blanks at its ends. -/
theorem resolve_eq_self_iff {path : String} (h : IsNormal path.toList) :
    Trail.start.resolve path = path ↔ Text.trimmed path = path := by
  have hresolve : Trail.start.resolve path = normalize (Text.trimmed path) := rfl
  rw [hresolve]
  constructor
  · intro heq
    have hchars : normalizeChars (Text.trim path.toList) = path.toList := by
      have hlist := congrArg String.toList heq
      rwa [toList_normalize, Text.trimmed, String.toList_ofList] at hlist
    have hle := countP_isBlank_normalizeChars_le (Text.trim path.toList)
    rw [hchars] at hle
    rw [Text.trimmed, Text.trim_eq_of_countP_le hle, String.ofList_toList]
  · intro htrimmed
    rw [htrimmed, normalize, normalizeChars_eq_self_iff.2 h, String.ofList_toList]

theorem isNormal_seenFrom (directory path : String) :
    IsNormal (seenFrom directory path).toList := by
  unfold seenFrom
  split
  · rw [toList_normalize]
    exact isNormal_normalizeChars _
  · rw [toList_normalize]
    exact isNormal_normalizeChars _

end Path

/-! ## Components -/

namespace Compiler

variable {π : Type} [Page π]

/-- A layout is made of a file or of a text. -/
def Makes (c : Compiler π) (page : Option π) (l : Layout) : Prop :=
  (∃ path, c.compile page path = .ok l) ∨ ∃ text label, c.compileText page text label = .ok l

/-- A file that is asked for is looked up with a path: either the text of the file with this path
is read first, or the error about it tells this path. -/
def LooksUp (c : Compiler π) (page : Option π) (requested path : String) : Prop :=
  match c.source.read path with
  | .ok text => (c.excerpts page requested).head? = some (.text path text)
  | .error reason => c.compile page requested = .error (.unreadable path reason none)

/-- A file is looked up with its path resolved without directories. -/
theorem looksUp_resolve (c : Compiler π) (page : Option π) (requested : String) :
    c.LooksUp page requested (Trail.start.resolve requested) := by
  unfold LooksUp
  cases hread : c.source.read (Trail.start.resolve requested) with
  | error reason =>
      have hread : (⟨c, page⟩ : Job π).source.read (Store.start.trail.resolve requested) =
          .error reason := hread
      have hlead : Job.lead (⟨c, page⟩ : Job π) .start requested = .missing reason := by
        rw [Job.lead, hread]
      dsimp only
      rw [compile, Job.processFile_eq, hlead]
      rfl
  | ok text =>
      have hread : (⟨c, page⟩ : Job π).source.read (Store.start.trail.resolve requested) =
          .ok text := hread
      have hlead : Job.lead (⟨c, page⟩ : Job π) .start requested = .new text := by
        rw [Job.lead, hread]
        rfl
      dsimp only
      rw [excerpts, Job.excerptsOfFile, hlead]
      rfl

theorem agrees_of_makes {c : Compiler π} {page : Option π} {l : Layout} (h : c.Makes page l)
    {rule : Rule} (hrule : rule ∈ l.everyRule) : rule.Agrees c.settings.approximation := by
  let P := Provenance.recordedText (⟨c, page⟩ : Job π)
  have hcovers : ∀ s ∈ l.sections, P.Covers s := by
    rcases h with ⟨path, h⟩ | ⟨text, label, h⟩
    · exact (ends_compile P fun x _ => Provenance.supports_recordedText _ x).ok l h
    · exact (ends_compileText P fun x _ => Provenance.supports_recordedText _ x).ok l h
  exact P.kept_of_mem_everyRule hcovers hrule

/-- The path of a component is in normal form: that of the path in its text, as it is seen from
the directory of the file with the rule.  The component is looked up with this very path if and
only if the path has no blanks at its ends. -/
theorem component_lookedUp (c : Compiler π) (page : Option π) (l : Layout) (h : c.Makes page l) :
    ∀ rule ∈ l.everyRule, ∀ path, rule.requirement = .component path →
      (∃ requested, Requirement.ofText c.settings.approximation rule.text =
          .ok (.component requested) ∧
        path = Path.seenFrom (Path.directory rule.place.file) requested) ∧
      Path.IsNormal path.toList ∧
      (∀ inner, c.LooksUp inner path (Path.normalize (Text.trimmed path))) ∧
      (Trail.start.resolve path = path ↔ Text.trimmed path = path) ∧
      (Text.trimmed path = path → ∀ inner, c.LooksUp inner path path) := by
  intro rule hrule path hpath
  obtain ⟨r, hr, hrequirement⟩ := agrees_of_makes h hrule
  have hnamed : ∃ requested, r = .component requested ∧
      path = Path.seenFrom (Path.directory rule.place.file) requested := by
    rw [hpath] at hrequirement
    cases r with
    | component requested =>
        cases hrequirement
        exact ⟨requested, rfl, rfl⟩
    | _ => cases hrequirement
  obtain ⟨requested, rfl, hseen⟩ := hnamed
  have hnormal : Path.IsNormal path.toList := by
    rw [hseen]
    exact Path.isNormal_seenFrom _ _
  refine ⟨⟨requested, hr, hseen⟩, hnormal, ?_, Path.resolve_eq_self_iff hnormal, ?_⟩
  · intro inner
    exact looksUp_resolve c inner path
  · intro htrimmed inner
    have hlooks := looksUp_resolve c inner path
    rwa [(Path.resolve_eq_self_iff hnormal).2 htrimmed] at hlooks

/-- The components of a file in another directory, and of one that it imports, are looked up with
the paths of their rules. -/
theorem component_lookedUp_nested :
    ∃ l, nested.compile none "pages/home.spec" = .ok l ∧
      ∃ rule ∈ l.everyRule, rule.requirement = .component "parts/menu.spec" ∧
        Text.trimmed "parts/menu.spec" = "parts/menu.spec" ∧
        Trail.start.resolve "parts/menu.spec" = "parts/menu.spec" ∧
        nested.LooksUp none "parts/menu.spec" "parts/menu.spec" := by
  obtain ⟨l, h, hrules⟩ : ∃ l, nested.compile none "pages/home.spec" = .ok l ∧
      l.everyRule.map Rule.requirement =
        [.component "pages/more/foot.spec", .component "parts/menu.spec"] :=
    exists_ok_of_toOption (by decide +kernel)
  have hmem : Requirement.component "parts/menu.spec" ∈ l.everyRule.map Rule.requirement := by
    rw [hrules]
    exact List.mem_cons_of_mem _ List.mem_cons_self
  obtain ⟨rule, hrule, hrequirement⟩ := List.mem_map.1 hmem
  have htrimmed : Text.trimmed "parts/menu.spec" = "parts/menu.spec" := by decide
  obtain ⟨_, _, _, hresolve, hlooks⟩ :=
    component_lookedUp nested none l (.inl ⟨_, h⟩) rule hrule _ hrequirement
  exact ⟨l, h, rule, hrule, hrequirement, htrimmed, hresolve.2 htrimmed, hlooks htrimmed none⟩

/-- A directory whose name starts with a blank.  The blank stands behind a dot where the file in
it is imported, so that it is not cut off there. -/
def indentedDirectory : Compiler Snapshot :=
  ⟨⟨2.0, true⟩, .empty, .standard, .memory
    [("main.spec", "@@ import ./ parts/menu.spec\n"),
      (" parts/menu.spec", "===\nmenu id menu\n===\nmenu\n    component: logo.spec\n"),
      (" parts/logo.spec", "===\nlogo id logo\n===\nlogo\n    visible\n")]⟩

/-- The path of a component is that of a file, and yet another path is looked up, which leads to
no file. -/
theorem component_not_lookedUp :
    ∃ l, indentedDirectory.compile none "main.spec" = .ok l ∧
      l.everyRule.map Rule.requirement = [.component " parts/logo.spec"] ∧
      indentedDirectory.source.read " parts/logo.spec" =
        .ok "===\nlogo id logo\n===\nlogo\n    visible\n" ∧
      Trail.start.resolve " parts/logo.spec" ≠ " parts/logo.spec" ∧
      indentedDirectory.compile none " parts/logo.spec" =
        .error (.unreadable "parts/logo.spec" Source.noSuchFile none) := by
  obtain ⟨l, h, hrules⟩ : ∃ l, indentedDirectory.compile none "main.spec" = .ok l ∧
      l.everyRule.map Rule.requirement = [.component " parts/logo.spec"] :=
    exists_ok_of_toOption (by decide +kernel)
  have hread : indentedDirectory.source.read " parts/logo.spec" =
      .ok "===\nlogo id logo\n===\nlogo\n    visible\n" := by decide +kernel
  have hresolve : Trail.start.resolve " parts/logo.spec" = "parts/logo.spec" := by decide +kernel
  have hmissing : indentedDirectory.source.read "parts/logo.spec" = .error Source.noSuchFile := by
    decide +kernel
  have hlooks := looksUp_resolve indentedDirectory none " parts/logo.spec"
  rw [hresolve, LooksUp, hmissing] at hlooks
  exact ⟨l, h, hrules, hread, by rw [hresolve]; decide, hlooks⟩

end Compiler

end PageLayout
