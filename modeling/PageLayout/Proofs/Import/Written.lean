import Mathlib.Data.List.Forall2
import PageLayout.Proofs.Compilation.Excerpts
import PageLayout.Proofs.Import.Normal

/-!
# Paths as they are written

The directories of a trail are in normal form.  In the paths that led to them there may be
much more: dots, double slashes, and double dots that took something away.  `AsWritten` keeps
the directories with all of that, for every file that is being read.

A path leads to the same file from both, however deep the files are nested that import one
another (`resolve_of_normalizes`).  For the directories of the trail are the normal forms of
the written ones, and going on from a normal form makes no difference (`normalize_append`).

Every line of a compilation is read in directories that are known as they are written
(`isAsWritten_excerptsOfFile`).  This is an induction on how deep files are nested: a file adds
one directory to both lists, and its lines leave the trail in the directories of the file.
-/

namespace PageLayout

namespace Path

/-- The directory of a file, as the path of the file is written.  A path that does not end in a
name, such as `a/..`, has to be brought into normal form first. -/
def directoryWritten (path : String) : String :=
  if fileName path = "" then directory (normalize path) else directory path

/-- A path as it is written in a file of the innermost of some directories. -/
def writtenFrom (directories : List String) (requested : String) : String :=
  let path := Text.trimmed requested
  match directories with
  | [] => path
  | d :: _ => if isAbsolute path.toList then path else d ++ "/" ++ path

theorem directoryWritten_ne_empty (path : String) : directoryWritten path ≠ "" := by
  unfold directoryWritten
  split <;> exact directory_ne_empty _

theorem normalize_directoryWritten (path : String) :
    normalize (directoryWritten path) = directory (normalize path) := by
  unfold directoryWritten
  split
  next => exact normalize_directory_normalize path
  next h => exact (directory_normalize h).symm

end Path

namespace Trail

/-- Directories of a trail, and the same as the paths to their files are written.  The outermost
file may be given by a label. -/
inductive AsWritten : List String → List String → Prop
  | none : AsWritten [] []
  | label (label : String) :
      AsWritten [Path.directory (Path.normalize label)] [Path.directoryWritten label]
  | file {t : Trail} {ds : List String} (requested : String) :
      AsWritten t.directories ds →
        AsWritten (t.enter (t.resolve requested)).directories
          (Path.directoryWritten (Path.writtenFrom ds requested) :: ds)

/-- A directory is the normal form of a written one. -/
def Normalizes (directory d : String) : Prop := d ≠ "" ∧ directory = Path.normalize d

theorem normalizes_directory (path : String) :
    Normalizes (Path.directory (Path.normalize path)) (Path.directoryWritten path) :=
  ⟨Path.directoryWritten_ne_empty path, (Path.normalize_directoryWritten path).symm⟩

/-- A path leads to the same file from directories and from their normal forms. -/
theorem resolve_of_normalizes {t : Trail} {ds : List String}
    (h : List.Forall₂ Normalizes t.directories ds) (requested : String) :
    t.resolve requested = Path.normalize (Path.writtenFrom ds requested) := by
  unfold resolve Path.writtenFrom
  generalize t.directories = directories at h
  cases h with
  | nil => rfl
  | cons hd _ =>
      obtain ⟨hne, rfl⟩ := hd
      dsimp only
      unfold Path.seenFrom
      split
      next => rfl
      next => exact Path.normalize_append hne _

/-- The directories of a trail are the normal forms of the written ones. -/
theorem AsWritten.normalizes {directories ds : List String} (h : AsWritten directories ds) :
    List.Forall₂ Normalizes directories ds := by
  induction h with
  | none => exact .nil
  | label label => exact .cons (normalizes_directory label) .nil
  | file requested _ ih =>
      refine .cons ?_ ih
      rw [resolve_of_normalizes ih requested]
      exact normalizes_directory _

end Trail

/-! ## The lines of a compilation -/

/-- A file that is read adds its directory. -/
theorem Store.directories_inside (s : Store) (path text : String) :
    (s.inside path text).trail.directories = Path.directory path :: s.trail.directories :=
  congrArg (Path.directory path :: ·) (s.trail.directories_mark _)

/-- The directories of the files that are being read at a line. -/
def Excerpt.directories? : Excerpt → Option (List String)
  | .text _ _ => none
  | .line before _ => some before.store.trail.directories

/-- The directories at a line are known as they are written. -/
def Excerpt.IsAsWritten (x : Excerpt) : Prop :=
  ∀ directories ∈ x.directories?, ∃ ds, Trail.AsWritten directories ds

namespace Job

variable {π : Type} [Page π] {j : Job π}

/-- The lines of a file, if those of the files that it imports are known. -/
theorem isAsWritten_excerptsOfLines {nesting : Nat}
    (hinside : ∀ requested s, (∃ ds, Trail.AsWritten s.trail.directories ds) →
      ∀ x ∈ j.excerptsOfFile nesting requested s, x.IsAsWritten)
    (lines : List Line) (p : Progress)
    (hp : ∃ ds, Trail.AsWritten p.store.trail.directories ds) :
    ∀ x ∈ j.excerptsOfLines (j.importing nesting) (j.excerptsOfFile nesting) p lines,
      x.IsAsWritten := by
  induction lines generalizing p with
  | nil => exact List.forall_mem_nil _
  | cons line lines ih =>
      refine forall_mem_excerptsOfLines.2 ⟨?_, ?_, ?_⟩
      · intro directories h
        cases h
        exact hp
      · intro requested s himports
        obtain ⟨p', hsettle, rfl, _⟩ := asks_of_imports himports
        apply hinside requested p'.store
        rwa [(settle_ok hsettle).2]
      · intro p' hfeed
        have hstays : Stays (fun p' => p'.store.trail) p.store.trail
            (j.feed (j.importing nesting) p line) := stays_feed (stays_importing nesting) p line
        rw [hfeed] at hstays
        apply ih p'
        rwa [show p'.store.trail.directories = p.store.trail.directories from hstays]

/-- A file that is asked for in directories that are known as they are written. -/
theorem isAsWritten_excerptsOfFile (nesting : Nat) (requested : String) (s : Store)
    (hs : ∃ ds, Trail.AsWritten s.trail.directories ds) :
    ∀ x ∈ j.excerptsOfFile nesting requested s, x.IsAsWritten := by
  induction nesting generalizing requested s with
  | zero => exact List.forall_mem_nil _
  | succ nesting ih =>
      obtain ⟨ds, hs⟩ := hs
      refine forall_mem_excerptsOfFile.2 fun text _ => forall_mem_excerptsOfText.2 ⟨?_, ?_⟩
      · intro directories h
        cases h
      · intro lines _
        apply isAsWritten_excerptsOfLines ih lines
        rw [Store.directories_inside]
        exact ⟨_, .file requested hs⟩

end Job

namespace Compiler

variable {π : Type} [Page π]

/-- The normal form of a path is in normal form, starts at the root if the path does, and stays
as it is when it is normalized again.  A path is seen from a directory as from its normal form.
So a path that is written in a file leads to the same file from the directories of the trail as
from the directories as they are written, and every line of a compilation is read in directories
of this kind, however deep its file is nested. -/
theorem normalized_as_written (c : Compiler π) (page : Option π) :
    (∀ path, Path.IsNormal (Path.normalize path).toList ∧
      Path.isAbsolute (Path.normalize path).toList = Path.isAbsolute path.toList ∧
      Path.normalize (Path.normalize path) = Path.normalize path) ∧
    (∀ directory requested, directory ≠ "" →
      Path.normalize (Path.normalize directory ++ "/" ++ requested) =
        Path.normalize (directory ++ "/" ++ requested)) ∧
    (∀ (t : Trail) ds, Trail.AsWritten t.directories ds → ∀ requested,
      t.resolve requested = Path.normalize (Path.writtenFrom ds requested)) ∧
    (∀ path, ∀ x ∈ c.excerpts page path, x.IsAsWritten) ∧
    ∀ text label, ∀ x ∈ c.excerptsOfText page text label, x.IsAsWritten := by
  refine ⟨?_, ?_, ?_, ?_, ?_⟩
  · intro path
    rw [Path.toList_normalize]
    refine ⟨Path.isNormal_normalizeChars _, Path.isAbsolute_normalizeChars _, ?_⟩
    unfold Path.normalize
    rw [String.toList_ofList]
    exact congrArg _ (Path.normalizeChars_eq_self_iff.2 (Path.isNormal_normalizeChars _))
  · intro directory requested h
    exact Path.normalize_append h requested
  · intro t ds h requested
    exact Trail.resolve_of_normalizes h.normalizes requested
  · intro path
    exact Job.isAsWritten_excerptsOfFile _ path .start ⟨_, .none⟩
  · intro text label
    refine Job.forall_mem_excerptsOfText.2 ⟨nofun, fun lines _ => ?_⟩
    apply Job.isAsWritten_excerptsOfLines (Job.isAsWritten_excerptsOfFile _) lines
    rw [Store.directories_inside]
    exact ⟨_, .label label⟩

/-- A file that imports another one from a directory beside its own. -/
def beside : Compiler Snapshot :=
  ⟨⟨2.0, true⟩, .empty, .standard, .memory
    [("pages/home.spec", "@@ import ../parts/./menu.spec\n"),
      ("parts/menu.spec", "menu\n visible\n")]⟩

/-- The lines of the other file are read in `parts`, which is written as `pages/../parts`. -/
theorem normalized_as_written_beside :
    Path.normalize "parts/../x.spec" = Path.normalize "pages/../parts/../x.spec" ∧
    (∃ t : Trail, t.directories = ["parts", "pages"] ∧ t.resolve "../x.spec" = "x.spec" ∧
      t.resolve "../x.spec" = Path.normalize "pages/../parts/../x.spec") ∧
    ∃ x ∈ beside.excerpts none "pages/home.spec",
      x.directories? = some ["parts", "pages"] ∧ x.IsAsWritten := by
  obtain ⟨_, hgoesOn, hresolve, hexcerpts, _⟩ := normalized_as_written beside none
  refine ⟨?_, ?_, ?_⟩
  · exact hgoesOn "pages/../parts" "../x.spec" (by decide)
  · have hhome : Trail.AsWritten ["pages"] ["pages"] := by
      have h := Trail.AsWritten.file (t := .start) "pages/home.spec" .none
      rwa [show Trail.directories _ = ["pages"] by decide +kernel,
        show Path.directoryWritten _ = "pages" by decide +kernel] at h
    have hmenu : Trail.AsWritten ["parts", "pages"] ["pages/../parts", "pages"] := by
      have h := Trail.AsWritten.file (t := ⟨["pages"], []⟩) "../parts/./menu.spec" hhome
      rwa [show Trail.directories _ = ["parts", "pages"] by decide +kernel,
        show Path.directoryWritten _ = "pages/../parts" by decide +kernel] at h
    refine ⟨⟨["parts", "pages"], []⟩, rfl, by decide +kernel, ?_⟩
    exact hresolve ⟨["parts", "pages"], []⟩ _ hmenu "../x.spec"
  · have hsome : some ["parts", "pages"] ∈
        (beside.excerpts none "pages/home.spec").map Excerpt.directories? := by decide +kernel
    obtain ⟨x, hx, hdirectories⟩ := List.mem_map.1 hsome
    exact ⟨x, hx, hdirectories, hexcerpts _ x hx⟩

end Compiler

end PageLayout
