import PageLayout.Proofs.Compilation.Declaration
import PageLayout.Proofs.Compilation.Directories

/-!
# What is read in a compilation

`Compiler.excerpts` lists what is read in a compilation, in order: the texts of files, each
with the path it is read with, and their lines, each with the progress before it.  What is read
in a file that a line imports follows that line.  If a compilation fails, the list ends with
the text or the line that is wrong.

A text that was read before is not read again, and does not occur a second time.
-/

namespace PageLayout

/-- Something that is read. -/
inductive Excerpt where
  /-- A text, with the path of its file. -/
  | text (path text : String)
  /-- A line, with the progress before it. -/
  | line (before : Progress) (line : Line)

namespace Job

variable {π : Type} [Page π]

/-- What is read inside the file that a line imports. -/
def excerptsOfImport (j : Job π) (inside : String → Store → List Excerpt) (p : Progress)
    (line : Line) : List Excerpt :=
  match j.effectOf p line with
  | .declares _ => []
  | .imports path s => inside path s

/-- What is read of some lines. -/
def excerptsOfLines (j : Job π) (load : Loader) (inside : String → Store → List Excerpt) :
    Progress → List Line → List Excerpt
  | _, [] => []
  | p, line :: lines =>
      .line p line :: j.excerptsOfImport inside p line ++
        match j.feed load p line with
        | .ok p => excerptsOfLines j load inside p lines
        | .error _ => []

/-- What is read of a text. -/
def excerptsOfText (j : Job π) (load : Loader) (inside : String → Store → List Excerpt)
    (s : Store) (path text : String) : List Excerpt :=
  .text path text ::
    match Line.scan text path 0 with
    | .error _ => []
    | .ok lines => j.excerptsOfLines load inside ⟨s.inside path text, .start⟩ lines

/-- What is read of a file that a path asks for. -/
def excerptsOfFile (j : Job π) : (nesting : Nat) → (requested : String) → Store → List Excerpt
  | 0, _, _ => []
  | nesting + 1, requested, s =>
      match j.lead s requested with
      | .new text =>
          j.excerptsOfText (j.importing nesting) (excerptsOfFile j nesting) s
            (s.trail.resolve requested) text
      | _ => []

end Job

namespace Compiler

variable {π : Type} [Page π]

/-- What is read in the compilation of a file. -/
def excerpts (c : Compiler π) (page : Option π) (path : String) : List Excerpt :=
  let j : Job π := ⟨c, page⟩
  j.excerptsOfFile (j.source.size + 1) path .start

/-- What is read in the compilation of a text. -/
def excerptsOfText (c : Compiler π) (page : Option π) (text label : String) : List Excerpt :=
  let j : Job π := ⟨c, page⟩
  j.excerptsOfText j.loader (j.excerptsOfFile (j.source.size + 1)) .start (Path.normalize label)
    text

end Compiler

/-! ## What holds of all excerpts -/

namespace Job

variable {π : Type} [Page π] {j : Job π} {load : Loader} {inside : String → Store → List Excerpt}
  {Q : Excerpt → Prop}

theorem forall_mem_excerptsOfLines {p : Progress} {line : Line} {lines : List Line} :
    (∀ x ∈ j.excerptsOfLines load inside p (line :: lines), Q x) ↔
      Q (.line p line) ∧
        (∀ requested s, j.effectOf p line = .imports requested s →
          ∀ x ∈ inside requested s, Q x) ∧
        ∀ p', j.feed load p line = .ok p' → ∀ x ∈ j.excerptsOfLines load inside p' lines, Q x := by
  have himport : (∀ x ∈ j.excerptsOfImport inside p line, Q x) ↔
      ∀ requested s, j.effectOf p line = .imports requested s → ∀ x ∈ inside requested s, Q x := by
    rw [excerptsOfImport]
    cases j.effectOf p line <;> simp
  have hrest : (∀ x ∈ (match j.feed load p line with
        | .ok p => j.excerptsOfLines load inside p lines
        | .error _ => []), Q x) ↔
      ∀ p', j.feed load p line = .ok p' → ∀ x ∈ j.excerptsOfLines load inside p' lines, Q x := by
    cases j.feed load p line <;> simp
  rw [excerptsOfLines, List.cons_append, List.forall_mem_cons, List.forall_mem_append, himport,
    hrest]

theorem forall_mem_excerptsOfText {s : Store} {path text : String} :
    (∀ x ∈ j.excerptsOfText load inside s path text, Q x) ↔
      Q (.text path text) ∧
        ∀ lines, Line.scan text path 0 = .ok lines →
          ∀ x ∈ j.excerptsOfLines load inside ⟨s.inside path text, .start⟩ lines, Q x := by
  rw [excerptsOfText, List.forall_mem_cons]
  cases Line.scan text path 0 <;> simp

theorem forall_mem_excerptsOfFile {nesting : Nat} {requested : String} {s : Store} :
    (∀ x ∈ j.excerptsOfFile (nesting + 1) requested s, Q x) ↔
      ∀ text, j.lead s requested = .new text →
        ∀ x ∈ j.excerptsOfText (j.importing nesting) (j.excerptsOfFile nesting) s
          (s.trail.resolve requested) text, Q x := by
  rw [excerptsOfFile]
  cases j.lead s requested <;> simp

end Job

/-! ## Texts come from files -/

/-- A text is that of the file with its path. -/
def Excerpt.IsOf (source : Source) : Excerpt → Prop
  | .text path t => source.read path = .ok t
  | .line _ _ => True

namespace Job

variable {π : Type} [Page π] {j : Job π} {load : Loader} {inside : String → Store → List Excerpt}

theorem isOf_of_mem_excerptsOfLines
    (hinside : ∀ requested s, ∀ x ∈ inside requested s, x.IsOf j.source)
    (p : Progress) (lines : List Line) :
    ∀ x ∈ j.excerptsOfLines load inside p lines, x.IsOf j.source := by
  induction lines generalizing p with
  | nil => exact List.forall_mem_nil _
  | cons line lines ih =>
      exact forall_mem_excerptsOfLines.2
        ⟨trivial, fun requested s _ => hinside requested s, fun p' _ => ih p'⟩

theorem isOf_of_mem_excerptsOfFile (nesting : Nat) (requested : String) (s : Store) :
    ∀ x ∈ j.excerptsOfFile nesting requested s, x.IsOf j.source := by
  induction nesting generalizing requested s with
  | zero => exact List.forall_mem_nil _
  | succ nesting ih =>
      refine forall_mem_excerptsOfFile.2 fun text hlead => forall_mem_excerptsOfText.2 ⟨?_, ?_⟩
      · exact read_of_lead_new hlead
      · exact fun lines _ => isOf_of_mem_excerptsOfLines ih _ lines

/-- Only the text that a compilation starts with may not be that of a file. -/
theorem isOf_of_mem_excerptsOfText
    (hinside : ∀ requested s, ∀ x ∈ inside requested s, x.IsOf j.source)
    (s : Store) (path text : String) :
    ∀ x ∈ j.excerptsOfText load inside s path text, x = .text path text ∨ x.IsOf j.source :=
  forall_mem_excerptsOfText.2 ⟨.inl rfl, fun lines _ x hx =>
    .inr (isOf_of_mem_excerptsOfLines hinside _ lines x hx)⟩

end Job

end PageLayout
