import PageLayout.Compilation.File

/-!
# Compilation

`Compiler.compile` makes a layout of a file, and `Compiler.compileText` of a text
with a label in place of a path.

A file that is imported is read inside the directory it lies in, and the trail is
back where it was when the file is done, whether it was read to its end or not.
The identity of a file is marked before its lines are read.  So no file is read
inside itself, and files are nested no deeper than their number.  That number is
the measure of the recursion, and `nestedTooDeep` is never seen.
-/

namespace PageLayout

namespace Job

variable {π : Type} [Page π]

/-- The reason for a file that more imports lead to than there are files. -/
def nestedTooDeep : String := "imports are nested too deep"

/-- The store after a text, read with the path of a file. -/
def processText (j : Job π) (load : Loader) (s : Store) (path text : String) :
    Except Abort Store :=
  match Line.scan text path 0 with
  | .error error => .error ⟨error, s.trail⟩
  | .ok lines =>
      match j.readLines load { s with trail := s.trail.enter path } lines with
      | .ok s => .ok { s with trail := s.trail.leave }
      | .error a => .error { a with trail := a.trail.leave }

/-- The store after a file that a path asks for.  A file that was read before is
not read again. -/
def processFile (j : Job π) : (nesting : Nat) → (requested : String) → Option Place → Store →
    Except Abort Store
  | 0, requested, place, s =>
      .error ⟨.unreadable (s.trail.resolve requested) nestedTooDeep place, s.trail⟩
  | nesting + 1, requested, place, s =>
      let path := s.trail.resolve requested
      match j.source.read path with
      | .error reason => .error ⟨.unreadable path reason place, s.trail⟩
      | .ok text =>
          if s.trail.hasLoaded (fileIdentity path text) then .ok s
          else
            let load : Loader := fun requested place s =>
              processFile j nesting requested (some place) s
            j.processText load { s with trail := s.trail.mark (fileIdentity path text) } path text

/-- How an import is read.  There are no more levels than files. -/
def loader (j : Job π) : Loader := fun requested place s =>
  j.processFile (j.source.size + 1) requested (some place) s

/-- The layout of a compilation that is done. -/
def result (j : Job π) (done : Except Abort Store) : Except LayoutError Layout :=
  match done with
  | .ok s => .ok (if j.settings.dropEmptySections then s.layout.dropEmpty else s.layout)
  | .error a => .error a.error

end Job

namespace Compiler

variable {π : Type} [Page π]

/-- The layout of a file. -/
def compile (c : Compiler π) (page : Option π) (path : String) : Except LayoutError Layout :=
  let j : Job π := ⟨c, page⟩
  j.result (j.processFile (j.source.size + 1) path none .start)

/-- The layout of a text.  The label stands in for its path. -/
def compileText (c : Compiler π) (page : Option π) (text label : String) :
    Except LayoutError Layout :=
  let j : Job π := ⟨c, page⟩
  let path := Path.normalize label
  let s := Store.start
  let s := { s with trail := s.trail.mark (fileIdentity path text) }
  j.result (j.processText j.loader s path text)

end Compiler

end PageLayout
