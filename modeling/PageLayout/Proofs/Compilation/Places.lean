import PageLayout.Proofs.Compilation.Faithful
import PageLayout.Proofs.Compilation.Provenance
import PageLayout.Proofs.Reading.Indentation

/-!
# Places are real

A place in a layout or in an error is that of a line that counts, in a text that was read in the
compilation.  A place is made in `Line.scanFrom` and nowhere else, and only for lines that count.
So this is a `Provenance` that asks nothing of rules but that of their places.

The one error without a place is that of a file that cannot be read and that no line asks for.
-/

namespace PageLayout

/-! ## Places -/

/-- A place is that of a line that counts, in one of the texts that were read. -/
def Place.IsRead (excerpts : List Excerpt) (place : Place) : Prop :=
  ∃ text n raw, .text place.file text ∈ excerpts ∧ place.line = n + 1 ∧
    (Text.lines text.toList)[n]? = some raw ∧ Line.Counts raw

/-- The places in a layout: those of its sections and of their rules. -/
def Layout.places (l : Layout) : List Place :=
  l.sections.flatMap fun s => s.place :: s.everyRule.map Rule.place

theorem Layout.mem_places {l : Layout} {place : Place} :
    place ∈ l.places ↔
      ∃ s ∈ l.sections, place = s.place ∨ ∃ rule ∈ s.everyRule, rule.place = place := by
  simp [places]

/-- Of places it is known that they were read, and of rules that their places were. -/
def Provenance.places {π : Type} (j : Job π) (excerpts : List Excerpt) : Provenance j where
  known := Place.IsRead excerpts
  kept rule := rule.place.IsRead excerpts
  kept_of_ruleOf := fun hplace _ h => by rwa [Job.place_of_ruleOf h]

theorem Provenance.supports_places {π : Type} (j : Job π) (excerpts : List Excerpt) :
    ∀ x ∈ excerpts, (places j excerpts).Supports x := by
  rintro (⟨path, text⟩ | _) hx
  · exact fun n raw hraw hcounts => ⟨text, n, raw, hx, rfl, hraw, Line.counts_iff.2 hcounts⟩
  · trivial

theorem Provenance.isRead_of_mem_places {π : Type} {j : Job π} {excerpts : List Excerpt}
    {l : Layout} (h : ∀ s ∈ l.sections, (places j excerpts).Covers s) :
    ∀ place ∈ l.places, place.IsRead excerpts := by
  intro place hplace
  obtain ⟨s, hs, rfl | ⟨rule, hrule, rfl⟩⟩ := Layout.mem_places.1 hplace
  · exact (h s hs).place
  · obtain ⟨o, ho, hrule⟩ := Section.mem_everyRule.1 hrule
    exact (h s hs).objects o ho rule hrule

/-! ## Compilations -/

/-- What was read in a compilation and the places in its result. -/
structure Placed (excerpts : List Excerpt) (given : String → String → Prop)
    (placeless : LayoutError → Prop) (result : Except LayoutError Layout) : Prop where
  /-- The texts that were read were given with their paths. -/
  texts : ∀ path text, .text path text ∈ excerpts → given path text
  /-- The places in the layout are those of lines that were read. -/
  layout : ∀ l, result = .ok l → ∀ place ∈ l.places, place.IsRead excerpts
  /-- So is the place of the error. -/
  error : ∀ error, result = .error error → ∀ place, error.place? = some place →
    place.IsRead excerpts
  /-- These errors have no place, and no others. -/
  placeless : ∀ error, result = .error error → (error.place? = none ↔ placeless error)

/-- A compilation is placed if it ends with known places, or else with an error that has none. -/
theorem Provenance.placed_of_ends {π : Type} {j : Job π} {excerpts : List Excerpt}
    {given : String → String → Prop} {placeless : LayoutError → Prop}
    {result : Except LayoutError Layout}
    (htexts : ∀ path text, .text path text ∈ excerpts → given path text)
    (hplaceless : ∀ error, placeless error → error.place? = none)
    (h : Ends (fun error => (places j excerpts).Blames error ∨ placeless error)
      (fun l => ∀ s ∈ l.sections, (places j excerpts).Covers s) result) :
    Placed excerpts given placeless result where
  texts := htexts
  layout := fun l hl => isRead_of_mem_places (h.ok l hl)
  error := by
    intro error he place hplace
    rcases h.error error he with ⟨place', hplace', hread⟩ | hless
    · rw [hplace] at hplace'
      cases hplace'
      exact hread
    · rw [hplaceless error hless] at hplace
      cases hplace
  placeless := by
    intro error he
    refine ⟨fun hnone => ?_, hplaceless error⟩
    rcases h.error error he with ⟨place, hplace, _⟩ | hless
    · rw [hnone] at hplace
      cases hplace
    · exact hless

namespace Compiler

/-- Every place is real, whether a file or a text is compiled.  Only the error about the file
itself has no place. -/
theorem placed_compile {π : Type} [Page π] (c : Compiler π) (page : Option π) :
    (∀ path, Placed (c.excerpts page path) (fun file text => c.source.read file = .ok text)
      (fun error => ∃ reason, c.source.read (Trail.start.resolve path) = .error reason ∧
        error = .unreadable (Trail.start.resolve path) reason none)
      (c.compile page path)) ∧
    ∀ text label, Placed (c.excerptsOfText page text label)
      (fun file text' =>
        file = Path.normalize label ∧ text' = text ∨ c.source.read file = .ok text')
      (fun _ => False) (c.compileText page text label) := by
  constructor
  · intro path
    refine Provenance.placed_of_ends (j := ⟨c, page⟩)
      (fun _ _ h => Job.isOf_of_mem_excerptsOfFile _ _ _ _ h) ?_ ?_
    · rintro error ⟨reason, _, rfl⟩
      rfl
    · exact ends_compile (.places _ _) (Provenance.supports_places _ _)
  · intro text label
    have hends := ends_compileText (.places ⟨c, page⟩ _)
      (Provenance.supports_places _ (c.excerptsOfText page text label))
    refine Provenance.placed_of_ends (fun file text' h => ?_) nofun
      ⟨fun error he => .inl (hends.error error he), hends.ok⟩
    obtain heq | hread := Job.isOf_of_mem_excerptsOfText (Job.isOf_of_mem_excerptsOfFile _) _ _ _ _ h
    · cases heq
      exact .inl ⟨rfl, rfl⟩
    · exact .inr hread

end Compiler

/-- If an imported file asks for one that is missing, the error is about the file that was not
read, and its place is in one that was. -/
example :
    let c : Compiler Snapshot :=
      ⟨⟨2.0, true⟩, .empty, .standard, .memory
        [("pages/home.spec", "# home\n\n@@ import menu.spec\n@@ import foot.spec\n"),
          ("pages/menu.spec", "# menu\nlink\n visible\n"),
          ("pages/foot.spec", "foot\n visible\n\n@@ import gone.spec\n")]⟩
    (c.excerpts none "pages/home.spec").filterMap
        (fun
          | .text path _ => some path
          | .line _ _ => none) = ["pages/home.spec", "pages/menu.spec", "pages/foot.spec"] ∧
      (match c.compile none "pages/home.spec" with
        | .error error => some (error.bare, error.place?)
        | .ok _ => none) =
        some ("Could not read file pages/gone.spec: no such file",
          some ⟨"pages/foot.spec", 4⟩) := by
  decide +kernel

end PageLayout
