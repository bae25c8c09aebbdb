import PageLayout.Pattern.Match
import Mathlib.Data.List.Infix

/-!
# Reading a pattern with something after it

A pattern for whole texts is written between `(?s)^(?:` and `)$`, and the result is read
as one pattern.  This module and the next ones ask when a text is read there as it is read
alone.

Most readers look at nothing beyond what they read.  With `)$` after the text they read
the same and leave `)$` over (`Agree.kept`).  A reader that fails on the text alone can
find more with `)$` after it, but then it has used up a part of that (`Agree.lost`), and
the parenthesis is missing where the group around the text should end.

A reader for which this holds is `Local`.  The combinators in its namespace follow the
shape of the readers: one after the other, a character that is needed, a character that
decides.  There is one obstacle.  Under the flag `x` a comment that the text leaves open
goes on in `)$`.  The texts without one are the `Settled` ones.
-/

namespace PageLayout.Pattern

variable {α β γ : Type} {b : Bool} {cs rest : List Char} {k : Nat}

/-! ## Comments -/

/-- Whether each comment that could start in a text ends in it. -/
def commentsEnd : List Char → Bool
  | [] => true
  | c :: cs => (c != '#' || cs.contains '\n') && commentsEnd cs

/-- No comment of a text is left open, if comments are skipped at all. -/
def Settled (b : Bool) (cs : List Char) : Prop := b = true → commentsEnd cs = true

instance (b : Bool) (cs : List Char) : Decidable (Settled b cs) :=
  inferInstanceAs (Decidable (b = true → commentsEnd cs = true))

theorem Settled.tail {c : Char} (h : Settled b (c :: cs)) : Settled b cs :=
  fun hb => (Bool.and_eq_true_iff.mp (h hb)).2

theorem Settled.of_suffix (h : Settled b cs) (hs : rest <:+ cs) : Settled b rest := by
  obtain ⟨before, rfl⟩ := hs
  induction before with
  | nil => exact h
  | cons c before ih => exact ih h.tail

theorem settled_of_not_mem (h : '#' ∉ cs) : Settled b cs := by
  intro _
  induction cs with
  | nil => rfl
  | cons c cs ih =>
      have hc : c ≠ '#' := fun hc => h (hc ▸ List.mem_cons_self)
      rw [commentsEnd, ih fun hmem => h (List.mem_cons_of_mem c hmem), bne_iff_ne.mpr hc]
      rfl

/-- What is written after a pattern so that it matches whole texts. -/
def closing : List Char := [')', '$']

theorem append_closing_ne {d : Char} (hd : d ≠ ')') (h : ∀ rest, cs ≠ d :: rest)
    (rest : List Char) : cs ++ closing ≠ d :: rest := by
  cases cs with
  | nil => exact fun heq => hd (List.cons.inj heq).1.symm
  | cons c cs => exact fun heq => h cs (by rw [(List.cons.inj heq).1])

theorem append_closing_ne_two {d e : Char} (hd : d ≠ ')') (he : e ≠ ')')
    (h : ∀ rest, cs ≠ d :: e :: rest) (rest : List Char) : cs ++ closing ≠ d :: e :: rest := by
  cases cs with
  | nil => exact fun heq => hd (List.cons.inj heq).1.symm
  | cons c cs =>
      intro heq
      obtain ⟨hc, heq⟩ := List.cons.inj heq
      refine append_closing_ne he (fun rest hcs => h rest ?_) rest heq
      rw [hc, hcs]

/-! ## What is skipped -/

theorem skipBlanks_append (hs : Settled true cs) :
    skipBlanks false (cs ++ closing) = skipBlanks false cs ++ closing ∧
      ('\n' ∈ cs → skipBlanks true (cs ++ closing) = skipBlanks true cs ++ closing) := by
  induction cs with
  | nil => exact ⟨rfl, nofun⟩
  | cons c cs ih =>
      obtain ⟨hplain, hcomment⟩ := ih hs.tail
      constructor
      · simp only [List.cons_append, skipBlanks]
        split
        · exact hplain
        · split
          next h =>
            have hend := (Bool.and_eq_true_iff.mp (hs rfl)).1
            rw [eq_of_beq h] at hend
            exact hcomment (List.contains_iff_mem.mp hend)
          next => rfl
      · intro hmem
        simp only [List.cons_append, skipBlanks]
        by_cases hc : c = '\n'
        · simpa [hc] using hplain
        · rw [bne_iff_ne.mpr hc]
          exact hcomment ((List.mem_cons.mp hmem).resolve_left (Ne.symm hc))

theorem skip_append (b : Bool) (hs : Settled b cs) :
    skip b (cs ++ closing) = skip b cs ++ closing := by
  cases b with
  | false => rfl
  | true => exact (skipBlanks_append hs).1

theorem skipBlanks_suffix (b : Bool) (cs : List Char) : skipBlanks b cs <:+ cs := by
  induction cs generalizing b with
  | nil => cases b <;> exact List.suffix_refl _
  | cons c cs ih =>
      have hcons := fun b => (ih b).trans (List.suffix_cons c cs)
      cases b with
      | true => exact hcons _
      | false =>
          simp only [skipBlanks]
          split
          · exact hcons _
          · split
            · exact hcons _
            · exact List.suffix_refl _

theorem skip_suffix (b : Bool) (cs : List Char) : skip b cs <:+ cs := by
  cases b with
  | false => exact List.suffix_refl _
  | true => exact skipBlanks_suffix _ _

theorem Settled.skip (b : Bool) (hs : Settled b cs) : Settled b (skip b cs) :=
  hs.of_suffix (skip_suffix b cs)

/-! ## Readers -/

/-- What is read of a text alone, and of the same text with the closing after it.  What is
read in the second case only leaves fewer than `k` characters. -/
inductive Agree (k : Nat) : Option (α × List Char) → Option (α × List Char) → Prop where
  | kept (a : α) (rest : List Char) : Agree k (some (a, rest)) (some (a, rest ++ closing))
  | lost {y : Option (α × List Char)} (h : ∀ a rest, y = some (a, rest) → rest.length < k) :
      Agree k none y

namespace Agree

theorem mono {j : Nat} {x y : Option (α × List Char)} (h : Agree k x y) (hk : k ≤ j) :
    Agree j x y := by
  cases h with
  | kept a rest => exact .kept a rest
  | lost h => exact .lost fun a rest hy => Nat.lt_of_lt_of_le (h a rest hy) hk

theorem cases {x y : Option (α × List Char)} (h : Agree k x y) :
    (∃ a rest, x = some (a, rest) ∧ y = some (a, rest ++ closing)) ∨
      x = Option.none ∧ ∀ a rest, y = some (a, rest) → rest.length < k := by
  cases h with
  | kept a rest => exact .inl ⟨a, rest, rfl, rfl⟩
  | lost h => exact .inr ⟨rfl, h⟩

theorem none : Agree k (none : Option (α × List Char)) none := .lost nofun

theorem bind {x y : Option (α × List Char)} {g : α × List Char → Option (β × List Char)}
    (h : Agree k x y)
    (hg : ∀ a rest, x = some (a, rest) → Agree k (g (a, rest)) (g (a, rest ++ closing)))
    (hs : ∀ a rest b r, g (a, rest) = some (b, r) → r <:+ rest) :
    Agree k (x >>= g) (y >>= g) := by
  cases h with
  | kept a rest => exact hg a rest rfl
  | lost h =>
      refine .lost fun b r hb => ?_
      obtain ⟨⟨a, rest⟩, hy, hr⟩ := Option.bind_eq_some_iff.mp hb
      exact Nat.lt_of_le_of_lt (hs _ _ _ _ hr).length_le (h a rest hy)

/-- A reader that uses up a character makes up for one that is left over. -/
theorem bind_strict {x y : Option (α × List Char)} {g : α × List Char → Option (β × List Char)}
    (h : Agree (k + 1) x y)
    (hg : ∀ a rest, x = some (a, rest) → Agree k (g (a, rest)) (g (a, rest ++ closing)))
    (hs : ∀ a rest b r, g (a, rest) = some (b, r) → r.length < rest.length) :
    Agree k (x >>= g) (y >>= g) := by
  cases h with
  | kept a rest => exact hg a rest rfl
  | lost h =>
      refine .lost fun b r hb => ?_
      obtain ⟨⟨a, rest⟩, hy, hr⟩ := Option.bind_eq_some_iff.mp hb
      exact Nat.lt_of_lt_of_le (hs _ _ _ _ hr) (Nat.le_of_lt_succ (h a rest hy))

theorem map {x y : Option (α × List Char)} (h : Agree k x y) (f : α → β) :
    Agree k (x.map fun p => (f p.1, p.2)) (y.map fun p => (f p.1, p.2)) := by
  cases h with
  | kept a rest => exact .kept (f a) rest
  | lost h =>
      refine .lost fun b r hb => ?_
      obtain ⟨⟨a, rest⟩, hy, hr⟩ := Option.map_eq_some_iff.mp hb
      cases hr
      exact h a rest hy

end Agree

/-- A reader that reads a settled text with the closing after it as it reads it alone. -/
structure Local (b : Bool) (k : Nat) (f : List Char → Option (α × List Char)) : Prop where
  suffix : ∀ {cs a rest}, f cs = some (a, rest) → rest <:+ cs
  agree : ∀ {cs}, Settled b cs → Agree k (f cs) (f (cs ++ closing))

theorem suffix_of_skip {b : Bool} {c : Char} (h : skip b cs = c :: rest) : rest <:+ cs :=
  (List.suffix_cons c rest).trans (h ▸ skip_suffix b cs)

theorem length_lt_of_skip {c : Char} (h : skip b cs = c :: rest) : rest.length < cs.length := by
  have hlength := (skip_suffix b cs).length_le
  rw [h] at hlength
  exact hlength

namespace Local

theorem pure (a : α) : Local b k fun cs => some (a, cs) where
  suffix h := by cases h; exact List.suffix_refl _
  agree _ := .kept a _

theorem fail : Local b k fun _ => (none : Option (α × List Char)) := ⟨nofun, fun _ => .none⟩

theorem bind {f : List Char → Option (α × List Char)}
    {g : α × List Char → Option (β × List Char)} (hf : Local b k f)
    (hg : ∀ a, Local b k fun rest => g (a, rest)) : Local b k fun cs => f cs >>= g where
  suffix h := by
    obtain ⟨⟨a, rest⟩, ha, hr⟩ := Option.bind_eq_some_iff.mp h
    exact ((hg a).suffix hr).trans (hf.suffix ha)
  agree hs := (hf.agree hs).bind (fun a _ ha => (hg a).agree (hs.of_suffix (hf.suffix ha)))
    fun a _ _ _ => (hg a).suffix

theorem bindValue (o : Option γ) {g : γ → List Char → Option (α × List Char)}
    (hg : ∀ v, Local b k (g v)) : Local b k fun cs => o >>= fun v => g v cs := by
  cases o with
  | none => exact fail
  | some v => exact hg v

theorem branch {p : Prop} {d : List Char → Decidable p}
    {f g : List Char → Option (α × List Char)} (hf : Local b k f) (hg : Local b k g) :
    Local b k fun cs => @ite _ p (d cs) (f cs) (g cs) := by
  by_cases hp : p
  · simpa only [if_pos hp] using hf
  · simpa only [if_neg hp] using hg

theorem map {f : List Char → Option (α × List Char)} (hf : Local b k f) (g : α → β) :
    Local b k fun cs => (f cs).map fun p => (g p.1, p.2) where
  suffix h := by
    obtain ⟨⟨a, rest⟩, ha, hr⟩ := Option.map_eq_some_iff.mp h
    cases hr
    exact hf.suffix ha
  agree hs := (hf.agree hs).map g

/-- A reader that needs a character. -/
theorem uncons {s : Bool} (hb : s = true → b = true) {f : List Char → Option (α × List Char)}
    {g : Char → List Char → Option (α × List Char)}
    (hnil : ∀ cs, skip s cs = [] → f cs = none)
    (hcons : ∀ cs c rest, skip s cs = c :: rest → f cs = g c rest)
    (hg : ∀ c, Local b 2 (g c)) : Local b 2 f where
  suffix {cs a rest} h := by
    cases hskip : skip s cs with
    | nil => rw [hnil cs hskip] at h; cases h
    | cons c after =>
        rw [hcons cs c after hskip] at h
        exact ((hg c).suffix h).trans (suffix_of_skip hskip)
  agree {cs} hs := by
    have happend := skip_append s fun h => hs (hb h)
    cases hskip : skip s cs with
    | nil =>
        rw [hskip] at happend
        rw [hnil cs hskip, hcons _ _ _ happend]
        exact .lost fun a rest h => Nat.lt_succ_of_le ((hg _).suffix h).length_le
    | cons c after =>
        rw [hskip] at happend
        rw [hcons cs c after hskip, hcons _ _ _ happend]
        exact (hg c).agree (hs.of_suffix (suffix_of_skip hskip))

/-- A reader that goes its own way after a character other than a parenthesis. -/
theorem peek (b : Bool) {f g h : List Char → Option (α × List Char)} (c : Char)
    (hc : ∀ cs rest, skip b cs = c :: rest → f cs = g rest)
    (ho : ∀ cs rest, skip b cs = rest → (∀ after, rest ≠ c :: after) → f cs = h rest)
    (hg : Local b k g) (hh : Local b k h) (hne : c ≠ ')' := by decide) : Local b k f := by
  refine ⟨fun {cs a rest} hr => ?_, fun {cs} hs => ?_⟩
  · by_cases hskip : ∃ after, skip b cs = c :: after
    · obtain ⟨after, hskip⟩ := hskip
      rw [hc cs after hskip] at hr
      exact (hg.suffix hr).trans (suffix_of_skip hskip)
    · rw [ho cs _ rfl (not_exists.mp hskip)] at hr
      exact (hh.suffix hr).trans (skip_suffix b cs)
  · by_cases hskip : ∃ after, skip b cs = c :: after
    · obtain ⟨after, hskip⟩ := hskip
      rw [hc cs after hskip, hc _ (after ++ closing) (by rw [skip_append b hs, hskip]; rfl)]
      exact hg.agree (hs.of_suffix (suffix_of_skip hskip))
    · have hn := not_exists.mp hskip
      rw [ho cs _ rfl hn, ho _ _ (skip_append b hs) (append_closing_ne hne hn)]
      exact hh.agree (hs.skip b)

end Local

end PageLayout.Pattern
