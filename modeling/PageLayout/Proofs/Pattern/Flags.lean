import PageLayout.Pattern.Meaning

/-!
# The flag for dots

Whether a pattern has a meaning depends on the flags: without the flag `u` a dot has none.
The flag `s` only chooses what a dot stands for, and where a dot has a meaning with one
value of it, it has one with the other.  So a pattern has a meaning with the one exactly
if it has a meaning with the other (`Tree.meaning?_dotAll`).

The flags change inside a pattern, and the flags after one part are the flags of the next.
The induction is thus about two sets of flags that differ in `s` at most, before a part
and after it.
-/

namespace PageLayout.Pattern

variable {f g : Flags}

/-- Flags that differ in what a dot stands for at most. -/
def Flags.SameButDot (f g : Flags) : Prop := ∃ b, g = { f with dotAll := b }

namespace Flags.SameButDot

theorem set (h : f.SameButDot g) (e : Flag × Bool) : (f.set e).SameButDot (g.set e) := by
  obtain ⟨b, rfl⟩ := h
  obtain ⟨flag, value⟩ := e
  cases flag with
  | dotAll => exact ⟨value, rfl⟩
  | _ => exact ⟨b, rfl⟩

theorem change (h : f.SameButDot g) (c : FlagChange) : (f.change c).SameButDot (g.change c) := by
  induction c generalizing f g with
  | nil => exact h
  | cons e c ih => exact ih (h.set e)

end Flags.SameButDot

mutual

theorem ClassTree.set?_dotAll (f : Flags) (b : Bool) :
    ∀ t : ClassTree, t.set? { f with dotAll := b } = t.set? f
  | .symbol s => rfl
  | .range low high => rfl
  | .ascii negated name => rfl
  | .shorthand negated kind => rfl
  | .property negated query => rfl
  | .bracket negated inner => by
      simp only [ClassTree.set?, inner.set?_dotAll f b]
      rfl
  | .items trees => by simp only [ClassTree.set?, setsOf?_dotAll f b trees]
  | .combined op left right => by
      simp only [ClassTree.set?, left.set?_dotAll f b, right.set?_dotAll f b]
      rfl

theorem setsOf?_dotAll (f : Flags) (b : Bool) :
    ∀ ts : List ClassTree, setsOf? { f with dotAll := b } ts = setsOf? f ts
  | [] => rfl
  | t :: ts => by simp only [setsOf?, t.set?_dotAll f b, setsOf?_dotAll f b ts]

end

/-- Two meanings that are there or not there alike, with flags after them that differ in what a
dot stands for at most. -/
def SameUpToDot (x y : Option (Regex × Flags)) : Prop :=
  Option.Rel (fun p q => p.2.SameButDot q.2) x y

namespace SameUpToDot

theorem isSome_eq {x y : Option (Regex × Flags)} (h : SameUpToDot x y) : x.isSome = y.isSome := by
  cases h <;> rfl

theorem bind {x y : Option (Regex × Flags)} {u v : Regex × Flags → Option (Regex × Flags)}
    (h : SameUpToDot x y)
    (huv : ∀ p q : Regex × Flags, p.2.SameButDot q.2 → SameUpToDot (u p) (v q)) :
    SameUpToDot (x >>= u) (y >>= v) := by
  cases h with
  | none => exact .none
  | some h => exact huv _ _ h

/-- A part that leaves the flags as they are. -/
theorem map {α : Type} {o o' : Option α} (ho : o.isSome = o'.isSome) (u v : α → Regex)
    (h : f.SameButDot g) : SameUpToDot (o.map fun a => (u a, f)) (o'.map fun a => (v a, g)) := by
  cases o <;> cases o' <;> cases ho
  · exact .none
  · exact .some h

end SameUpToDot

mutual

/-- Whether a pattern has a meaning does not depend on what a dot stands for. -/
theorem Tree.meaning?_dotAll :
    ∀ (t : Tree) {f g : Flags}, f.SameButDot g → SameUpToDot (t.meaning? f) (t.meaning? g)
  | .empty, _, _, h => .some h
  | .flags change, _, _, h => .some (h.change change)
  | .symbol s, _, _, h => by
      obtain ⟨b, rfl⟩ := h
      exact .map rfl id id ⟨b, rfl⟩
  | .dot, f, _, h => by
      obtain ⟨b, rfl⟩ := h
      refine .map ?_ id id ⟨b, rfl⟩
      obtain ⟨_, _, dotAll, unicode, crlf⟩ := f
      cases unicode <;> cases dotAll <;> cases b <;> cases crlf <;> rfl
  | .anchor a, _, _, h => .some h
  | .shorthand negated kind, _, _, h => by
      obtain ⟨b, rfl⟩ := h
      exact .map rfl _ _ ⟨b, rfl⟩
  | .property negated query, _, _, h => by
      obtain ⟨b, rfl⟩ := h
      exact .map rfl _ _ ⟨b, rfl⟩
  | .bracket negated inner, f, _, h => by
      obtain ⟨b, rfl⟩ := h
      unfold Tree.meaning?
      rw [inner.set?_dotAll f b]
      cases inner.set? f with
      | none => exact .none
      | some s =>
          change SameUpToDot (s.finish? f negated >>= _) (s.finish? f negated >>= _)
          cases s.finish? f negated with
          | none => exact .none
          | some s => exact .some ⟨b, rfl⟩
  | .repeated min max body, _, _, h =>
      (body.meaning?_dotAll h).bind fun _ _ h => .some h
  | .group change body, _, _, h =>
      (body.meaning?_dotAll (h.change change)).bind fun _ _ _ => .some h
  | .choice branches, _, _, h => choiceMeaning?_dotAll branches h
  | .sequence parts, _, _, h => sequenceMeaning?_dotAll parts h

theorem choiceMeaning?_dotAll :
    ∀ (ts : List Tree) {f g : Flags}, f.SameButDot g →
      SameUpToDot (choiceMeaning? f ts) (choiceMeaning? g ts)
  | [], _, _, h => .some h
  | [t], _, _, h => t.meaning?_dotAll h
  | t :: u :: ts, _, _, h =>
      (t.meaning?_dotAll h).bind fun _ _ h => (choiceMeaning?_dotAll (u :: ts) h).bind
        fun _ _ h => .some h

theorem sequenceMeaning?_dotAll :
    ∀ (ts : List Tree) {f g : Flags}, f.SameButDot g →
      SameUpToDot (sequenceMeaning? f ts) (sequenceMeaning? g ts)
  | [], _, _, h => .some h
  | t :: ts, _, _, h =>
      (t.meaning?_dotAll h).bind fun _ _ h => (sequenceMeaning?_dotAll ts h).bind
        fun _ _ h => .some h

end

end PageLayout.Pattern
