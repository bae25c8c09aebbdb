import PageLayout.Pattern.Meaning

/-!
# Matching

A text of `n` characters has `n + 1` places.  A set of places is a list of truth
values, one for each place.  `Regex.reach` maps the places where a match may
start to those where it may end.  It does so for all starts at once, so the time
a match takes is bounded by a polynomial in the length of the text.

A repetition without a bound adds the places that one more match reaches, until
nothing new is added.  This ends after as many rounds as there are places.

`wholeText?` makes a pattern match a whole text, by writing it between a start
and an end.
-/

namespace PageLayout.Pattern

/-! ## Places -/

/-- A set of places of a text, in order. -/
abbrev Places := List Bool

/-- The places of either of two sets. -/
def Places.union (a b : Places) : Places := List.zipWith (· || ·) a b

/-- The characters before and after each place of a text. -/
def neighbours (before : Option Char) : List Char → List (Option Char × Option Char)
  | [] => [(before, none)]
  | c :: cs => (before, some c) :: neighbours (some c) cs

/-- Whether a character is in a set, if there is one. -/
def CharSet.at? (s : CharSet) (c : Option Char) : Bool := c.any fun c => s.holds c.toNat

/-- Whether a place between two characters is of a kind. -/
def Look.holds (before after : Option Char) : Look → Bool
  | .textStart => before.isNone
  | .textEnd => after.isNone
  | .lineStart => before.all (· == '\n')
  | .lineEnd => after.all (· == '\n')
  | .lineStartCrlf =>
      before.all fun c => c == '\n' || (c == '\r' && after != some '\n')
  | .lineEndCrlf =>
      after.all fun c => c == '\r' || (c == '\n' && before != some '\r')
  | .word set edge =>
      let left := set.at? before
      let right := set.at? after
      match edge with
      | .oneSide => left != right
      | .evenSides => left == right
      | .start => !left && right
      | .stop => left && !right
      | .afterNoWord => !left
      | .beforeNoWord => !right

/-! ## Reachable places -/

/-- The places after a character of a set, from a set of places. -/
def stepOver (s : CharSet) (text : List Char) (ps : Places) : Places :=
  false :: List.zipWith (fun c p => p && s.holds c.toNat) text ps

/-- The places that a step reaches in a number of rounds, stopping when a round
changes nothing. -/
def iterate (f : Places → Places) : (rounds : Nat) → Places → Places
  | 0, ps => ps
  | rounds + 1, ps =>
      let next := f ps
      if next == ps then ps else iterate f rounds next

/-- The places that a pattern reaches from a set of places. -/
def Regex.reach (text : List Char) : Regex → Places → Places
  | .empty, ps => ps
  | .chars s, ps => stepOver s text ps
  | .look l, ps =>
      List.zipWith (fun p (b, a) => p && l.holds b a) ps (neighbours none text)
  | .seq a b, ps => b.reach text (a.reach text ps)
  | .alt a b, ps => Places.union (a.reach text ps) (b.reach text ps)
  | .repeated min max body, ps =>
      let start := iterate (body.reach text) min ps
      let rounds := match max with
        | some m => m - min
        | none => text.length + 1
      iterate (fun qs => Places.union qs (body.reach text qs)) rounds start

/-- Whether a pattern matches a part of a text. -/
def Regex.matchesIn (r : Regex) (text : List Char) : Bool :=
  (r.reach text (List.replicate (text.length + 1) true)).any id

/-! ## Whole texts -/

/-- The text of a pattern that matches whole texts only, with line feeds among
the characters that a dot stands for. -/
def wholeText (pattern : List Char) : List Char :=
  "(?s)^(?:".toList ++ pattern ++ ")$".toList

/-- The meaning of a pattern for whole texts, if it has one. -/
def Regex.whole? (pattern : String) : Option Regex := Regex.ofText? (wholeText pattern.toList)

end PageLayout.Pattern
