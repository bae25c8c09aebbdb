import PageLayout.Pattern.Folding
import PageLayout.Pattern.Property
import PageLayout.Pattern.Reader

/-!
# What patterns mean

A `Regex` is a pattern whose flags have been applied.  Its smallest parts are
sets of characters and places.  `Tree.meaning?` goes through a pattern from left
to right with the flags that hold, since a change of flags reaches up to the end
of its group.

Without the flag `u` classes are sets of ASCII characters.  A pattern that could
then match part of a character has no meaning, and a property is not allowed.

A pattern has a size, which is roughly the memory an automaton for it would take.
A pattern beyond the limit has no meaning either.
-/

namespace PageLayout.Pattern

open Unicode (PropertySet)

/-! ## Sets of characters -/

/-- A set of characters. -/
inductive CharSet where
  /-- The code points of some ranges. -/
  | ranges (r : CodeRanges)
  /-- The code points with a property. -/
  | property (p : PropertySet)
  /-- The code points in none of a set. -/
  | complement (s : CharSet)
  /-- The code points of any of some sets. -/
  | union (sets : List CharSet)
  /-- The code points of two sets, combined by an operator. -/
  | combined (op : SetOperator) (left right : CharSet)
  /-- The code points that differ from one of a set at most in case. -/
  | folded (s : CharSet)
  /-- The same, for the letters of ASCII only. -/
  | foldedAscii (s : CharSet)
deriving Repr, Inhabited

/-- A letter of ASCII in both cases, or another code point alone. -/
def asciiOrbit (n : Nat) : List Nat :=
  if 0x41 ≤ n && n ≤ 0x5A then [n, n + 0x20]
  else if 0x61 ≤ n && n ≤ 0x7A then [n, n - 0x20]
  else [n]

mutual

/-- Whether a code point is in a set. -/
def CharSet.holds : CharSet → Nat → Bool
  | .ranges r, n => r.holds n
  | .property p, n => p.holds n
  | .complement s, n => !s.holds n
  | .union sets, n => anySetHolds sets n
  | .combined .intersection a b, n => a.holds n && b.holds n
  | .combined .difference a b, n => a.holds n && !b.holds n
  | .combined .symmetricDifference a b, n => a.holds n != b.holds n
  | .folded s, n => (Folding.orbit n).any s.holds
  | .foldedAscii s, n => (asciiOrbit n).any s.holds

/-- Whether a code point is in one of some sets. -/
def anySetHolds : List CharSet → Nat → Bool
  | [], _ => false
  | s :: sets, n => s.holds n || anySetHolds sets n

end

mutual

/-- The number of ranges that a set is made of. -/
def CharSet.width : CharSet → Nat
  | .ranges r => r.length
  | .property p => p.width
  | .complement s => s.width
  | .union sets => totalSetWidth sets
  | .combined _ a b => a.width + b.width
  | .folded s => s.width
  | .foldedAscii s => s.width

/-- The number of ranges that some sets are made of. -/
def totalSetWidth : List CharSet → Nat
  | [] => 0
  | s :: sets => s.width + totalSetWidth sets

end

/-- Whether a set of bytes has no byte beyond ASCII. -/
def CharSet.isAscii (s : CharSet) : Bool := (List.range 128).all fun n => !s.holds (n + 128)

/-- The characters of words: letters, marks, digits, connectors and joiners. -/
def wordSet : CharSet :=
  .union
    [.ranges [(0x41, 0x5A), (0x61, 0x7A)], .ranges alphabeticRanges, .property Unicode.marks,
     .ranges Unicode.decimalNumberRanges, .ranges Unicode.connectorRanges,
     .ranges Unicode.joinControlRanges]

/-- The characters of words in ASCII. -/
def asciiWordSet : CharSet := .ranges [(0x30, 0x39), (0x41, 0x5A), (0x5F, 0x5F), (0x61, 0x7A)]

/-- The characters of a class of ASCII characters. -/
def asciiClass? : String → Option CodeRanges
  | "alnum" => some [(0x30, 0x39), (0x41, 0x5A), (0x61, 0x7A)]
  | "alpha" => some [(0x41, 0x5A), (0x61, 0x7A)]
  | "ascii" => some [(0, 0x7F)]
  | "blank" => some [(0x09, 0x09), (0x20, 0x20)]
  | "cntrl" => some [(0, 0x1F), (0x7F, 0x7F)]
  | "digit" => some [(0x30, 0x39)]
  | "graph" => some [(0x21, 0x7E)]
  | "lower" => some [(0x61, 0x7A)]
  | "print" => some [(0x20, 0x7E)]
  | "punct" => some [(0x21, 0x2F), (0x3A, 0x40), (0x5B, 0x60), (0x7B, 0x7E)]
  | "space" => some [(0x09, 0x0D), (0x20, 0x20)]
  | "upper" => some [(0x41, 0x5A)]
  | "word" => some [(0x30, 0x39), (0x41, 0x5A), (0x5F, 0x5F), (0x61, 0x7A)]
  | "xdigit" => some [(0x30, 0x39), (0x41, 0x46), (0x61, 0x66)]
  | _ => none

/-! ## Flags -/

/-- The flags that hold at a place of a pattern. -/
structure Flags where
  /-- Upper and lower case do not matter. -/
  caseInsensitive : Bool := false
  /-- `^` and `$` hold at every line. -/
  multiLine : Bool := false
  /-- The dot matches line feeds too. -/
  dotAll : Bool := false
  /-- Classes are sets of Unicode characters. -/
  unicode : Bool := true
  /-- A carriage return ends a line as well. -/
  crlf : Bool := false
deriving DecidableEq, Repr

/-- The flags with one of them set or cleared. -/
def Flags.set (f : Flags) : Flag × Bool → Flags
  | (.caseInsensitive, b) => { f with caseInsensitive := b }
  | (.multiLine, b) => { f with multiLine := b }
  | (.dotAll, b) => { f with dotAll := b }
  | (.unicode, b) => { f with unicode := b }
  | (.crlf, b) => { f with crlf := b }
  | (.swapGreed, _) => f
  | (.spaced, _) => f

/-- The flags after a change. -/
def Flags.change (f : Flags) (change : FlagChange) : Flags := change.foldl Flags.set f

/-! ## Regular expressions -/

/-- A place in a text, by the characters before and after it. -/
inductive Look where
  | textStart
  | textEnd
  | lineStart
  | lineEnd
  | lineStartCrlf
  | lineEndCrlf
  /-- A place that depends on whether a word is before it and after it. -/
  | word (set : CharSet) (edge : WordEdge)
deriving Repr, Inhabited

/-- A pattern whose flags have been applied. -/
inductive Regex where
  /-- Nothing. -/
  | empty
  /-- A character of a set. -/
  | chars (set : CharSet)
  /-- A place. -/
  | look (l : Look)
  /-- Two patterns one after the other. -/
  | seq (first second : Regex)
  /-- One of two patterns. -/
  | alt (left right : Regex)
  /-- A pattern several times. -/
  | repeated (min : Nat) (max : Option Nat) (body : Regex)
deriving Repr, Inhabited

/-! ## Classes -/

/-- A set, or its complement. -/
def CharSet.negateIf (negated : Bool) (s : CharSet) : CharSet :=
  if negated then .complement s else s

/-- A set with the case of letters ignored, if the flags say so. -/
def CharSet.foldIf (f : Flags) (s : CharSet) : CharSet :=
  if f.caseInsensitive then if f.unicode then .folded s else .foldedAscii s else s

/-- A set that has to be a set of characters. -/
def CharSet.checked? (f : Flags) (s : CharSet) : Option CharSet :=
  if f.unicode || s.isAscii then some s else none

/-- A set with its case folded and then negated, as the flags say. -/
def CharSet.finish? (f : Flags) (negated : Bool) (s : CharSet) : Option CharSet :=
  ((s.foldIf f).negateIf negated).checked? f

/-- A character in a class.  Without the flag `u` it has to be one of ASCII. -/
def Symbol.code? (f : Flags) (s : Symbol) : Option Nat :=
  if f.unicode || s.char.toNat < 0x80 then some s.char.toNat else none

/-- The set of a class with a letter of its own. -/
def Shorthand.set? (f : Flags) (negated : Bool) (kind : Shorthand) : Option CharSet :=
  let s : CharSet :=
    match kind, f.unicode with
    | .digit, true => .ranges Unicode.decimalNumberRanges
    | .space, true => .ranges Unicode.whiteSpaceRanges
    | .word, true => wordSet
    | .digit, false => .ranges [(0x30, 0x39)]
    | .space, false => .ranges [(0x09, 0x0D), (0x20, 0x20)]
    | .word, false => asciiWordSet
  (s.negateIf negated).checked? f

/-- The set of the characters with a property. -/
def PropertyQuery.set? (f : Flags) (negated : Bool) (q : PropertyQuery) : Option CharSet :=
  if f.unicode then do
    let p ←
      match q with
      | .named name => Unicode.namedSet? name
      | .valued name value => Unicode.valuedSet? name value
    (CharSet.property p).finish? f negated
  else none

mutual

/-- The set of a class. -/
def ClassTree.set? (f : Flags) : ClassTree → Option CharSet
  | .symbol s => (s.code? f).map fun n => .ranges [(n, n)]
  | .range low high => do
      let a ← low.code? f
      let b ← high.code? f
      return .ranges [(a, b)]
  | .ascii negated name => do
      let r ← asciiClass? (String.ofList name)
      (CharSet.ranges r).finish? f negated
  | .shorthand negated kind => kind.set? f negated
  | .property negated query => query.set? f negated
  | .bracket negated inner => do
      let s ← inner.set? f
      s.finish? f negated
  | .items trees => (setsOf? f trees).map .union
  | .combined op left right => do
      let a ← left.set? f
      let b ← right.set? f
      return .combined op (a.foldIf f) (b.foldIf f)

/-- The sets of some classes. -/
def setsOf? (f : Flags) : List ClassTree → Option (List CharSet)
  | [] => some []
  | t :: ts => do
      let s ← t.set? f
      let sets ← setsOf? f ts
      return s :: sets

end

/-! ## Patterns -/

/-- A single character.  Without the flag `u` a short escape stands for a byte,
and there is no byte beyond ASCII that is a character.  Ignoring case then asks
for a character of ASCII. -/
def Symbol.meaning? (f : Flags) (s : Symbol) : Option Regex :=
  let n := s.char.toNat
  let single : CharSet := .ranges [(n, n)]
  if f.unicode || n < 0x80 then some (.chars (single.foldIf f))
  else if s.short || f.caseInsensitive then none
  else some (.chars single)

/-- Any character, but for the ends of lines. -/
def dotMeaning? (f : Flags) : Option Regex :=
  if !f.unicode then none
  else if f.dotAll then some (.chars (.property Unicode.everything))
  else if f.crlf then some (.chars (.complement (.ranges [(0x0A, 0x0A), (0x0D, 0x0D)])))
  else some (.chars (.complement (.ranges [(0x0A, 0x0A)])))

/-- A place. -/
def Anchor.meaning (f : Flags) : Anchor → Look
  | .lineStart =>
      if f.multiLine then if f.crlf then .lineStartCrlf else .lineStart else .textStart
  | .lineEnd => if f.multiLine then if f.crlf then .lineEndCrlf else .lineEnd else .textEnd
  | .textStart => .textStart
  | .textEnd => .textEnd
  | .word edge => .word (if f.unicode then wordSet else asciiWordSet) edge

mutual

/-- The meaning of a pattern under given flags, and the flags after it. -/
def Tree.meaning? (f : Flags) : Tree → Option (Regex × Flags)
  | .empty => some (.empty, f)
  | .flags change => some (.empty, f.change change)
  | .symbol s => (s.meaning? f).map (·, f)
  | .dot => (dotMeaning? f).map (·, f)
  | .anchor a => some (.look (a.meaning f), f)
  | .shorthand negated kind => (kind.set? f negated).map fun s => (.chars s, f)
  | .property negated query => (query.set? f negated).map fun s => (.chars s, f)
  | .bracket negated inner => do
      let s ← inner.set? f
      let s ← s.finish? f negated
      return (.chars s, f)
  | .repeated min max body => do
      let (r, f) ← body.meaning? f
      return (.repeated min max r, f)
  | .group change body => do
      let (r, _) ← body.meaning? (f.change change)
      return (r, f)
  | .choice branches => choiceMeaning? f branches
  | .sequence parts => sequenceMeaning? f parts

/-- The meaning of patterns of which one is to match. -/
def choiceMeaning? (f : Flags) : List Tree → Option (Regex × Flags)
  | [] => some (.empty, f)
  | [t] => t.meaning? f
  | t :: ts => do
      let (a, f) ← t.meaning? f
      let (b, f) ← choiceMeaning? f ts
      return (.alt a b, f)

/-- The meaning of patterns that match one after another. -/
def sequenceMeaning? (f : Flags) : List Tree → Option (Regex × Flags)
  | [] => some (.empty, f)
  | t :: ts => do
      let (a, f) ← t.meaning? f
      let (b, f) ← sequenceMeaning? f ts
      return (.seq a b, f)

end

/-! ## Size -/

/-- The size of the automaton of a pattern, in bytes. -/
def Regex.size : Regex → Nat
  | .empty => 32
  | .chars s => 80 * s.width
  | .look _ => 32
  | .seq a b => a.size + b.size
  | .alt a b => a.size + b.size + 32
  | .repeated min max body => body.size * (max.getD (min + 1)) + 32

/-- The size of the largest automaton. -/
def sizeLimit : Nat := 10 * 1024 * 1024

/-- The meaning of a text as a pattern, if it is one. -/
def Regex.ofText? (cs : List Char) : Option Regex := do
  let tree ← Tree.ofText? cs
  let (r, _) ← tree.meaning? {}
  if r.size ≤ sizeLimit then some r else none

end PageLayout.Pattern
