/-!
# Pattern trees

The form of a pattern, before any of its flags is applied: what stands beside
what, what is repeated and what is grouped.  A flag is a part of the form.  Which
characters it touches is decided when the pattern is given its meaning.
-/

namespace PageLayout.Pattern

/-! ## Characters and classes -/

/-- A character in a pattern.  One that was written with two hexadecimal digits
can stand for a byte. -/
structure Symbol where
  /-- The character. -/
  char : Char
  /-- Whether it was written with two hexadecimal digits. -/
  short : Bool := false
deriving DecidableEq, Repr, Inhabited

/-- The classes that have a letter of their own. -/
inductive Shorthand where
  | digit
  | space
  | word
deriving DecidableEq, Repr

/-- How a property is asked for. -/
inductive PropertyQuery where
  /-- By one name. -/
  | named (name : List Char)
  /-- By the name of a property and a value. -/
  | valued (name value : List Char)
deriving DecidableEq, Repr

/-- The operators between the two parts of a class. -/
inductive SetOperator where
  | intersection
  | difference
  | symmetricDifference
deriving DecidableEq, Repr

/-- What stands between the brackets of a class. -/
inductive ClassTree where
  /-- A character. -/
  | symbol (s : Symbol)
  /-- The characters from one to another. -/
  | range (low high : Symbol)
  /-- A class of ASCII characters, by its name. -/
  | ascii (negated : Bool) (name : List Char)
  /-- A class with a letter of its own. -/
  | shorthand (negated : Bool) (kind : Shorthand)
  /-- The characters with a property. -/
  | property (negated : Bool) (query : PropertyQuery)
  /-- A class inside a class. -/
  | bracket (negated : Bool) (inner : ClassTree)
  /-- Several items side by side. -/
  | items (trees : List ClassTree)
  /-- Two parts and the operator between them. -/
  | combined (op : SetOperator) (left right : ClassTree)
deriving Repr, Inhabited

/-! ## Patterns -/

/-- How words may lie around a place. -/
inductive WordEdge where
  /-- A word on exactly one side. -/
  | oneSide
  /-- A word on both sides or on none. -/
  | evenSides
  /-- A word after the place, and none before it. -/
  | start
  /-- A word before the place, and none after it. -/
  | stop
  /-- No word before the place. -/
  | afterNoWord
  /-- No word after the place. -/
  | beforeNoWord
deriving DecidableEq, Repr

/-- The kinds of places that can be asked for. -/
inductive Anchor where
  /-- The start of a line, or of the text. -/
  | lineStart
  /-- The end of a line, or of the text. -/
  | lineEnd
  /-- The start of the text. -/
  | textStart
  /-- The end of the text. -/
  | textEnd
  /-- A place by the words around it. -/
  | word (edge : WordEdge)
deriving DecidableEq, Repr

/-- The flags that change what a pattern means. -/
inductive Flag where
  | caseInsensitive
  | multiLine
  | dotAll
  | swapGreed
  | unicode
  | crlf
  | spaced
deriving DecidableEq, Repr

/-- Flags that are set or cleared together. -/
abbrev FlagChange := List (Flag × Bool)

/-- A pattern. -/
inductive Tree where
  /-- Nothing. -/
  | empty
  /-- A change of flags up to the end of the group. -/
  | flags (change : FlagChange)
  /-- A character. -/
  | symbol (s : Symbol)
  /-- Any character. -/
  | dot
  /-- A place. -/
  | anchor (a : Anchor)
  /-- A class with a letter of its own. -/
  | shorthand (negated : Bool) (kind : Shorthand)
  /-- The characters with a property. -/
  | property (negated : Bool) (query : PropertyQuery)
  /-- A class in brackets. -/
  | bracket (negated : Bool) (inner : ClassTree)
  /-- A pattern several times. -/
  | repeated (min : Nat) (max : Option Nat) (body : Tree)
  /-- A group, with the flags that hold inside it. -/
  | group (change : FlagChange) (body : Tree)
  /-- One of several patterns. -/
  | choice (branches : List Tree)
  /-- Several patterns one after another. -/
  | sequence (parts : List Tree)
deriving Repr, Inhabited

/-! ## Depth -/

mutual

/-- How deep a class is nested. -/
def ClassTree.depth : ClassTree → Nat
  | .bracket _ inner => inner.depth + 1
  | .items [] => 0
  | .items trees => classDepth trees + 1
  | .combined _ left right => max left.depth right.depth + 1
  | _ => 0

/-- The depth of the deepest of some classes. -/
def classDepth : List ClassTree → Nat
  | [] => 0
  | t :: ts => max t.depth (classDepth ts)

end

mutual

/-- How deep a pattern is nested. -/
def Tree.depth : Tree → Nat
  | .bracket _ inner => inner.depth + 1
  | .repeated _ _ body => body.depth + 1
  | .group _ body => body.depth + 1
  | .choice branches => treeDepth branches + 1
  | .sequence parts => treeDepth parts + 1
  | _ => 0

/-- The depth of the deepest of some patterns. -/
def treeDepth : List Tree → Nat
  | [] => 0
  | t :: ts => max t.depth (treeDepth ts)

end

/-- Parts side by side.  A single part stands for itself. -/
def Tree.ofParts : List Tree → Tree
  | [] => .empty
  | [t] => t
  | ts => .sequence ts

/-- Branches of a choice.  A single branch stands for itself. -/
def Tree.ofBranches : List Tree → Tree
  | [t] => t
  | ts => .choice ts

/-- Items side by side.  A single item stands for itself. -/
def ClassTree.ofItems : List ClassTree → ClassTree
  | [t] => t
  | ts => .items ts

end PageLayout.Pattern
