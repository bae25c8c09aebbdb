/-!
# Name patterns with stars

In a pattern a star stands for any run of characters within a line, and every
other character for itself.  The pattern has to match the whole text.

The match follows all possibilities at once.  A state is the part of the pattern
that is still to be matched.  `Glob.closure` adds the states that are reached
without reading, since a star may stand for nothing.
-/

namespace PageLayout.Glob

/-- A state with those that are reached from it without reading. -/
def closure : List Char → List (List Char)
  | '*' :: rest => ('*' :: rest) :: closure rest
  | rest => [rest]

/-- The states that are reached from a state by reading a character. -/
def advance (c : Char) : List Char → List (List Char)
  | [] => []
  | '*' :: rest => if c == '\n' then [] else closure ('*' :: rest)
  | d :: rest => if c == d then closure rest else []

/-- The states that are reached from a list of states by reading a character,
each once. -/
def step (states : List (List Char)) (c : Char) : List (List Char) :=
  (states.flatMap (advance c)).eraseDups

/-- Whether a pattern matches a whole text. -/
def holds (pattern text : List Char) : Bool :=
  (text.foldl step (closure pattern)).any List.isEmpty

end PageLayout.Glob
