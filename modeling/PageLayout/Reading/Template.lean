import PageLayout.Error
import PageLayout.Expression.Value
import PageLayout.Table
import PageLayout.Text.Blank

/-!
# Properties and embedded expressions

A line can refer to properties and contain expressions.

* `$name` and `${name}` stand for the value of a property.  A reference to
  something else is left as it is, since it may be an expression.  Values are
  not searched for references.
* `${expression}` is replaced by the text of the value of the expression.  The
  expression ends at the first brace that closes none of its own.  Braces inside
  quotes do not count.

Properties are expanded before expressions are evaluated.
-/

namespace PageLayout.Template

/-! ## Properties -/

/-- A character of a name that is written without braces. -/
def isNamePart (c : Char) : Bool := c.isAlphanum || c == '_'

/-- The name that follows a dollar sign, and the rest. -/
def readName? : List Char → Option (List Char × List Char)
  | '\x7b' :: braced => Text.splitOnce ['\x7d'] braced
  | cs => some (cs.takeWhile isNamePart, cs.dropWhile isNamePart)

/-- The value of the property that is named after a dollar sign, and the rest. -/
def readReference? (properties : Table String) (after : List Char) :
    Option (String × List Char) := do
  let (name, rest) ← readName? after
  if name.isEmpty then none
  else
    let value ← properties.get? (String.ofList (Text.trim name))
    some (value, rest)

theorem length_readName? {cs name rest : List Char} (h : readName? cs = some (name, rest)) :
    rest.length ≤ cs.length := by
  unfold readName? at h
  split at h
  · exact Nat.le_succ_of_le (Text.length_splitOnce h)
  · simp only [Option.some.injEq, Prod.mk.injEq] at h
    rw [← h.2]
    exact (List.dropWhile_sublist _).length_le

theorem length_readReference? {properties : Table String} {cs rest : List Char} {value : String}
    (h : readReference? properties cs = some (value, rest)) : rest.length ≤ cs.length := by
  simp only [readReference?, Option.bind_eq_bind, Option.bind_eq_some_iff] at h
  obtain ⟨⟨name, after⟩, hname, h⟩ := h
  split at h
  · simp at h
  · obtain ⟨v, _, hv⟩ := Option.bind_eq_some_iff.1 h
    simp only [Option.some.injEq, Prod.mk.injEq] at hv
    rw [← hv.2]
    exact length_readName? hname

/-- A text with the values of its properties. -/
def expandChars (properties : Table String) (text : List Char) : List Char :=
  match text with
  | [] => []
  | c :: cs =>
      if c == '$' then
        match h : readReference? properties cs with
        | some (value, rest) =>
            have := length_readReference? h
            value.toList ++ expandChars properties rest
        | none => c :: expandChars properties cs
      else c :: expandChars properties cs
termination_by text.length

/-- A text with the values of its properties. -/
def expand (properties : Table String) (text : String) : String :=
  String.ofList (expandChars properties text.toList)

/-! ## Expressions -/

/-- Cuts a text at the brace that closes it.  `quote` is the quote that is open,
and `depth` the number of braces that are. -/
def splitClosing : (quote : Option Char) → (depth : Nat) → List Char →
    Option (List Char × List Char)
  | _, _, [] => none
  | some q, depth, c :: cs =>
      (splitClosing (if c == q then none else some q) depth cs).map fun (e, rest) => (c :: e, rest)
  | none, depth, c :: cs =>
      if c == '\x7d' && depth == 0 then some ([], cs)
      else
        let quote := if c == '"' || c == '\'' then some c else none
        let depth :=
          if c == '\x7b' then depth + 1 else if c == '\x7d' then depth - 1 else depth
        (splitClosing quote depth cs).map fun (e, rest) => (c :: e, rest)

theorem length_splitClosing {quote : Option Char} {depth : Nat} {cs e rest : List Char}
    (h : splitClosing quote depth cs = some (e, rest)) : rest.length < cs.length := by
  induction cs generalizing quote depth e rest with
  | nil => cases quote <;> simp [splitClosing] at h
  | cons c cs ih =>
    cases quote with
    | some q =>
      simp only [splitClosing, Option.map_eq_some_iff] at h
      obtain ⟨⟨x, y⟩, hxy, hx⟩ := h
      simp only [Prod.mk.injEq] at hx
      rw [← hx.2]
      exact Nat.lt_succ_of_lt (ih hxy)
    | none =>
      simp only [splitClosing] at h
      split at h
      · simp only [Option.some.injEq, Prod.mk.injEq] at h
        rw [← h.2]
        exact Nat.lt_succ_self _
      · simp only [Option.map_eq_some_iff] at h
        obtain ⟨⟨x, y⟩, hxy, hx⟩ := h
        simp only [Prod.mk.injEq] at hx
        rw [← hx.2]
        exact Nat.lt_succ_of_lt (ih hxy)

/-- A text with the values of its expressions. -/
def fillChars (evaluate : String → Except EvalError Value) (text : List Char) :
    Except EvaluationFault (List Char) :=
  match text with
  | [] => .ok []
  | '$' :: '\x7b' :: body =>
      match h : splitClosing none 0 body with
      | none => .error (.unclosedExpression (String.ofList text))
      | some (e, rest) =>
          have := length_splitClosing h
          let expression := String.ofList e
          match evaluate expression with
          | .error cause => .error (.badExpression expression cause)
          | .ok value => (fillChars evaluate rest).map (value.display.toList ++ ·)
  | c :: cs => (fillChars evaluate cs).map (c :: ·)
termination_by text.length

/-- A text with the values of its expressions. -/
def fill (evaluate : String → Except EvalError Value) (text : String) :
    Except EvaluationFault String :=
  (fillChars evaluate text.toList).map String.ofList

end PageLayout.Template
