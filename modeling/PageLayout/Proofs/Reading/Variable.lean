import PageLayout.Proofs.Compilation.Parts
import PageLayout.Proofs.Expression.Definition
import PageLayout.Proofs.Expression.Value
import PageLayout.Reading.IndexList

/-!
# Where a variable is read

A line is changed in three passes: an index is put in place of its placeholders, then values in
place of references to properties, and then values in place of expressions.  A variable in
braces behind a dollar sign goes through the first two as it is, if its name is not one of a
property (`fillChars_append_dollar`, `expandChars_embraced`).

The third pass goes from left to right.  `Leads` says how far it has come and what it has shown
until then, whatever expressions it has met.  Where it comes to the variable, it shows its value
and goes on behind the closing brace (`Leads.fillChars_embraced`).
-/

namespace PageLayout

/-! ## Placeholders -/

namespace Placeholder

variable {cs : List Char}

theorem dropPrefix?_append_dollar {c : Char} (hc : c ≠ '$') (cs ds : List Char) :
    Text.dropPrefix? [c] (cs ++ '$' :: ds) = (Text.dropPrefix? [c] cs).map (· ++ '$' :: ds) := by
  cases cs with
  | nil => exact if_neg hc
  | cons d cs =>
      show (if c = d then _ else _) = Option.map _ (if c = d then _ else _)
      split <;> rfl

theorem readSign?_append_dollar (cs ds : List Char) :
    readSign? (cs ++ '$' :: ds) =
      (readSign? cs).map fun (negative, rest) => (negative, rest ++ '$' :: ds) := by
  cases cs with
  | nil => rfl
  | cons c cs =>
      show readSign? (c :: (cs ++ '$' :: ds)) = _
      unfold readSign?
      split <;> simp_all

/-- No offset goes over a dollar sign. -/
theorem readOffset?_append_dollar (cs ds : List Char) :
    readOffset? (cs ++ '$' :: ds) =
      (readOffset? cs).map fun (o, rest) => (o, rest ++ '$' :: ds) := by
  have hblank : ∀ cs, Text.trimStart (cs ++ '$' :: ds) = Text.trimStart cs ++ '$' :: ds := fun cs =>
    Text.dropWhile_append_stop (by decide) cs ds
  have hdigit : isDecimalDigit '$' = false := by decide +kernel
  unfold readOffset?
  rw [dropPrefix?_append_dollar (by decide)]
  cases Text.dropPrefix? ['\x7b'] cs with
  | none => rfl
  | some inner =>
      simp only [Option.map_some, Option.bind_eq_bind, Option.bind_some, hblank,
        readSign?_append_dollar]
      cases readSign? (Text.trimStart inner) with
      | none => rfl
      | some signed =>
          obtain ⟨negative, after⟩ := signed
          simp only [Option.map_some, Option.bind_some, hblank,
            Text.takeWhile_append_stop hdigit, Text.dropWhile_append_stop hdigit,
            dropPrefix?_append_dollar (c := '\x7d') (by decide)]
          cases Text.dropPrefix? ['\x7d']
              (Text.trimStart ((Text.trimStart after).dropWhile isDecimalDigit)) with
          | none => rfl
          | some rest =>
              simp only [Option.map_some, Option.bind_some]
              split <;> rfl

/-- What is before a dollar sign is filled by itself. -/
theorem fillChars_append_dollar {i : Int} {filled : List Char} (h : fillChars i cs = .ok filled)
    (ds : List Char) :
    fillChars i (cs ++ '$' :: ds) = (fillChars i ds).map (filled ++ '$' :: ·) := by
  have hread := readOffset?_append_dollar
  fun_induction fillChars i cs generalizing filled with
  | case1 =>
      cases h
      exact fillChars_char (by decide)
  | case2 c cs hc offset rest hoffset _ moved hmoved ih =>
      obtain rfl := eq_of_beq hc
      obtain ⟨filled, hfilled, rfl⟩ := map_eq_ok_iff.1 h
      rw [List.cons_append, fillChars_offset (by rw [hread, hoffset]; rfl), hmoved]
      dsimp only
      rw [ih hfilled]
      cases fillChars i ds <;> simp [Except.map]
  | case3 => cases h
  | case4 c cs hc hnone ih =>
      obtain rfl := eq_of_beq hc
      obtain ⟨filled, hfilled, rfl⟩ := map_eq_ok_iff.1 h
      rw [List.cons_append, fillChars_index (by rw [hread, hnone]; rfl), ih hfilled]
      cases fillChars i ds <;> simp [Except.map]
  | case5 c cs hc ih =>
      obtain ⟨filled, hfilled, rfl⟩ := map_eq_ok_iff.1 h
      rw [List.cons_append, fillChars_char (by simpa using hc), ih hfilled]
      cases fillChars i ds <;> rfl

end Placeholder

/-! ## Variables in braces -/

namespace Template

open Script (IsName)

/-- A name in braces behind a dollar sign. -/
def embraced (name : String) : List Char := '$' :: '\x7b' :: (name.toList ++ ['\x7d'])

section Properties

variable {properties : Table String} {name : String}

theorem expandChars_append_of_notMem {run : List Char} (h : '$' ∉ run) (cs : List Char) :
    expandChars properties (run ++ cs) = run ++ expandChars properties cs := by
  induction run with
  | nil => rfl
  | cons c run ih =>
      obtain ⟨hc, hrun⟩ := not_or.1 (mt List.mem_cons.2 h)
      have hnone : ¬StartsReference properties (c :: (run ++ cs)) := fun hstarts =>
        hc (startsReference_iff.1 hstarts).1.symm
      rw [List.cons_append, expandChars_kept hnone, ih hrun]
      rfl

/-- A name that is not one of a property is kept. -/
theorem expandChars_embraced (hname : IsName name) (hproperty : properties.get? name = none)
    (cs : List Char) :
    expandChars properties (embraced name ++ cs) = embraced name ++ expandChars properties cs := by
  have hclosing : '\x7d' ∉ name.toList := hname.notMem (by decide)
  have hnone : ¬StartsReference properties ('$' :: '\x7b' :: (name.toList ++ '\x7d' :: cs)) := by
    intro hstarts
    obtain ⟨⟨value, rest⟩, hread⟩ := Option.isSome_iff_exists.1 (startsReference_iff.1 hstarts).2
    obtain ⟨read, hread, _, hvalue⟩ := readReference?_eq_some_iff.1 hread
    rw [readName?_braced hclosing] at hread
    cases hread
    rw [hname.word.trimmed.trim, String.ofList_toList, hproperty] at hvalue
    cases hvalue
  have hrun : '$' ∉ '\x7b' :: (name.toList ++ ['\x7d']) := by
    have hdollar : '$' ∉ name.toList := hname.notMem (by decide)
    simpa using hdollar
  have hsplit : embraced name ++ cs = '$' :: ('\x7b' :: (name.toList ++ ['\x7d']) ++ cs) := rfl
  have hword : '\x7b' :: (name.toList ++ ['\x7d']) ++ cs =
      '\x7b' :: (name.toList ++ '\x7d' :: cs) := by simp
  rw [hsplit, hword, expandChars_kept hnone, ← hword, expandChars_append_of_notMem hrun]
  rfl

end Properties

/-! ## Expressions from left to right -/

/-- The values in a text are put in place of its expressions up to a rest, and this is shown
until then. -/
inductive Leads (evaluate : String → Except EvalError Value) :
    (text shown rest : List Char) → Prop
  | here (rest : List Char) : Leads evaluate rest [] rest
  | kept {c : Char} {cs shown rest : List Char} :
      (∀ body, c :: cs ≠ '$' :: '\x7b' :: body) → Leads evaluate cs shown rest →
        Leads evaluate (c :: cs) (c :: shown) rest
  | expression {body e after shown rest : List Char} {value : Value} :
      splitClosing none 0 body = some (e, after) → evaluate (String.ofList e) = .ok value →
        Leads evaluate after shown rest →
          Leads evaluate ('$' :: '\x7b' :: body) (value.display.toList ++ shown) rest

section Expressions

variable {evaluate : String → Except EvalError Value} {text shown rest : List Char}

theorem Leads.fillChars_eq (h : Leads evaluate text shown rest) :
    fillChars evaluate text = (fillChars evaluate rest).map (shown ++ ·) := by
  induction h with
  | here rest => cases fillChars evaluate rest <;> rfl
  | @kept c cs shown rest hplain _ ih =>
      have hplain : ∀ body, c = '$' → cs = '\x7b' :: body → False := by
        rintro body rfl rfl
        exact hplain body rfl
      rw [fillChars.eq_3 _ _ _ hplain, ih]
      cases fillChars evaluate rest <;> rfl
  | @expression body e after shown rest value hsplit hvalue _ ih =>
      rw [fillChars_expression hsplit hvalue, ih]
      cases fillChars evaluate rest <;> simp [Except.map]

/-- A text without dollar signs is shown as it is. -/
theorem leads_of_notMem (h : '$' ∉ text) (rest : List Char) :
    Leads evaluate (text ++ rest) text rest := by
  induction text with
  | nil => exact .here rest
  | cons c text ih =>
      obtain ⟨hc, htext⟩ := not_or.1 (mt List.mem_cons.2 h)
      refine .kept ?_ (ih htext)
      intro body heq
      exact hc (List.cons.inj heq).1.symm

end Expressions

section Variables

variable {π : Type} [Page π] {s : Scope π} {name : String} {value : Value}

/-- A name has the value of its variable, unless it is a truth value. -/
theorem evaluate_name (hname : IsName name) (htrue : name ≠ "true") (hfalse : name ≠ "false")
    (hvalue : s.values.get? name = some value) : PageLayout.evaluate s name = .ok value := by
  have htokens : Token.Spaced [.name name] name.toList := by
    have hspaced : Token.Spaced [.name name] ([] ++ (name.toList ++ [])) :=
      .cons nofun hname nofun (.nil nofun)
    rwa [List.nil_append, List.append_nil] at hspaced
  have htree : Expr.Derives .sum [.name name] (.variable name) :=
    .product (.operand (.atom (.name htrue hfalse)))
  rw [evaluate_eq_eval s htokens htree, Expr.eval, hvalue]

/-- Where a variable comes next, its value is shown. -/
theorem Leads.fillChars_embraced {text shown after : List Char}
    (h : Leads (PageLayout.evaluate s) text shown (embraced name ++ after))
    (hvalue : PageLayout.evaluate s name = .ok value) :
    fillChars (PageLayout.evaluate s) text =
      (fillChars (PageLayout.evaluate s) after).map fun filled =>
        shown ++ (value.display.toList ++ filled) := by
  have hopening : embraced name ++ after =
      [] ++ '$' :: '\x7b' :: (name.toList ++ '\x7d' :: after) := by
    simp [embraced]
  rw [← String.ofList_toList (s := name)] at hvalue
  rw [h.fillChars_eq, hopening, fillChars_evaluated (by decide) hvalue]
  cases fillChars (PageLayout.evaluate s) after <;> rfl

end Variables

end Template

end PageLayout
