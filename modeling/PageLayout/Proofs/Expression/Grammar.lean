import PageLayout.Expression.Evaluation

/-!
# The grammar of expressions

`Derives` is the grammar of expressions, with the tree of each sentence beside it:

* a sum is a product, or a sum, `+` or `-` and a product;
* a product is an operand, or a product, `*`, `/` or `%` and an operand;
* an operand is an atom, or `-` and an operand;
* an atom is a number, a string, a truth value, a name, a call, or a sum in
  parentheses.

So parentheses have to stand where an operator takes an operand that binds no tighter,
and may stand around any expression.

`ofTokens_of_derives` says that a sentence is read as its tree.  Conversely,
`derives_of_eval` says that tokens whose tree has a value are a sentence.
-/

namespace PageLayout.Expr

/-! ## The grammar -/

/-- How tightly an expression has to be bound at a place. -/
inductive Level where
  | sum
  | product
  | operand
  | atom
deriving DecidableEq, Repr

mutual

/-- Tokens are an expression of some level, with its tree. -/
inductive Derives : Level → List Token → Expr → Prop
  | number {x : Float} : Derives .atom [.number x] (.number x)
  | string {t : String} : Derives .atom [.string t] (.string t)
  | isTrue : Derives .atom [.name "true"] (.bool true)
  | isFalse : Derives .atom [.name "false"] (.bool false)
  | name {x : String} : x ≠ "true" → x ≠ "false" → Derives .atom [.name x] (.variable x)
  | callEmpty {f : String} : Derives .atom [.name f, .opening, .closing] (.call f [])
  | call {f : String} {ts : List Token} {es : List Expr} :
      DerivesAll ts es → Derives .atom (.name f :: .opening :: (ts ++ [.closing])) (.call f es)
  | parenthesis {ts : List Token} {e : Expr} :
      Derives .sum ts e → Derives .atom (.opening :: (ts ++ [.closing])) e
  | atom {ts : List Token} {e : Expr} : Derives .atom ts e → Derives .operand ts e
  | negate {ts : List Token} {e : Expr} :
      Derives .operand ts e → Derives .operand (.operator .minus :: ts) (.negate e)
  | operand {ts : List Token} {e : Expr} : Derives .operand ts e → Derives .product ts e
  | multiply {ts us : List Token} {left right : Expr} {op : Operator} :
      isMultiplicative op = true → Derives .product ts left → Derives .operand us right →
        Derives .product (ts ++ .operator op :: us) (.binary op left right)
  | product {ts : List Token} {e : Expr} : Derives .product ts e → Derives .sum ts e
  | add {ts us : List Token} {left right : Expr} {op : Operator} :
      isAdditive op = true → Derives .sum ts left → Derives .product us right →
        Derives .sum (ts ++ .operator op :: us) (.binary op left right)

/-- Tokens are expressions with commas between them, with their trees. -/
inductive DerivesAll : List Token → List Expr → Prop
  | last {ts : List Token} {e : Expr} : Derives .sum ts e → DerivesAll ts [e]
  | more {ts us : List Token} {e : Expr} {es : List Expr} :
      Derives .sum ts e → DerivesAll us es → DerivesAll (ts ++ .comma :: us) (e :: es)

end

/-- An expression has a first token, and it closes nothing. -/
theorem DerivesAll.head {ts : List Token} {es : List Expr} (h : DerivesAll ts es) :
    ∃ t us, ts = t :: us ∧ t ≠ .closing := by
  refine @DerivesAll.rec (fun _ ts _ _ => ∃ t us, ts = t :: us ∧ t ≠ .closing)
    (fun ts _ _ => ∃ t us, ts = t :: us ∧ t ≠ .closing)
    ?number ?string ?isTrue ?isFalse ?name ?callEmpty ?call ?parenthesis ?atom ?negate
    ?operand ?multiply ?product ?add ?last ?more ts es h
  case number | string | isTrue | isFalse => exact ⟨_, _, rfl, nofun⟩
  case name | callEmpty | call | parenthesis | negate =>
    intros
    exact ⟨_, _, rfl, nofun⟩
  case atom | operand | product | last =>
    intros
    assumption
  case multiply | add =>
    rintro _ us _ _ op - - - ⟨t, ts, rfl, ht⟩ -
    exact ⟨t, ts ++ .operator op :: us, rfl, ht⟩
  case more =>
    rintro _ us _ _ - - ⟨t, ts, rfl, ht⟩ -
    exact ⟨t, ts ++ .comma :: us, rfl, ht⟩

/-! ## What the readers do -/

section Readers

-- The equations of the readers are made here, once for all lemmas that use them.
attribute [local simp] readSumTail readProductTail readOperand readArguments readArgumentTail

theorem readSum_eq (ts : List Token) :
    (readSum ts).1 = (readSumTail (readProduct ts).1.1 (readProduct ts).1.2).1 := by
  rw [readSum]

theorem readSumTail_operator (left : Expr) {op : Operator} (h : isAdditive op = true)
    (rest : List Token) :
    (readSumTail left (.operator op :: rest)).1 =
      (readSumTail (.binary op left (readProduct rest).1.1) (readProduct rest).1.2).1 := by
  rw [readSumTail]
  simp only [h, if_true]

theorem readSumTail_other (left : Expr) {ts : List Token}
    (h : ∀ op rest, ts = .operator op :: rest → isAdditive op = false) :
    (readSumTail left ts).1 = (left, ts) := by
  rw [readSumTail.eq_def]
  split
  next op rest => simp [h op rest rfl]
  next => rfl

theorem readProduct_eq (ts : List Token) :
    (readProduct ts).1 = (readProductTail (readOperand ts).1.1 (readOperand ts).1.2).1 := by
  rw [readProduct]

theorem readProductTail_operator (left : Expr) {op : Operator} (h : isMultiplicative op = true)
    (rest : List Token) :
    (readProductTail left (.operator op :: rest)).1 =
      (readProductTail (.binary op left (readOperand rest).1.1) (readOperand rest).1.2).1 := by
  rw [readProductTail]
  simp only [h, if_true]

theorem readProductTail_other (left : Expr) {ts : List Token}
    (h : ∀ op rest, ts = .operator op :: rest → isMultiplicative op = false) :
    (readProductTail left ts).1 = (left, ts) := by
  rw [readProductTail.eq_def]
  split
  next op rest => simp [h op rest rfl]
  next => rfl

theorem readOperand_minus (rest : List Token) :
    (readOperand (.operator .minus :: rest)).1 =
      (.negate (readOperand rest).1.1, (readOperand rest).1.2) := by
  rw [readOperand]

theorem readOperand_number (x : Float) (rest : List Token) :
    (readOperand (.number x :: rest)).1 = (.number x, rest) := by
  rw [readOperand]

theorem readOperand_string (t : String) (rest : List Token) :
    (readOperand (.string t :: rest)).1 = (.string t, rest) := by
  rw [readOperand]

theorem readOperand_name (x : String) {rest : List Token} (h : ∀ us, rest ≠ .opening :: us) :
    (readOperand (.name x :: rest)).1 = (ofName x, rest) := by
  rw [readOperand]
  exact h

theorem readOperand_call (f : String) (rest : List Token) :
    (readOperand (.name f :: .opening :: rest)).1 =
      (.call f (readArguments rest).1.1, (readArguments rest).1.2) := by
  rw [readOperand]

theorem readOperand_parenthesis {e : Expr} {rest rest' : List Token}
    (h : (readSum rest).1 = (e, .closing :: rest')) :
    (readOperand (.opening :: rest)).1 = (e, rest') := by
  rw [readOperand]
  generalize readSum rest = r at h
  obtain ⟨_, hr⟩ := r
  cases h
  rfl

theorem readOperand_unclosed {e : Expr} {rest us : List Token} (h : (readSum rest).1 = (e, us))
    (hus : ∀ vs, us ≠ .closing :: vs) :
    (readOperand (.opening :: rest)).1 = (.followedBy e .expectedParenthesis, []) := by
  rw [readOperand]
  generalize readSum rest = r at h
  obtain ⟨_, hr⟩ := r
  cases h
  dsimp only
  split
  next vs _ => exact absurd rfl (hus vs)
  next => rfl

theorem readArguments_closing (rest : List Token) :
    (readArguments (.closing :: rest)).1 = ([], rest) := by
  rw [readArguments]

theorem readArguments_other {ts : List Token} (h : ∀ rest, ts ≠ .closing :: rest) :
    (readArguments ts).1 = (readArgumentTail ts).1 := by
  rw [readArguments]
  exact h

theorem readArgumentTail_comma {e : Expr} {ts rest : List Token}
    (h : (readSum ts).1 = (e, .comma :: rest)) :
    (readArgumentTail ts).1 = (e :: (readArgumentTail rest).1.1, (readArgumentTail rest).1.2) := by
  rw [readArgumentTail]
  generalize readSum ts = r at h
  obtain ⟨_, hr⟩ := r
  cases h
  rfl

theorem readArgumentTail_closing {e : Expr} {ts rest : List Token}
    (h : (readSum ts).1 = (e, .closing :: rest)) : (readArgumentTail ts).1 = ([e], rest) := by
  rw [readArgumentTail]
  generalize readSum ts = r at h
  obtain ⟨_, hr⟩ := r
  cases h
  rfl

theorem readArgumentTail_unclosed {e : Expr} {ts us : List Token} (h : (readSum ts).1 = (e, us))
    (hcomma : ∀ vs, us ≠ .comma :: vs) (hclosing : ∀ vs, us ≠ .closing :: vs) :
    (readArgumentTail ts).1 = ([.followedBy e .expectedSeparator], []) := by
  rw [readArgumentTail]
  generalize readSum ts = r at h
  obtain ⟨_, hr⟩ := r
  cases h
  dsimp only
  split
  next vs _ => exact absurd rfl (hcomma vs)
  next vs _ => exact absurd rfl (hclosing vs)
  next => rfl

theorem ofTokens_end {e : Expr} {ts : List Token} (h : (readSum ts).1 = (e, [])) :
    ofTokens ts = e := by
  unfold ofTokens
  generalize readSum ts = r at h
  obtain ⟨_, hr⟩ := r
  cases h
  rfl

theorem ofTokens_trailing {e : Expr} {t : Token} {ts rest : List Token}
    (h : (readSum ts).1 = (e, t :: rest)) : ofTokens ts = .followedBy e .trailingInput := by
  unfold ofTokens
  generalize readSum ts = r at h
  obtain ⟨_, hr⟩ := r
  cases h
  rfl

end Readers

/-! ## Sentences are read as their trees -/

/-- What can stand after an expression of some level: no parenthesis opens there, and no
factor follows a sum. -/
structure Follows (level : Level) (rest : List Token) : Prop where
  call : ∀ us, rest ≠ .opening :: us
  factor : level = .sum → ∀ op us, rest = .operator op :: us → isMultiplicative op = false

namespace Follows

theorem nil (level : Level) : Follows level [] := ⟨nofun, nofun⟩

theorem closing (level : Level) (rest : List Token) : Follows level (.closing :: rest) :=
  ⟨nofun, nofun⟩

theorem comma (level : Level) (rest : List Token) : Follows level (.comma :: rest) :=
  ⟨nofun, nofun⟩

/-- More can stand after a part of an expression than after a sum. -/
theorem part {level level' : Level} {rest : List Token} (h : Follows level rest)
    (hl : level' ≠ .sum) : Follows level' rest :=
  ⟨h.call, fun heq => absurd heq hl⟩

end Follows

/-- Tokens are read as an expression of some level up to a rest.  What is read as a sum or
a product may go on in the rest. -/
def IsRead : Level → List Token → Expr → List Token → Prop
  | .sum, ts, e, rest => (readSum ts).1 = (readSumTail e rest).1
  | .product, ts, e, rest => (readProduct ts).1 = (readProductTail e rest).1
  | .operand, ts, e, rest | .atom, ts, e, rest => (readOperand ts).1 = (e, rest)

namespace IsRead

variable {ts rest : List Token} {e : Expr}

/-- A product that no factor follows is read to its end. -/
theorem product_ends (h : IsRead .product ts e rest) (hr : Follows .sum rest) :
    (readProduct ts).1 = (e, rest) :=
  h.trans (readProductTail_other e (hr.factor rfl))

/-- A sum that no operator follows is read to its end. -/
theorem sum_ends (h : IsRead .sum ts e rest) (hr : ∀ op us, rest ≠ .operator op :: us) :
    (readSum ts).1 = (e, rest) :=
  h.trans (readSumTail_other e fun op us heq => absurd heq (hr op us))

end IsRead

/-- A sentence is read as its tree, whatever can stand after it. -/
theorem Derives.isRead {level : Level} {ts : List Token} {e : Expr} (h : Derives level ts e) :
    ∀ rest, Follows level rest → IsRead level (ts ++ rest) e rest := by
  -- The induction is on the sentence.  Arguments have a motive of their own: they are read up
  -- to the parenthesis that closes the call, whatever stands after it.
  refine @Derives.rec
    (fun level ts e _ => ∀ rest, Follows level rest → IsRead level (ts ++ rest) e rest)
    (fun ts es _ => ∀ rest, (readArgumentTail (ts ++ .closing :: rest)).1 = (es, rest))
    ?number ?string ?isTrue ?isFalse ?name ?callEmpty ?call ?parenthesis ?atom ?negate
    ?operand ?multiply ?product ?add ?last ?more level ts e h
  case number =>
    intro x rest _
    exact readOperand_number x rest
  case string =>
    intro t rest _
    exact readOperand_string t rest
  case isTrue =>
    intro rest hr
    exact readOperand_name "true" hr.call
  case isFalse =>
    intro rest hr
    exact readOperand_name "false" hr.call
  case name =>
    intro x ht hf rest hr
    refine (readOperand_name x hr.call).trans ?_
    simp [ofName, ht, hf]
  case callEmpty =>
    intro f rest _
    refine (readOperand_call f (.closing :: rest)).trans ?_
    rw [readArguments_closing]
  case call =>
    intro f ts es hall ih rest _
    obtain ⟨t, us, rfl, ht⟩ := hall.head
    have hne : ∀ us', t :: us ++ .closing :: rest ≠ .closing :: us' :=
      fun us' heq => ht (List.cons.inj heq).1
    refine (readOperand_call f (t :: us ++ [.closing] ++ rest)).trans ?_
    rw [List.append_assoc, List.singleton_append, readArguments_other hne, ih]
  case parenthesis =>
    intro ts e _ ih rest _
    have hsum : (readSum (ts ++ [.closing] ++ rest)).1 = (e, .closing :: rest) := by
      rw [List.append_assoc, List.singleton_append]
      exact (ih _ (.closing .sum rest)).sum_ends nofun
    exact readOperand_parenthesis hsum
  case atom =>
    intro ts e _ ih rest hr
    exact ih rest (hr.part (by decide))
  case negate =>
    intro ts e _ ih rest hr
    refine (readOperand_minus (ts ++ rest)).trans ?_
    rw [show (readOperand (ts ++ rest)).1 = (e, rest) from ih rest hr]
  case operand =>
    intro ts e _ ih rest hr
    refine (readProduct_eq (ts ++ rest)).trans ?_
    rw [show (readOperand (ts ++ rest)).1 = (e, rest) from ih rest (hr.part (by decide))]
  case multiply =>
    intro ts us left right op ho _ _ ihl ihr rest hr
    rw [List.append_assoc, List.cons_append]
    refine (ihl (.operator op :: (us ++ rest)) ⟨nofun, nofun⟩).trans ?_
    rw [readProductTail_operator left ho,
      show (readOperand (us ++ rest)).1 = (right, rest) from ihr rest (hr.part (by decide))]
  case product =>
    intro ts e _ ih rest hr
    refine (readSum_eq (ts ++ rest)).trans ?_
    rw [(ih rest (hr.part (by decide))).product_ends hr]
  case add =>
    intro ts us left right op ho _ _ ihl ihr rest hr
    rw [List.append_assoc, List.cons_append]
    -- The operator is none of products, so the last product of the left part ends before it.
    have hfollows : Follows .sum (.operator op :: (us ++ rest)) := by
      refine ⟨nofun, fun _ op' us' heq => ?_⟩
      cases heq
      rw [isMultiplicative, ho, Bool.not_true]
    refine (ihl _ hfollows).trans ?_
    rw [readSumTail_operator left ho, (ihr rest (hr.part (by decide))).product_ends hr]
  case last =>
    intro ts e _ ih rest
    exact readArgumentTail_closing ((ih _ (.closing .sum rest)).sum_ends nofun)
  case more =>
    intro ts us e es _ _ ih ihs rest
    rw [List.append_assoc, List.cons_append,
      readArgumentTail_comma ((ih _ (.comma .sum _)).sum_ends nofun), ihs]

/-- A sentence is read as its tree. -/
theorem ofTokens_of_derives {ts : List Token} {e : Expr} (h : Derives .sum ts e) :
    ofTokens ts = e := by
  have hread := (h.isRead [] (.nil .sum)).sum_ends nofun
  rw [List.append_nil] at hread
  exact ofTokens_end hread

/-! ## What has a value is a sentence -/

section Values

-- So are those of the evaluation.
attribute [local simp] eval evalAll

variable {π : Type} [Page π] (s : Scope π) (source : String)

/-- An expression has no value. -/
def Fails (e : Expr) : Prop := ∀ v, e.eval s source ≠ .ok v

/-- One of some expressions has no value. -/
def FailsAll (es : List Expr) : Prop := ∀ vs, evalAll s source es ≠ .ok vs

/-- What was read of some tokens is an expression of a level, unless it has no value. -/
def Accounts (level : Level) (ts : List Token) (r : Expr × List Token) : Prop :=
  Fails s source r.1 ∨ ∃ used, ts = used ++ r.2 ∧ Derives level used r.1

/-- What was read of some tokens up to a parenthesis are expressions, unless one of them
has no value. -/
def AccountsAll (ts : List Token) (r : List Expr × List Token) : Prop :=
  FailsAll s source r.1 ∨ ∃ used, ts = used ++ .closing :: r.2 ∧ DerivesAll used r.1

variable {s source}

/-! ### Expressions without a value -/

theorem fails_fault (f : ParseFault) : Fails s source (.fault f) := by
  intro v h
  rw [eval] at h
  cases h

theorem fails_followedBy (e : Expr) (f : ParseFault) : Fails s source (.followedBy e f) := by
  intro v h
  rw [eval] at h
  cases he : e.eval s source <;> rw [he] at h <;> cases h

theorem Fails.negate {e : Expr} (h : Fails s source e) : Fails s source (.negate e) := by
  intro v hv
  rw [eval] at hv
  cases he : e.eval s source with
  | error error => rw [he] at hv; cases hv
  | ok a => exact h a he

theorem Fails.binary {op : Operator} {left right : Expr}
    (h : Fails s source left ∨ Fails s source right) : Fails s source (.binary op left right) := by
  intro v hv
  rw [eval] at hv
  cases hl : left.eval s source with
  | error error => rw [hl] at hv; cases hv
  | ok a =>
      cases hr : right.eval s source with
      | error error => rw [hl, hr] at hv; cases hv
      | ok b => exact h.elim (fun h => h a hl) (fun h => h b hr)

theorem FailsAll.call {f : String} {es : List Expr} (h : FailsAll s source es) :
    Fails s source (.call f es) := by
  intro v hv
  rw [eval] at hv
  cases hes : evalAll s source es with
  | error error => rw [hes] at hv; cases hv
  | ok vs => exact h vs hes

theorem FailsAll.cons {e : Expr} {es : List Expr} (h : Fails s source e ∨ FailsAll s source es) :
    FailsAll s source (e :: es) := by
  intro vs hv
  rw [evalAll] at hv
  cases he : e.eval s source with
  | error error => rw [he] at hv; cases hv
  | ok a =>
      cases hes : evalAll s source es with
      | error error => rw [he, hes] at hv; cases hv
      | ok vs => exact h.elim (fun h => h a he) (fun h => h vs hes)

/-! ### One step of a reader -/

namespace Accounts

/-- A part that is read is an expression of a lower level, too. -/
theorem rise {level level' : Level} {ts : List Token} {r : Expr × List Token}
    (h : Accounts s source level ts r)
    (hl : ∀ used e, Derives level used e → Derives level' used e) :
    Accounts s source level' ts r :=
  h.imp_right fun ⟨used, hts, hd⟩ => ⟨used, hts, hl _ _ hd⟩

theorem negate {ts rest : List Token} {e : Expr} (h : Accounts s source .operand ts (e, rest)) :
    Accounts s source .operand (.operator .minus :: ts) (.negate e, rest) := by
  obtain h | ⟨used, rfl, hd⟩ := h
  · exact .inl h.negate
  · exact .inr ⟨.operator .minus :: used, rfl, .negate hd⟩

/-- An operator and the operand after it go on with what was read before. -/
theorem binary {level part : Level} {op : Operator} {ts us rest : List Token}
    {left right : Expr}
    (hop : ∀ used used', Derives level used left → Derives part used' right →
      Derives level (used ++ .operator op :: used') (.binary op left right))
    (hl : Accounts s source level ts (left, .operator op :: us))
    (hr : Accounts s source part us (right, rest)) :
    Accounts s source level ts (.binary op left right, rest) := by
  obtain hl | ⟨used, rfl, hd⟩ := hl
  · exact .inl (.binary (.inl hl))
  · obtain hr | ⟨used', rfl, hd'⟩ := hr
    · exact .inl (.binary (.inr hr))
    · exact .inr ⟨used ++ .operator op :: used', by simp, hop _ _ hd hd'⟩

theorem parenthesis {ts rest : List Token} {e : Expr}
    (h : Accounts s source .sum ts (e, .closing :: rest)) :
    Accounts s source .operand (.opening :: ts) (e, rest) := by
  obtain h | ⟨used, rfl, hd⟩ := h
  · exact .inl h
  · exact .inr ⟨.opening :: (used ++ [.closing]), by simp, .atom (.parenthesis hd)⟩

theorem name (x : String) (rest : List Token) :
    Accounts s source .operand (.name x :: rest) (ofName x, rest) := by
  refine .inr ⟨[.name x], rfl, .atom ?_⟩
  unfold ofName
  split
  next h => rw [eq_of_beq h]; exact .isTrue
  next ht =>
    split
    next h => rw [eq_of_beq h]; exact .isFalse
    next hf => exact .name (by simpa using ht) (by simpa using hf)

end Accounts

/-- The arguments of a call are read to the parenthesis that closes it. -/
theorem AccountsAll.call {f : String} {ts : List Token} {r : List Expr × List Token}
    (h : AccountsAll s source ts r) :
    Accounts s source .operand (.name f :: .opening :: ts) (.call f r.1, r.2) := by
  obtain h | ⟨used, rfl, hd⟩ := h
  · exact .inl h.call
  · exact .inr ⟨.name f :: .opening :: (used ++ [.closing]), by simp, .atom (.call hd)⟩

theorem AccountsAll.last {ts rest : List Token} {e : Expr}
    (h : Accounts s source .sum ts (e, .closing :: rest)) :
    AccountsAll s source ts ([e], rest) := by
  obtain h | ⟨used, rfl, hd⟩ := h
  · exact .inl (.cons (.inl h))
  · exact .inr ⟨used, rfl, .last hd⟩

theorem AccountsAll.more {ts rest : List Token} {e : Expr} {r : List Expr × List Token}
    (h : Accounts s source .sum ts (e, .comma :: rest)) (hs : AccountsAll s source rest r) :
    AccountsAll s source ts (e :: r.1, r.2) := by
  obtain h | ⟨used, rfl, hd⟩ := h
  · exact .inl (.cons (.inl h))
  · obtain hs | ⟨used', rfl, hd'⟩ := hs
    · exact .inl (.cons (.inr hs))
    · exact .inr ⟨used ++ .comma :: used', by simp, .more hd hd'⟩

/-! ### The readers -/

/-- A sum is read from some tokens, unless it has no value. -/
theorem accounts_readSum (ts : List Token) : Accounts s source .sum ts (readSum ts).1 := by
  -- The induction is on the calls of the readers.  A tail goes on with an expression that was
  -- read before, so its motive accounts for all tokens from the start of that expression.
  refine readSum.induct
    (fun ts => Accounts s source .sum ts (readSum ts).1)
    (fun left ts => ∀ all, Accounts s source .sum all (left, ts) →
      Accounts s source .sum all (readSumTail left ts).1)
    (fun ts => Accounts s source .product ts (readProduct ts).1)
    (fun left ts => ∀ all, Accounts s source .product all (left, ts) →
      Accounts s source .product all (readProductTail left ts).1)
    (fun ts => Accounts s source .operand ts (readOperand ts).1)
    (fun ts => ∀ f, Accounts s source .operand (.name f :: .opening :: ts)
      (.call f (readArguments ts).1.1, (readArguments ts).1.2))
    (fun ts => AccountsAll s source ts (readArgumentTail ts).1)
    ?sum ?sumAdd ?sumFactor ?sumEnds ?product ?productMultiply ?productTerm ?productEnds ?minus
    ?number ?string ?parenthesis ?unclosed ?call ?name ?other ?argumentsEmpty ?arguments
    ?argumentsMore ?argumentsLast ?argumentsUnclosed ts
  case sum =>
    intro ts e rest _ hproduct _ _ _ _ _ ih ihtail
    rw [readSum_eq, hproduct]
    rw [hproduct] at ih
    exact ihtail ts (ih.rise fun _ _ => .product)
  case sumAdd =>
    intro left op rest ho right rest' _ hproduct _ _ _ _ _ ih ihtail all h
    rw [readSumTail_operator left ho, hproduct]
    rw [hproduct] at ih
    exact ihtail all (.binary (fun _ _ => .add ho) h ih)
  case sumFactor =>
    intro left op rest ho all h
    rw [readSumTail_other left fun op' rest' heq => by cases heq; exact Bool.not_eq_true _ ▸ ho]
    exact h
  case sumEnds =>
    intro left ts hts all h
    rw [readSumTail_other left fun op rest heq => (hts op rest heq).elim]
    exact h
  case product =>
    intro ts e rest _ hoperand _ _ _ _ _ ih ihtail
    rw [readProduct_eq, hoperand]
    rw [hoperand] at ih
    exact ihtail ts (ih.rise fun _ _ => .operand)
  case productMultiply =>
    intro left op rest ho right rest' _ hoperand _ _ _ _ _ ih ihtail all h
    rw [readProductTail_operator left ho, hoperand]
    rw [hoperand] at ih
    exact ihtail all (.binary (fun _ _ => .multiply ho) h ih)
  case productTerm =>
    intro left op rest ho all h
    rw [readProductTail_other left fun op' rest' heq => by
      cases heq; exact Bool.not_eq_true _ ▸ ho]
    exact h
  case productEnds =>
    intro left ts hts all h
    rw [readProductTail_other left fun op rest heq => (hts op rest heq).elim]
    exact h
  case minus =>
    intro rest e rest' _ _ ih
    rw [readOperand_minus]
    exact ih.negate
  case number =>
    intro x rest
    rw [readOperand_number]
    exact .inr ⟨[.number x], rfl, .atom .number⟩
  case string =>
    intro t rest
    rw [readOperand_string]
    exact .inr ⟨[.string t], rfl, .atom .string⟩
  case parenthesis =>
    intro rest e rest' _ _ hsum ih
    rw [hsum] at ih
    rw [readOperand_parenthesis (by rw [hsum])]
    exact ih.parenthesis
  case unclosed =>
    intro rest e us _ hsum _ hclosing _
    rw [readOperand_unclosed (by rw [hsum]) fun vs heq => by subst heq; exact hclosing vs _ rfl .rfl]
    exact .inl (fails_followedBy e _)
  case call =>
    intro f rest _ _ _ _ ih
    rw [readOperand_call]
    exact ih f
  case name =>
    intro x rest hopening
    rw [readOperand_name x fun us heq => hopening us heq]
    exact .name x rest
  case other =>
    intro ts hminus hnumber hstring hopening hcall hname
    have hread : (readOperand ts).1 = (.fault .expectedValue, []) := by
      rw [readOperand]
      all_goals assumption
    rw [hread]
    exact .inl (fails_fault _)
  case argumentsEmpty =>
    intro rest f
    rw [readArguments_closing]
    exact .inr ⟨[.name f, .opening, .closing], rfl, .atom .callEmpty⟩
  case arguments =>
    intro ts hts ih f
    rw [readArguments_other fun us heq => hts us heq]
    exact ih.call
  case argumentsMore =>
    intro ts e rest _ _ es rest' _ _ _ hsum ih ihs
    rw [hsum] at ih
    rw [readArgumentTail_comma (by rw [hsum])]
    exact .more ih ihs
  case argumentsLast =>
    intro ts e rest _ _ hsum ih
    rw [hsum] at ih
    rw [readArgumentTail_closing (by rw [hsum])]
    exact .last ih
  case argumentsUnclosed =>
    intro ts e us _ hsum _ hcomma hclosing _
    rw [readArgumentTail_unclosed (by rw [hsum])
      (fun vs heq => by subst heq; exact hcomma vs _ rfl .rfl)
      fun vs heq => by subst heq; exact hclosing vs _ rfl .rfl]
    exact .inl (.cons (.inl (fails_followedBy e _)))

/-- Tokens whose tree has a value are a sentence. -/
theorem derives_of_eval {ts : List Token} {v : Value}
    (h : (ofTokens ts).eval s source = .ok v) : Derives .sum ts (ofTokens ts) := by
  obtain ⟨e, rest, hr⟩ : ∃ e rest, (readSum ts).1 = (e, rest) := ⟨_, _, rfl⟩
  have haccounts : Accounts s source .sum ts (readSum ts).1 := accounts_readSum ts
  rw [hr] at haccounts
  cases rest with
  | nil =>
      rw [ofTokens_end hr] at h ⊢
      obtain hfails | ⟨used, hts, hd⟩ := haccounts
      · exact absurd h (hfails v)
      · rw [List.append_nil] at hts
        exact hts ▸ hd
  | cons t rest =>
      rw [ofTokens_trailing hr] at h
      exact absurd h (fails_followedBy e _ v)

end Values

end PageLayout.Expr
