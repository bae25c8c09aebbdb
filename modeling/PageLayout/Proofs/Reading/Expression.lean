import PageLayout.Page.Snapshot
import PageLayout.Proofs.Expression.Spacing
import PageLayout.Expression.Evaluation
import PageLayout.Reading.Template

/-!
# Where an embedded expression ends

Two readers look at an embedded expression.  The first looks for the brace that closes it, and
knows of quotes and braces only.  The second reads what stands before that brace, and no token
of its own is a brace.

They agree.  The first passes over every token of the second, since a token is either a string
in quotes or has neither quotes nor braces (`passedOver_of_scan`).  So an expression with a
value is replaced by it, whatever follows, and the search goes on behind the closing brace
(`fill_expression`).
-/

namespace PageLayout.Template

/-! ## Texts that do not end an expression -/

/-- The characters that the search for the closing brace looks at. -/
def delimiters : List Char := ['"', '\'', '\x7b', '\x7d']

/-- The search for the closing brace passes over a text.  It does not end there, and it comes
out with no quote open and with as many braces open as before. -/
def PassedOver (word : List Char) : Prop :=
  ∀ depth cs, splitClosing none depth (word ++ cs) =
    (splitClosing none depth cs).map fun parts => (word ++ parts.1, parts.2)

namespace PassedOver

variable {word word' : List Char}

theorem nil : PassedOver [] := by
  intro depth cs
  rw [List.nil_append]
  cases splitClosing none depth cs <;> rfl

theorem append (h : PassedOver word) (h' : PassedOver word') : PassedOver (word ++ word') := by
  intro depth cs
  rw [List.append_assoc, h depth, h' depth, Option.map_map]
  refine congrArg (Option.map · _) (funext fun parts => ?_)
  rw [Function.comp_apply, List.append_assoc]

/-- A character that is neither a quote nor a brace. -/
theorem cons {c : Char} (hc : c ∉ delimiters) (h : PassedOver word) : PassedOver (c :: word) := by
  intro depth cs
  simp only [delimiters, List.mem_cons, List.not_mem_nil, or_false, not_or] at hc
  obtain ⟨hdouble, hsingle, hopen, hclose⟩ := hc
  rw [List.cons_append, splitClosing]
  simp only [beq_false_of_ne hdouble, beq_false_of_ne hsingle, beq_false_of_ne hopen,
    beq_false_of_ne hclose, Bool.false_and, Bool.or_false, Bool.false_eq_true, if_false]
  rw [h depth, Option.map_map]
  rfl

/-- Characters that are neither quotes nor braces. -/
theorem of_notMem (h : ∀ c ∈ word, c ∉ delimiters) : PassedOver word := by
  induction word with
  | nil => exact .nil
  | cons c word ih =>
      exact .cons (h c List.mem_cons_self) (ih fun d hd => h d (List.mem_cons_of_mem c hd))

/-- Between quotes only the second of them counts. -/
theorem splitClosing_quoted {quote : Char} (h : quote ∉ word) (depth : Nat) (cs : List Char) :
    splitClosing (some quote) depth (word ++ quote :: cs) =
      (splitClosing none depth cs).map fun parts => (word ++ quote :: parts.1, parts.2) := by
  induction word with
  | nil =>
      rw [List.nil_append, splitClosing, if_pos (beq_self_eq_true quote)]
      rfl
  | cons c word ih =>
      obtain ⟨hc, hword⟩ := not_or.1 (mt List.mem_cons.2 h)
      rw [List.cons_append, splitClosing, if_neg (by simpa using Ne.symm hc), ih hword,
        Option.map_map]
      rfl

/-- A text in quotes. -/
theorem quoted {quote : Char} (hquote : quote = '"' ∨ quote = '\'') (h : quote ∉ word) :
    PassedOver (quote :: (word ++ [quote])) := by
  intro depth cs
  have hopen : splitClosing none depth (quote :: (word ++ quote :: cs)) =
      (splitClosing (some quote) depth (word ++ quote :: cs)).map fun parts =>
        (quote :: parts.1, parts.2) := by
    obtain rfl | rfl := hquote <;> rfl
  have hword : quote :: (word ++ [quote]) ++ cs = quote :: (word ++ quote :: cs) := by simp
  rw [hword, hopen, splitClosing_quoted h, Option.map_map]
  refine congrArg (Option.map · _) (funext fun parts => ?_)
  simp

/-- The brace after a text that is passed over closes the expression. -/
theorem splitClosing_closing (h : PassedOver word) (rest : List Char) :
    splitClosing none 0 (word ++ '\x7d' :: rest) = some (word, rest) := by
  rw [h 0, show splitClosing none 0 ('\x7d' :: rest) = some ([], rest) from rfl, Option.map_some,
    List.append_nil]

end PassedOver

/-! ## Tokens -/

/-- Quotes and braces are neither blank nor part of a number or a name. -/
theorem notMem_delimiters {c : Char}
    (h : isBlank c = true ∨ Token.isNumberPart c = true ∨ Token.isNamePart c = true) :
    c ∉ delimiters := by
  have hall : (delimiters.all fun c =>
      !(isBlank c || (Token.isNumberPart c || Token.isNamePart c))) = true := by
    decide +kernel
  intro hc
  have hnone := List.all_eq_true.mp hall c hc
  rw [Bool.not_eq_true', Bool.or_eq_false_iff, Bool.or_eq_false_iff] at hnone
  obtain ⟨hblank, hnumber, hname⟩ := hnone
  rw [hblank, hnumber, hname] at h
  simp at h

/-- A token is passed over. -/
theorem passedOver_of_spelled {t : Token} {word : List Char} (h : Token.Spelled t word) :
    PassedOver word := by
  cases h with
  | number hparts _ => exact .of_notMem fun d hd => notMem_delimiters (.inr (.inl (hparts d hd)))
  | string hquote hcs => exact .quoted hquote hcs
  | name hstart hparts _ =>
      refine .cons (notMem_delimiters (.inr (.inr ?_))) (.of_notMem fun d hd => ?_)
      · exact Token.isNamePart_of_startsName hstart
      · exact notMem_delimiters (.inr (.inr (hparts d hd)))
  | @operator op => exact .cons (by cases op <;> decide) .nil
  | opening | closing | comma => exact .cons (by decide) .nil

/-- A text that consists of tokens is passed over. -/
theorem passedOver_of_scan {cs : List Char} {ts : List Token} (h : Token.scan cs = .ok ts) :
    PassedOver cs := by
  fun_induction Token.scan cs generalizing ts with
  | case1 => exact .nil
  | case2 c cs hblank ih => exact .cons (notMem_delimiters (.inl hblank)) (ih h)
  | case3 => cases h
  | case4 c cs _ t rest _ hlexeme ih =>
      obtain ⟨word, hword, hspelled⟩ := Token.spelled_of_lexeme (congrArg (·.map (·.1)) hlexeme)
      rw [hword]
      cases hrest : Token.scan rest with
      | error fault =>
          rw [hrest] at h
          cases h
      | ok ts' => exact (passedOver_of_spelled hspelled).append (ih hrest)

/-- What has a value consists of tokens. -/
theorem exists_scan_of_evaluate {π : Type} [Page π] {s : Scope π} {source : String} {v : Value}
    (h : PageLayout.evaluate s source = .ok v) : ∃ ts, Token.scan source.toList = .ok ts := by
  unfold PageLayout.evaluate at h
  split at h
  next => cases h
  next ts hts => exact ⟨ts, hts⟩

/-! ## Texts with expressions -/

section Fill

variable {evaluate : String → Except EvalError Value}

/-- No expression starts in a text without its opening, unless the next character makes one. -/
theorem fillChars_append {before cs : List Char} (h : ¬['$', '\x7b'] <:+: before)
    (hcs : ∀ c ∈ cs.head?, c ≠ '\x7b') :
    fillChars evaluate (before ++ cs) = (fillChars evaluate cs).map (before ++ ·) := by
  induction before with
  | nil =>
      rw [List.nil_append]
      cases fillChars evaluate cs <;> rfl
  | cons c before ih =>
      have hbefore : ¬['$', '\x7b'] <:+: before := mt (List.infix_cons ·) h
      have hplain : ∀ body, c = '$' → before ++ cs = '\x7b' :: body → False := by
        rintro body rfl heq
        cases before with
        | nil => exact hcs _ (by rw [← List.nil_append cs, heq]; rfl) rfl
        | cons d before =>
            cases heq
            exact h ⟨[], before, rfl⟩
      rw [List.cons_append, fillChars.eq_3 _ _ _ hplain, ih hbefore]
      cases fillChars evaluate cs <;> rfl

/-- An expression is replaced by its value. -/
theorem fillChars_expression {body e rest : List Char} {value : Value}
    (hsplit : splitClosing none 0 body = some (e, rest))
    (hvalue : evaluate (String.ofList e) = .ok value) :
    fillChars evaluate ('$' :: '\x7b' :: body) =
      (fillChars evaluate rest).map (value.display.toList ++ ·) := by
  rw [fillChars]
  split
  next hnone =>
    rw [hsplit] at hnone
    cases hnone
  next heq =>
    rw [hsplit] at heq
    cases heq
    dsimp only
    rw [hvalue]

end Fill

variable {π : Type} [Page π] {s : Scope π} {v : Value}

/-- An expression with a value is replaced by it, wherever it stands. -/
theorem fillChars_evaluated {before e : List Char} (hbefore : ¬['$', '\x7b'] <:+: before)
    (he : PageLayout.evaluate s (String.ofList e) = .ok v) (after : List Char) :
    fillChars (PageLayout.evaluate s) (before ++ '$' :: '\x7b' :: (e ++ '\x7d' :: after)) =
      (fillChars (PageLayout.evaluate s) after).map fun filled =>
        before ++ (v.display.toList ++ filled) := by
  obtain ⟨ts, hts⟩ := exists_scan_of_evaluate he
  rw [String.toList_ofList] at hts
  have hclosing := (passedOver_of_scan hts).splitClosing_closing after
  rw [fillChars_append hbefore (fun c hc => by cases hc; decide),
    fillChars_expression hclosing he]
  cases fillChars (PageLayout.evaluate s) after <;> rfl

/-- A text with an expression that has a value gives what is before the expression, the value,
and what the rest gives.  If the rest gives an error, so does the text.  Neither what is before
nor the value is searched for expressions again. -/
theorem fill_expression {e : String} (he : PageLayout.evaluate s e = .ok v) {before : String}
    (hbefore : ¬['$', '\x7b'] <:+: before.toList) (after : String) :
    fill (PageLayout.evaluate s) (before ++ "$\x7b" ++ e ++ "\x7d" ++ after) =
      (fill (PageLayout.evaluate s) after).map fun filled => before ++ v.display ++ filled := by
  have htext : (before ++ "$\x7b" ++ e ++ "\x7d" ++ after).toList =
      before.toList ++ '$' :: '\x7b' :: (e.toList ++ '\x7d' :: after.toList) := by
    simp [String.toList_append]
  rw [← String.ofList_toList (s := e)] at he
  rw [fill, fill, htext, fillChars_evaluated hbefore he]
  cases fillChars (PageLayout.evaluate s) after.toList with
  | error fault => rfl
  | ok filled =>
      refine congrArg Except.ok (String.toList_inj.1 ?_)
      simp

/-- A scope with a variable whose value looks like the start of an expression. -/
def openingSample : Scope Snapshot := ⟨.ofList [("x", .text "$\x7by")], .empty, none⟩

/-- An expression with braces in quotes, and quotes in quotes of the other kind. -/
def quotedSample : String := "'\x7d\"' + x + \"\x7b'\""

/-- The value has the opening of an expression, which is not looked at again.  Where the text
after the expression fails, so does the whole. -/
theorem fill_expression_quoted :
    PageLayout.evaluate openingSample quotedSample = .ok (.text "\x7d\"$\x7by\x7b'") ∧
      fill (PageLayout.evaluate openingSample) ("a $" ++ "$\x7b" ++ quotedSample ++ "\x7d" ++ "!") =
        .ok "a $\x7d\"$\x7by\x7b'!" ∧
      fill (PageLayout.evaluate openingSample)
          ("a $" ++ "$\x7b" ++ quotedSample ++ "\x7d" ++ "$\x7bx") =
        .error (.unclosedExpression "$\x7bx") := by
  have he : PageLayout.evaluate openingSample quotedSample =
      .ok (.text "\x7d\"$\x7by\x7b'") := by
    decide +kernel
  have hbefore : ¬['$', '\x7b'] <:+: "a $".toList := by decide
  have hend : fill (PageLayout.evaluate openingSample) "!" = .ok "!" := by decide +kernel
  have hopen : fill (PageLayout.evaluate openingSample) "$\x7bx" =
      .error (.unclosedExpression "$\x7bx") := by
    decide +kernel
  refine ⟨he, ?_, ?_⟩
  · rw [fill_expression he hbefore, hend]
    rfl
  · rw [fill_expression he hbefore, hopen]
    rfl

end PageLayout.Template
