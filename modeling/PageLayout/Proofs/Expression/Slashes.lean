import Mathlib.Data.List.Chain
import PageLayout.Proofs.Expression.Grammar
import PageLayout.Proofs.Reading.Expression
import PageLayout.Proofs.Text.Separators

/-!
# Slashes in expressions

No division follows another one in a sentence, and none stands at either end of it
(`Derives.solid`).  So two slashes in a row that occur in an expression with a value are inside
quotes, and an expression that is cut in front of them has an open quote
(`Scanned.openQuote`).  Nothing can be read of it any more (`OpenQuote.scan_ne`).

Neither a slash nor a semicolon is the last character of an expression with a value.
-/

namespace PageLayout

/-! ## Divisions in sentences -/

namespace Token

/-- The token of a division. -/
abbrev division : Token := .operator .divide

/-- Two tokens are not both a division. -/
def Apart (t u : Token) : Prop := ¬(t = division ∧ u = division)

/-- No two divisions stand side by side, and none stands at an end. -/
structure Solid (ts : List Token) : Prop where
  ne_nil : ts ≠ []
  chain : ts.IsChain Apart
  head : ts.head? ≠ some division
  last : ts.getLast? ≠ some division

namespace Solid

variable {t : Token} {ts us : List Token}

theorem single (ht : t ≠ division) : Solid [t] where
  ne_nil := List.cons_ne_nil t []
  chain := List.isChain_singleton t
  head := fun h => ht (Option.some.inj h)
  last := fun h => ht (Option.some.inj h)

theorem append (h : Solid ts) (h' : Solid us) : Solid (ts ++ us) where
  ne_nil := List.append_ne_nil_of_left_ne_nil h.ne_nil us
  chain := by
    refine List.isChain_append.2 ⟨h.chain, h'.chain, fun x hx y _ => ?_⟩
    rintro ⟨rfl, -⟩
    exact h.last hx
  head := by
    rw [List.head?_append_of_ne_nil _ h.ne_nil]
    exact h.head
  last := by
    rw [List.getLast?_append_of_ne_nil _ h'.ne_nil]
    exact h'.last

theorem cons (ht : t ≠ division) (h : Solid ts) : Solid (t :: ts) := (single ht).append h

theorem concat (h : Solid ts) (ht : t ≠ division) : Solid (ts ++ [t]) := h.append (single ht)

/-- Any token may stand between two texts without a division at their ends. -/
theorem join (h : Solid ts) (h' : Solid us) (t : Token) : Solid (ts ++ t :: us) where
  ne_nil := List.append_ne_nil_of_left_ne_nil h.ne_nil _
  chain := by
    refine List.isChain_append.2 ⟨h.chain, h'.chain.cons fun u hu => ?_, fun x hx y _ => ?_⟩
    · rintro ⟨-, rfl⟩
      exact h'.head hu
    · rintro ⟨rfl, -⟩
      exact h.last hx
  head := by
    rw [List.head?_append_of_ne_nil _ h.ne_nil]
    exact h.head
  last := by
    obtain ⟨u, us, rfl⟩ := List.exists_cons_of_ne_nil h'.ne_nil
    rw [List.getLast?_append_of_ne_nil _ (List.cons_ne_nil t _), List.getLast?_cons_cons]
    exact h'.last

end Solid

end Token

/-- No two divisions stand side by side in a sentence, and none stands at its end. -/
theorem Expr.Derives.solid {level : Expr.Level} {ts : List Token} {e : Expr}
    (h : Expr.Derives level ts e) : Token.Solid ts := by
  -- The induction is on the sentence.  Arguments are solid for the same reasons.
  refine @Expr.Derives.rec (fun _ ts _ _ => Token.Solid ts) (fun ts _ _ => Token.Solid ts)
    ?number ?string ?isTrue ?isFalse ?name ?callEmpty ?call ?parenthesis ?atom ?negate
    ?operand ?multiply ?product ?add ?last ?more level ts e h
  case number | string | isTrue | isFalse => intros; exact .single nofun
  case name =>
    intros
    exact .single nofun
  case callEmpty =>
    intro f
    exact .cons nofun (.cons nofun (.single nofun))
  case call =>
    intro f ts es _ ih
    exact .cons nofun (.cons nofun (ih.concat nofun))
  case parenthesis =>
    intro ts e _ ih
    exact .cons nofun (ih.concat nofun)
  case negate =>
    intro ts e _ ih
    exact ih.cons nofun
  case atom | operand | product | last =>
    intros
    assumption
  case multiply | add =>
    intro ts us left right op _ _ _ ihl ihr
    exact ihl.join ihr _
  case more =>
    intro ts us e es _ _ ih ihs
    exact ih.join ihs _

/-! ## What is read of a part of an expression -/

namespace Token

variable {t : Token} {ts : List Token} {c b : Char} {cs word before after : List Char}

/-- A quote in a text is not closed. -/
def OpenQuote (cs : List Char) : Prop :=
  ∃ quote before inner, cs = before ++ quote :: inner ∧ Template.PassedOver before ∧
    (quote = '"' ∨ quote = '\'') ∧ quote ∉ inner

/-- No closing brace is found behind a quote that is not closed. -/
theorem splitClosing_of_notMem {quote : Char} (h : quote ∉ cs) (depth : Nat) :
    Template.splitClosing (some quote) depth cs = none := by
  induction cs with
  | nil => rfl
  | cons c cs ih =>
      obtain ⟨hc, hcs⟩ := not_or.1 (mt List.mem_cons.2 h)
      rw [Template.splitClosing, if_neg (by simpa using Ne.symm hc), ih hcs]
      rfl

namespace OpenQuote

/-- A text that is passed over may stand in front. -/
theorem append (h : Template.PassedOver word) (hcs : OpenQuote cs) : OpenQuote (word ++ cs) := by
  obtain ⟨quote, before, inner, rfl, hbefore, hquote, hinner⟩ := hcs
  exact ⟨quote, word ++ before, inner, by rw [List.append_assoc], h.append hbefore, hquote, hinner⟩

/-- Where a text in front is neither cut nor matters, the quote is in the rest. -/
theorem of_append {rest : List Char} (h : Template.PassedOver word)
    (hnone : Text.splitOnce ['/', '/'] word = none)
    (hjoin : word.getLast? = some '/' → rest.head? ≠ some '/')
    (hrest : ∀ {before}, Text.splitOnce ['/', '/'] rest = some (before, after) → OpenQuote before)
    (hcut : Text.splitOnce ['/', '/'] (word ++ rest) = some (before, after)) : OpenQuote before := by
  rw [Text.splitOnce_append_of_none hnone hjoin] at hcut
  obtain ⟨parts, hparts, heq⟩ := Option.map_eq_some_iff.1 hcut
  cases heq
  exact (hrest hparts).append h

/-- The quote stays if characters are dropped at the end that are no quotes. -/
theorem dropEndWhile {p : Char → Bool} (hp : p '"' = false ∧ p '\'' = false) (h : OpenQuote cs) :
    OpenQuote (Text.dropEndWhile p cs) := by
  obtain ⟨quote, before, inner, rfl, hbefore, hquote, hinner⟩ := h
  have hstays : p quote = false := by
    obtain rfl | rfl := hquote
    · exact hp.1
    · exact hp.2
  refine ⟨quote, before, Text.dropEndWhile p inner, ?_, hbefore, hquote, fun hmem => ?_⟩
  · exact Text.dropEndWhile_append hstays before inner
  · exact hinner ((Text.dropEndWhile_isPrefix p inner).subset hmem)

/-- A text with an open quote does not consist of tokens. -/
theorem scan_ne (h : OpenQuote cs) (ts : List Token) : scan cs ≠ .ok ts := by
  obtain ⟨quote, before, inner, rfl, hbefore, hquote, hinner⟩ := h
  intro hscan
  -- A brace after the tokens would close an expression, but it would stand in the quote.
  have hclosing := (Template.passedOver_of_scan hscan).splitClosing_closing []
  have hopen : Template.splitClosing none 0 (quote :: (inner ++ ['\x7d'])) =
      (Template.splitClosing (some quote) 0 (inner ++ ['\x7d'])).map fun parts =>
        (quote :: parts.1, parts.2) := by
    obtain rfl | rfl := hquote <;> rfl
  have hnone : quote ∉ inner ++ ['\x7d'] := fun hmem =>
    (List.mem_append.1 hmem).elim hinner fun hbrace => by
      rw [List.mem_singleton.1 hbrace] at hquote
      revert hquote
      decide
  rw [List.append_assoc, hbefore, List.cons_append, hopen, splitClosing_of_notMem hnone] at hclosing
  cases hclosing

end OpenQuote

/-! ## Slashes between and inside tokens -/

/-- A slash and a semicolon are part of no number and of no name. -/
theorem notMem_of_part {d : Char} (hd : d = '/' ∨ d = ';')
    (h : (∀ e ∈ cs, isNumberPart e = true) ∨ ∀ e ∈ cs, isNamePart e = true) : d ∉ cs := by
  have hparts : isNumberPart d = false ∧ isNamePart d = false := by
    obtain rfl | rfl := hd <;> decide +kernel
  intro hmem
  obtain h | h := h
  · rw [h d hmem] at hparts
    cases hparts.1
  · rw [h d hmem] at hparts
    cases hparts.2

namespace Spelled

/-- A token that is cut in front of two slashes has an open quote. -/
theorem openQuote (h : Spelled t word) (hcut : Text.splitOnce ['/', '/'] word = some (before, after)) :
    OpenQuote before := by
  cases h with
  | number hparts _ =>
      rw [Text.splitOnce_eq_none (notMem_of_part (.inl rfl) (.inl hparts))] at hcut
      cases hcut
  | @string quote cs hquote hcs =>
      have hword := Text.eq_append_of_splitOnce_eq_some hcut
      cases before with
      | nil =>
          rw [(List.cons.inj hword).1] at hquote
          exact absurd hquote (by decide)
      | cons d inner =>
          obtain ⟨rfl, htail⟩ := List.cons.inj hword
          refine ⟨quote, [], inner, rfl, .nil, hquote, fun hmem => hcs ?_⟩
          -- The slashes stand in front of the second quote.
          obtain ⟨more, -, hshort⟩ | ⟨more, rfl, -⟩ := List.append_eq_append_iff.1 htail
          · have hlength := congrArg List.length hshort
            simp only [List.length_append, List.length_cons, List.length_nil] at hlength
            omega
          · exact List.mem_append_left more hmem
  | name hc hparts _ =>
      have hname := isNamePart_of_name hc hparts
      rw [Text.splitOnce_eq_none (notMem_of_part (.inl rfl) (.inr hname))] at hcut
      cases hcut
  | @operator op => cases op <;> cases hcut
  | opening | closing | comma => cases hcut

/-- Of all tokens only a division starts with a slash. -/
theorem first (h : Spelled t word) (hfirst : word.head? = some '/') : t = division := by
  have hmem := List.mem_of_mem_head? hfirst
  cases h with
  | number hparts _ => exact absurd hmem (notMem_of_part (.inl rfl) (.inl hparts))
  | @string quote cs hquote _ =>
      cases hfirst
      exact absurd hquote (by decide)
  | name hc hparts _ =>
      exact absurd hmem (notMem_of_part (.inl rfl) (.inr (isNamePart_of_name hc hparts)))
  | @operator op =>
      revert hfirst
      cases op <;> decide
  | opening | closing | comma => cases hfirst

/-- Of all tokens only a division ends in a slash, and none ends in a semicolon. -/
theorem last (h : Spelled t word) (hlast : word.getLast? = some c) :
    c ≠ ';' ∧ (c = '/' → t = division) := by
  have hmem := List.mem_of_getLast? hlast
  cases h with
  | number hparts _ =>
      have hnot : ∀ d, d = '/' ∨ d = ';' → c ≠ d := fun d hd heq =>
        notMem_of_part hd (.inl hparts) (heq ▸ hmem)
      exact ⟨hnot ';' (.inr rfl), fun heq => absurd heq (hnot '/' (.inl rfl))⟩
  | @string quote cs hquote _ =>
      rw [← List.cons_append, List.getLast?_concat] at hlast
      cases hlast
      obtain rfl | rfl := hquote <;> exact ⟨by decide, fun heq => absurd heq (by decide)⟩
  | name hc hparts _ =>
      have hname := isNamePart_of_name hc hparts
      have hnot : ∀ d, d = '/' ∨ d = ';' → c ≠ d := fun d hd heq =>
        notMem_of_part hd (.inr hname) (heq ▸ hmem)
      exact ⟨hnot ';' (.inr rfl), fun heq => absurd heq (hnot '/' (.inl rfl))⟩
  | @operator op =>
      cases hlast
      cases op <;> exact ⟨by decide, by decide⟩
  | opening | closing | comma =>
      cases hlast
      exact ⟨by decide, by decide⟩

end Spelled

/-- A text consists of spelled tokens, with blanks between some of them. -/
inductive Scanned : List Char → List Token → Prop
  | nil : Scanned [] []
  | blank {b : Char} {cs : List Char} {ts : List Token} :
      isBlank b = true → Scanned cs ts → Scanned (b :: cs) ts
  | token {t : Token} {ts : List Token} {word rest : List Char} :
      Spelled t word → Scanned rest ts → Scanned (word ++ rest) (t :: ts)

/-- What is scanned consists of the tokens. -/
theorem scanned_of_scan (h : scan cs = .ok ts) : Scanned cs ts := by
  fun_induction scan cs generalizing ts with
  | case1 =>
      cases h
      exact .nil
  | case2 c cs hblank ih => exact .blank hblank (ih h)
  | case3 => cases h
  | case4 c cs _ t rest _ hlexeme ih =>
      obtain ⟨us, hus, rfl⟩ := map_eq_ok_iff.1 h
      obtain ⟨word, hword, hspelled⟩ := spelled_of_lexeme (congrArg (·.map (·.1)) hlexeme)
      rw [hword]
      exact .token hspelled (ih hus)

namespace Scanned

theorem eq_nil (h : Scanned [] ts) : ts = [] := by
  generalize htext : [] = text at h
  cases h with
  | nil => rfl
  | blank => cases htext
  | token hword =>
      obtain ⟨c, word, rfl, -⟩ := hword.head
      cases htext

/-- A slash in front is a division. -/
theorem head (h : Scanned ('/' :: cs) ts) : ts.head? = some division := by
  generalize htext : '/' :: cs = text at h
  cases h with
  | nil => cases htext
  | blank hb =>
      cases htext
      cases hb
  | @token t ts word rest hword =>
      obtain ⟨c, word, rfl, -⟩ := hword.head
      cases htext
      rw [hword.first rfl]
      rfl

/-- The last character of a text is blank or that of its last token. -/
theorem last (h : Scanned cs ts) (hlast : cs.getLast? = some c) (hc : isBlank c = false) :
    c ≠ ';' ∧ (c = '/' → ts.getLast? = some division) := by
  induction h with
  | nil => cases hlast
  | @blank b cs ts hb _ ih =>
      cases cs with
      | nil =>
          obtain rfl : b = c := Option.some.inj hlast
          rw [hb] at hc
          cases hc
      | cons d cs => exact ih (by rwa [List.getLast?_cons_cons] at hlast)
  | @token t ts word rest hword hrest ih =>
      rw [List.getLast?_append] at hlast
      cases hend : rest.getLast? with
      | none =>
          rw [hend, Option.none_or] at hlast
          obtain rfl := List.getLast?_eq_none_iff.1 hend
          obtain rfl := hrest.eq_nil
          obtain ⟨hsemicolon, hdivision⟩ := hword.last hlast
          exact ⟨hsemicolon, fun hslash => congrArg some (hdivision hslash)⟩
      | some d =>
          rw [hend, Option.some_or] at hlast
          cases hlast
          obtain ⟨hsemicolon, hdivision⟩ := ih hend
          refine ⟨hsemicolon, fun hslash => ?_⟩
          rw [List.getLast?_cons, hdivision hslash]
          rfl

/-- Two slashes are inside quotes, if no two divisions stand side by side. -/
theorem openQuote (h : Scanned cs ts) (hchain : ts.IsChain Apart)
    (hcut : Text.splitOnce ['/', '/'] cs = some (before, after)) : OpenQuote before := by
  induction h generalizing before with
  | nil => cases hcut
  | @blank b cs ts hb _ ih =>
      have hslash : '/' ∉ [b] := fun hmem => by
        rw [← List.mem_singleton.1 hmem] at hb
        cases hb
      have hpassed : Template.PassedOver [b] := .cons (Template.notMem_delimiters (.inl hb)) .nil
      exact .of_append hpassed (Text.splitOnce_eq_none hslash)
        (fun hlast => absurd (List.mem_of_getLast? hlast) hslash) (ih hchain) hcut
  | @token t ts word rest hword hrest ih =>
      obtain ⟨hhead, htail⟩ := List.isChain_cons.1 hchain
      cases hfirst : Text.splitOnce ['/', '/'] word with
      | some parts =>
          rw [Text.splitOnce_append_of_some hfirst rest] at hcut
          cases hcut
          exact hword.openQuote hfirst
      | none =>
          refine .of_append (Template.passedOver_of_spelled hword) hfirst (fun hlast hnext => ?_)
            (ih htail) hcut
          -- A slash at the end of the token and one after it are two divisions.
          obtain ⟨d, rest, rfl⟩ := List.exists_cons_of_ne_nil (l := rest) (by rintro rfl; cases hnext)
          cases hnext
          exact hhead _ hrest.head ⟨(hword.last hlast).2 rfl, rfl⟩

end Scanned

end Token

end PageLayout
