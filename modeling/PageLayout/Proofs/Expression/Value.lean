import PageLayout.Proofs.Expression.Grammar
import PageLayout.Proofs.Expression.Spacing
import PageLayout.Page.Snapshot

/-!
# The values of texts

`evaluate` takes the value of a text.  `evaluate_eq_eval` says that a text with blanks
between its tokens has the value of its tree, or the error that the tree has.
`sentence_of_evaluate` says that only sentences have values.

`Expr.Writable` says what a tree has to satisfy to be written at all: its form is right,
and its leaves can be spelled.  Every such tree is the tree of a text.
-/

namespace PageLayout

namespace Expr

/-! ## Trees that can be written -/

/-- Some characters spell a token. -/
def Spellable (t : Token) : Prop := ∃ word, Token.Spelled t word

mutual

/-- A tree can be written. -/
def Writable : Expr → Prop
  | .number x => Spellable (.number x)
  | .string t => Spellable (.string t)
  | .bool _ => True
  | .variable x => Spellable (.name x) ∧ x ≠ "true" ∧ x ≠ "false"
  | .call f es => Spellable (.name f) ∧ WritableAll es
  | .negate e => e.Writable
  | .binary _ left right => left.Writable ∧ right.Writable
  | .fault _ | .followedBy _ _ => False

/-- All of some trees can be written. -/
def WritableAll : List Expr → Prop
  | [] => True
  | e :: es => e.Writable ∧ WritableAll es

end

theorem spellable_true : Spellable (.name "true") := by
  have h : Token.Spelled (.name (String.ofList ('t' :: ['r', 'u', 'e']))) _ :=
    .name (by decide) (List.all_eq_true.mp rfl) (by decide)
  exact ⟨_, h⟩

theorem spellable_false : Spellable (.name "false") := by
  have h : Token.Spelled (.name (String.ofList ('f' :: ['a', 'l', 's', 'e']))) _ :=
    .name (by decide) (List.all_eq_true.mp rfl) (by decide)
  exact ⟨_, h⟩

/-- Tokens that can be spelled can be written with blanks between them. -/
theorem exists_spaced {ts : List Token} (h : ∀ t ∈ ts, Spellable t) :
    ∃ cs, Token.Spaced ts cs := by
  induction ts with
  | nil => exact ⟨[], .nil nofun⟩
  | cons t ts ih =>
      obtain ⟨word, hword⟩ := h t List.mem_cons_self
      obtain ⟨cs, hcs⟩ := ih fun u hu => h u (List.mem_cons_of_mem t hu)
      exact ⟨word ++ ' ' :: cs, hcs.next hword (by decide)⟩

/-- Some tokens that can all be spelled are an expression of a level. -/
def Sentence (level : Level) (e : Expr) : Prop :=
  ∃ ts, (∀ t ∈ ts, Spellable t) ∧ Derives level ts e

/-- Some tokens that can all be spelled are expressions with commas between them. -/
def SentenceAll (es : List Expr) : Prop :=
  ∃ ts, (∀ t ∈ ts, Spellable t) ∧ DerivesAll ts es

namespace Sentence

variable {e : Expr} {level : Level}

/-- A token alone is a sentence. -/
theorem single {t : Token} (ht : Spellable t) (h : Derives level [t] e) : Sentence level e :=
  ⟨[t], by simpa using ht, h⟩

/-- An atom stands at every place. -/
theorem sum (h : Sentence .atom e) : Sentence .sum e := by
  obtain ⟨ts, hts, hd⟩ := h
  exact ⟨ts, hts, .product (.operand (.atom hd))⟩

theorem parenthesis (h : Sentence .sum e) : Sentence .atom e := by
  obtain ⟨ts, hts, hd⟩ := h
  refine ⟨.opening :: (ts ++ [.closing]), ?_, .parenthesis hd⟩
  simpa [or_imp, forall_and] using ⟨⟨_, .opening⟩, hts, ⟨_, .closing⟩⟩

theorem negate (h : Sentence .atom e) : Sentence .sum (.negate e) := by
  obtain ⟨ts, hts, hd⟩ := h
  refine ⟨.operator .minus :: ts, ?_, .product (.operand (.negate (.atom hd)))⟩
  simpa using ⟨⟨_, .operator⟩, hts⟩

theorem binary {left right : Expr} (op : Operator) (hl : Sentence .atom left)
    (hr : Sentence .atom right) : Sentence .sum (.binary op left right) := by
  obtain ⟨ts, hts, hd⟩ := hl
  obtain ⟨us, hus, hd'⟩ := hr
  refine ⟨ts ++ .operator op :: us, ?_, ?_⟩
  · simpa [or_imp, forall_and] using ⟨hts, ⟨_, .operator⟩, hus⟩
  · cases hop : isAdditive op with
    | true => exact .add hop (.product (.operand (.atom hd))) (.operand (.atom hd'))
    | false =>
        have hop' : isMultiplicative op = true := by rw [isMultiplicative, hop, Bool.not_false]
        exact .product (.multiply hop' (.operand (.atom hd)) (.atom hd'))

theorem call {f : String} {es : List Expr} (hf : Spellable (.name f))
    (h : es = [] ∨ SentenceAll es) : Sentence .atom (.call f es) := by
  obtain rfl | ⟨ts, hts, hd⟩ := h
  · refine ⟨[.name f, .opening, .closing], ?_, .callEmpty⟩
    simpa using ⟨hf, ⟨_, .opening⟩, ⟨_, .closing⟩⟩
  · refine ⟨.name f :: .opening :: (ts ++ [.closing]), ?_, .call hd⟩
    simpa [or_imp, forall_and] using ⟨hf, ⟨_, .opening⟩, hts, ⟨_, .closing⟩⟩

end Sentence

theorem SentenceAll.cons {e : Expr} {es : List Expr} (h : Sentence .sum e)
    (hs : es = [] ∨ SentenceAll es) : SentenceAll (e :: es) := by
  obtain ⟨ts, hts, hd⟩ := h
  obtain rfl | ⟨us, hus, hds⟩ := hs
  · exact ⟨ts, hts, .last hd⟩
  · refine ⟨ts ++ .comma :: us, ?_, .more hd hds⟩
    simpa [or_imp, forall_and] using ⟨hts, ⟨_, .comma⟩, hus⟩

-- Every part but an atom is put into parentheses.  These are more than are needed, but then no
-- precedence has to be minded.
mutual

/-- A tree that can be written has a sentence. -/
theorem Writable.sentence : (e : Expr) → e.Writable → Sentence .atom e
  | .number _, h => .single h .number
  | .string _, h => .single h .string
  | .bool true, _ => .single spellable_true .isTrue
  | .bool false, _ => .single spellable_false .isFalse
  | .variable _, h => .single h.1 (.name h.2.1 h.2.2)
  | .call _ es, h => .call h.1 (WritableAll.sentence es h.2)
  | .negate e, h => (Writable.sentence e h).negate.parenthesis
  | .binary op left right, h =>
      (Sentence.binary op (Writable.sentence left h.1) (Writable.sentence right h.2)).parenthesis

theorem WritableAll.sentence : (es : List Expr) → WritableAll es → es = [] ∨ SentenceAll es
  | [], _ => .inl rfl
  | e :: es, h => .inr (.cons (Writable.sentence e h.1).sum (WritableAll.sentence es h.2))

end

end Expr

/-! ## The value of a text -/

section Values

variable {π : Type} [Page π] (s : Scope π) {text : String}

/-- A sentence with blanks between its tokens has the value of its tree, or its error. -/
theorem evaluate_eq_eval {ts : List Token} {e : Expr} (hts : Token.Spaced ts text.toList)
    (he : Expr.Derives .sum ts e) : evaluate s text = e.eval s text := by
  rw [evaluate, Token.scan_of_spaced hts]
  exact congrArg (Expr.eval s text) (Expr.ofTokens_of_derives he)

variable {s}

/-- A text with a value is a sentence, and the value is the one of its tree. -/
theorem sentence_of_evaluate {v : Value} (h : evaluate s text = .ok v) :
    ∃ ts e, Token.scan text.toList = .ok ts ∧ Expr.Derives .sum ts e ∧ e.eval s text = .ok v := by
  rw [evaluate] at h
  cases hscan : Token.scan text.toList with
  | error fault => rw [hscan] at h; cases h
  | ok ts =>
      rw [hscan] at h
      exact ⟨ts, Expr.ofTokens ts, rfl, Expr.derives_of_eval h, h⟩

/-- Every tree that can be written is the tree of a text with blanks between its tokens. -/
theorem exists_text {e : Expr} (h : e.Writable) :
    ∃ (text : String) (ts : List Token),
      Token.Spaced ts text.toList ∧ Expr.Derives .sum ts e := by
  obtain ⟨ts, hts, hd⟩ := (Expr.Writable.sentence e h).sum
  obtain ⟨cs, hcs⟩ := Expr.exists_spaced hts
  exact ⟨String.ofList cs, ts, by rwa [String.toList_ofList], hd⟩

end Values

/-- Expressions mean what their grammar says.  A text that has a tree has the value, or the
error, of that tree.  A text that has a value is a sentence.  And every tree that can be
written has a text. -/
theorem evaluate_grammar {π : Type} [Page π] (s : Scope π) :
    (∀ (text : String) (ts : List Token) (e : Expr), Token.Spaced ts text.toList →
      Expr.Derives .sum ts e → evaluate s text = e.eval s text) ∧
    (∀ (text : String) (v : Value), evaluate s text = .ok v →
      ∃ ts e, Token.scan text.toList = .ok ts ∧ Expr.Derives .sum ts e ∧
        e.eval s text = .ok v) ∧
    ∀ e : Expr, e.Writable → ∃ (text : String) (ts : List Token),
      Token.Spaced ts text.toList ∧ Expr.Derives .sum ts e := by
  refine ⟨?value, ?sentence, ?text⟩
  case value => exact fun _ _ _ hts he => evaluate_eq_eval s hts he
  case sentence => exact fun _ _ h => sentence_of_evaluate h
  case text => exact fun _ h => exists_text h

/-- Parentheses bind first, then products. -/
theorem evaluate_grammar_product :
    let s : Scope Snapshot := ⟨.empty, .empty, none⟩
    let ts : List Token := [.number 2, .operator .times, .opening, .number 3, .operator .plus,
      .number 4, .closing, .operator .minus, .number 1]
    let e : Expr := .binary .minus
      (.binary .times (.number 2) (.binary .plus (.number 3) (.number 4))) (.number 1)
    Token.Spaced ts "2 * ( 3 + 4 ) - 1 ".toList ∧ Expr.Derives .sum ts e ∧
      evaluate s "2 * ( 3 + 4 ) - 1 " = .ok (.number 13) := by
  intro s ts e
  have h1 : Token.Spelled (.number 1) ['1'] := .number (List.all_eq_true.mp rfl) (by decide +kernel)
  have h2 : Token.Spelled (.number 2) ['2'] := .number (List.all_eq_true.mp rfl) (by decide +kernel)
  have h3 : Token.Spelled (.number 3) ['3'] := .number (List.all_eq_true.mp rfl) (by decide +kernel)
  have h4 : Token.Spelled (.number 4) ['4'] := .number (List.all_eq_true.mp rfl) (by decide +kernel)
  have hplus : Token.Spelled (.operator .plus) ['+'] := .operator
  have hminus : Token.Spelled (.operator .minus) ['-'] := .operator
  have htimes : Token.Spelled (.operator .times) ['*'] := .operator
  have hblank : isBlank ' ' = true := rfl
  have hend : Token.Spaced [] [] := .nil nofun
  have hafter := ((hend.next h1 hblank).next hminus hblank).next .closing hblank
  have hinside := (((hafter.next h4 hblank).next hplus hblank).next h3 hblank).next .opening hblank
  have hts : Token.Spaced ts "2 * ( 3 + 4 ) - 1 ".toList :=
    (hinside.next htimes hblank).next h2 hblank
  have hsum : Expr.Derives .sum [.number 3, .operator .plus, .number 4] _ :=
    .add rfl (.product (.operand (.atom .number))) (.operand (.atom .number))
  have hproduct : Expr.Derives .product (.number 2 :: .operator .times :: .opening ::
      ([.number 3, .operator .plus, .number 4] ++ [.closing])) _ :=
    .multiply rfl (.operand (.atom .number)) (.atom (.parenthesis hsum))
  have he : Expr.Derives .sum ts e := .add rfl (.product hproduct) (.operand (.atom .number))
  refine ⟨hts, he, ?_⟩
  rw [(evaluate_grammar s).1 _ ts e hts he]
  decide +kernel

end PageLayout
