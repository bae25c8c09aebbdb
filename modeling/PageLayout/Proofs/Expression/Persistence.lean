import PageLayout.Expression.Evaluator
import PageLayout.Reading.Template

/-!
# Values persist when a page is given

A page answers questions that have no answer without one, and changes no other answer.  So an
expression that has a value without a page has the same value with any, and a script the same
definitions.

`Persists` says this of two steps: whatever the first gives, the second gives too.  Nothing is
said of errors, and a step that fails without a page may do anything with one.
-/

namespace PageLayout

/-! ## Results that persist -/

/-- Whatever the first step gives, the second one gives too. -/
def Persists {ε α : Type} (x y : Except ε α) : Prop := ∀ a, x = .ok a → y = .ok a

namespace Persists

variable {ε ε' α β : Type} {x y : Except ε α}

theorem refl (x : Except ε α) : Persists x x := fun _ => id

theorem of_error (e : ε) (y : Except ε α) : Persists (.error e) y := nofun

theorem bind {f g : α → Except ε β} (h : Persists x y)
    (hfg : ∀ a, x = .ok a → Persists (f a) (g a)) : Persists (x >>= f) (y >>= g) := by
  cases x with
  | error e => exact of_error e _
  | ok a =>
      rw [h a rfl]
      exact hfg a rfl

theorem map (f : α → β) (h : Persists x y) : Persists (x.map f) (y.map f) := by
  cases x with
  | error e => exact of_error e _
  | ok a =>
      rw [h a rfl]
      exact refl _

theorem mapError (f : ε → ε') (h : Persists x y) : Persists (x.mapError f) (y.mapError f) := by
  cases x with
  | error e => exact of_error (f e) _
  | ok a =>
      rw [h a rfl]
      exact refl _

theorem mapM {f g : α → Except ε β} (as : List α) (hfg : ∀ a ∈ as, Persists (f a) (g a)) :
    Persists (as.mapM f) (as.mapM g) := by
  induction as with
  | nil => exact refl _
  | cons a as ih =>
      rw [List.mapM_cons, List.mapM_cons]
      refine (hfg a List.mem_cons_self).bind fun b _ => ?_
      exact (ih fun a ha => hfg a (List.mem_cons_of_mem _ ha)).bind fun bs _ => refl _

end Persists

/-! ## Expressions -/

/-- The same scope on a page. -/
def Scope.on {π : Type} (s : Scope π) (page : π) : Scope π := { s with page := some page }

section Expressions

variable {π : Type} [Page π] {s : Scope π} {page : π}

/-- Only a measure of an area looks at the page, and without one it fails. -/
theorem persists_callFunction (hs : s.page = none) (function : String) (arguments : List Value) :
    Persists (callFunction s function arguments) (callFunction (s.on page) function arguments) := by
  unfold callFunction
  split
  next => exact .refl _
  next =>
    split
    next => exact .refl _
    next =>
      refine (Persists.refl _).bind fun name _ => Persists.bind ?_ fun area _ => .refl _
      unfold Scope.areaOf
      rw [hs]
      exact .of_error _ _

section Trees

variable {t : Scope π}

-- A value depends on the variables of the scope and on what its functions give.  The texts that
-- the expression was read from are named in errors only, so they need not be the same.
mutual

theorem persists_eval (hvalues : s.values = t.values)
    (hcall : ∀ f vs, Persists (callFunction s f vs) (callFunction t f vs)) (source source' : String) :
    ∀ e : Expr, Persists (e.eval s source) (e.eval t source')
  | .number _ | .string _ | .bool _ => .refl _
  | .fault _ => .of_error _ _
  | .variable _ => by
      unfold Expr.eval
      rw [hvalues]
      exact .refl _
  | .call function arguments => by
      unfold Expr.eval
      exact (persists_evalAll hvalues hcall source source' arguments).bind fun values _ =>
        hcall function values
  | .negate operand => by
      unfold Expr.eval
      exact (persists_eval hvalues hcall source source' operand).bind fun _ _ => .refl _
  | .binary op left right => by
      unfold Expr.eval
      refine (persists_eval hvalues hcall source source' left).bind fun a _ => ?_
      exact (persists_eval hvalues hcall source source' right).bind fun b _ => .refl _
  | .followedBy before _ => by
      unfold Expr.eval
      exact (persists_eval hvalues hcall source source' before).bind fun _ _ => .of_error _ _

theorem persists_evalAll (hvalues : s.values = t.values)
    (hcall : ∀ f vs, Persists (callFunction s f vs) (callFunction t f vs)) (source source' : String) :
    ∀ es : List Expr, Persists (evalAll s source es) (evalAll t source' es)
  | [] => .refl _
  | e :: es => by
      unfold evalAll
      refine (persists_eval hvalues hcall source source' e).bind fun value _ => ?_
      exact (persists_evalAll hvalues hcall source source' es).bind fun values _ => .refl _

end

end Trees

/-- Texts of the same tokens have the same value. -/
theorem persists_of_scan_eq {source source' : String}
    (h : Token.scan source.toList = Token.scan source'.toList) :
    Persists (evaluate s source) (evaluate s source') := by
  unfold evaluate
  rw [h]
  split
  next => exact .of_error _ _
  next => exact persists_eval rfl (fun _ _ => .refl _) source source' _

theorem persists_evaluate (hs : s.page = none) (source : String) :
    Persists (evaluate s source) (evaluate (s.on page) source) := by
  have hvalues : s.values = (s.on page).values := rfl
  unfold evaluate
  split
  next => exact .refl _
  next => exact persists_eval hvalues (persists_callFunction hs) source source _

end Expressions

/-! ## Scripts and lines -/

/-- The answers of an evaluator persist when a page is given. -/
structure Evaluator.Persistent {π : Type} (e : Evaluator π) (page : π) : Prop where
  evaluate : ∀ (s : Scope π) (source : String), s.page = none →
    Persists (e.evaluate s source) (e.evaluate (s.on page) source)
  definitions : ∀ (path source : String) (s : Scope π), s.page = none →
    Persists (e.definitions path source s) (e.definitions path source (s.on page))

theorem Script.persists_defineAll {π : Type} [Page π] {page : π} (path : String)
    (lines : List (List Char)) (s : Scope π) (hs : s.page = none) :
    Persists (defineAll path s lines) (defineAll path (s.on page) lines) := by
  induction lines generalizing s with
  | nil => exact .refl _
  | cons line lines ih =>
      unfold defineAll
      split
      next => exact ih s hs
      next =>
        refine (Persists.refl _).bind fun (name, expression) _ => ?_
        refine (persists_evaluate hs expression).bind fun value _ => ?_
        exact (ih { s with values := s.values.insert name value } hs).bind fun others _ => .refl _

theorem Evaluator.persistent_standard {π : Type} [Page π] (page : π) :
    Evaluator.standard.Persistent page where
  evaluate := fun _ source hs => persists_evaluate hs source
  definitions := fun path source s hs => Script.persists_defineAll path (Text.lines source.toList) s hs

/-- A text keeps what its expressions are replaced by if they keep their values. -/
theorem Template.persists_fill {evaluate evaluate' : String → Except EvalError Value}
    (h : ∀ source, Persists (evaluate source) (evaluate' source)) (text : String) :
    Persists (fill evaluate text) (fill evaluate' text) := by
  have hchars : ∀ cs, Persists (fillChars evaluate cs) (fillChars evaluate' cs) := by
    intro cs
    fun_induction fillChars evaluate cs with
    | case1 =>
        rw [fillChars]
        exact .refl _
    | case2 | case3 => exact .of_error _ _
    | case4 body e rest hclosing _ expression value hvalue ih =>
        rw [fillChars.eq_2]
        split
        next hnone =>
          rw [hclosing] at hnone
          cases hnone
        next e' rest' hclosing' =>
          rw [hclosing] at hclosing'
          cases hclosing'
          dsimp only
          rw [h _ _ hvalue]
          exact ih.map _
    | case5 c cs hplain ih =>
        rw [fillChars.eq_3 _ _ _ hplain]
        exact ih.map _
  exact (hchars text.toList).map String.ofList

end PageLayout
