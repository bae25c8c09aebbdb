import PageLayout.Proofs.Pattern.Local

/-!
# Escapes with something after them

Every escape but one is read alike alone and with `)$` after it.  The exception is the
edge of a word with an opening brace and nothing after that: alone the brace could still
start the name of an edge, and with `)$` it is the start of a repetition.
-/

namespace PageLayout.Pattern

variable {b : Bool} {cs rest : List Char}

/-! ## Braces and digits -/

theorem readBraced_eq (b : Bool) (cs : List Char) :
    readBraced b cs =
      match skip b cs with
      | [] => none
      | c :: rest =>
          if c == '\x7d' then some ([], rest)
          else (readBraced b rest).map fun p => (c :: p.1, p.2) := by
  rw [readBraced]
  split <;> simp [*]

theorem readBraced_suffix {inner : List Char} (h : readBraced b cs = some (inner, rest)) :
    rest <:+ cs := by
  induction cs using readBraced.induct b generalizing inner with
  | case1 cs hs => simp [readBraced_eq, hs] at h
  | case2 cs c after hs hc =>
      rw [readBraced_eq, hs] at h
      simp only [hc, if_true, Option.some.injEq, Prod.mk.injEq] at h
      exact h.2 ▸ suffix_of_skip hs
  | case3 cs c after hs hc hlt ih =>
      rw [readBraced_eq, hs] at h
      dsimp only at h
      rw [if_neg hc] at h
      obtain ⟨⟨inner', rest'⟩, hr, h⟩ := Option.map_eq_some_iff.mp h
      cases h
      exact (ih hr).trans (suffix_of_skip hs)

theorem readBraced_agree (hs : Settled b cs) :
    Agree 2 (readBraced b cs) (readBraced b (cs ++ closing)) := by
  induction cs using readBraced.induct b with
  | case1 cs hskip =>
      rw [readBraced_eq, hskip]
      refine .lost fun inner rest h => ?_
      rw [readBraced_eq, skip_append b hs, hskip] at h
      obtain ⟨⟨inner', rest'⟩, hr, h⟩ := Option.map_eq_some_iff.mp h
      cases h
      exact Nat.lt_succ_of_le (readBraced_suffix hr).length_le
  | case2 cs c after hskip hc =>
      rw [readBraced_eq, readBraced_eq _ (cs ++ closing), skip_append b hs, hskip]
      simp only [List.cons_append, hc, if_true]
      exact .kept [] after
  | case3 cs c after hskip hc hlt ih =>
      rw [readBraced_eq, readBraced_eq _ (cs ++ closing), skip_append b hs, hskip]
      rw [List.cons_append]
      dsimp only
      rw [if_neg hc, if_neg hc]
      exact (ih (hs.of_suffix (suffix_of_skip hskip))).map (c :: ·)

theorem local_readBraced : Local b 2 (readBraced b) := ⟨readBraced_suffix, readBraced_agree⟩

theorem local_readDigits : ∀ count, Local b 2 (readDigits b count)
  | 0 => .pure []
  | count + 1 =>
      .uncons id (fun cs h => by rw [readDigits, h]) (fun cs c rest h => by rw [readDigits, h])
        fun c => (local_readDigits count).map (c :: ·)

theorem local_readHex (count : Nat) : Local b 2 (readHex b (count + 1)) := by
  refine .peek b '\x7b' (fun cs rest h => by rw [readHex, h])
    (fun cs rest h hn => by
      rewrite [readHex, h]
      split
      next after => exact absurd rfl (hn after)
      next => rfl) ?_ ?_
  · exact local_readBraced.bind fun digits =>
      .branch .fail (.bindValue _ fun code => .bindValue _ fun c => .pure _)
  · exact (local_readDigits (count + 1)).bind fun digits =>
      .bindValue _ fun code => .bindValue _ fun c => .pure _

theorem local_readProperty (negated : Bool) : Local b 2 (readProperty b negated) := by
  refine .uncons id (fun cs h => by rw [readProperty, h])
    (fun cs c rest h => by rw [readProperty, h]) fun c => ?_
  by_cases hbrace : c = '\x7b'
  · subst hbrace
    exact local_readBraced.bind fun inner => .pure _
  · by_cases hescape : c = '\\'
    · subst hescape
      exact .fail
    · simp only
      exact .pure _

/-! ## Escapes -/

theorem readEdge_suffix {tree : Tree} (h : readEdge b cs = some (tree, rest)) :
    rest <:+ cs ∧ ∃ edge, tree = .anchor (.word edge) := by
  unfold readEdge at h
  split at h
  next after =>
    split at h
    next => cases h
    next =>
      split at h
      next =>
        obtain ⟨⟨name, rest'⟩, hname, h⟩ := Option.bind_eq_some_iff.mp h
        dsimp only at h
        split at h
        next =>
          obtain ⟨edge, -, h⟩ := Option.bind_eq_some_iff.mp h
          cases h
          exact ⟨(readBraced_suffix hname).trans (List.suffix_cons _ _), edge, rfl⟩
        next => cases h
      next => cases h; exact ⟨List.suffix_refl _, _, rfl⟩
  next => cases h; exact ⟨List.suffix_refl _, _, rfl⟩

theorem readEdge_brace_nil {after : List Char} (h : skip b after = []) :
    readEdge b ('\x7b' :: after) = none := by
  simp only [readEdge, h]

theorem readEdge_agree (hs : Settled b cs)
    (hn : ∀ after, cs = '\x7b' :: after → skip b after ≠ []) :
    Agree 2 (readEdge b cs) (readEdge b (cs ++ closing)) := by
  cases cs with
  | nil => exact .kept _ []
  | cons c after =>
      by_cases hc : c = '\x7b'
      · subst hc
        have happend := skip_append b hs.tail
        cases hskip : skip b after with
        | nil => exact absurd hskip (hn after rfl)
        | cons d more =>
            rw [hskip] at happend
            simp only [readEdge, List.cons_append, hskip, happend]
            split
            · refine (local_readBraced.bind fun name => ?_).agree hs.tail
              dsimp only
              exact .branch (.bindValue _ fun edge => .pure _) .fail
            · exact .kept _ _
      · have hplain : ∀ after, readEdge b (c :: after) =
            some (.anchor (.word .oneSide), c :: after) := by
          intro after
          unfold readEdge
          split
          next h => exact absurd (List.cons.inj h).1 hc
          next => rfl
        rw [List.cons_append, hplain, hplain]
        exact .kept _ _

/-- Most escapes end with their letter. -/
theorem readEscape_single {c : Char} (hc : c ∉ ['x', 'u', 'U', 'p', 'P', 'b']) (cs : List Char) :
    readEscape b (c :: cs) = (readEscape b [c]).map fun p => (p.1, cs) := by
  unfold readEscape
  dsimp only
  split
  all_goals first
    | rfl
    | simp at hc
  split <;> rfl

theorem local_readEscape {c : Char} (hc : c ≠ 'b') :
    Local b 2 fun cs => readEscape b (c :: cs) := by
  by_cases hsingle : c ∈ ['x', 'u', 'U', 'p', 'P', 'b']
  · simp only [List.mem_cons, List.not_mem_nil, hc, or_false] at hsingle
    obtain rfl | rfl | rfl | rfl | rfl := hsingle
    · exact local_readHex 1
    · exact local_readHex 3
    · exact local_readHex 7
    · exact local_readProperty false
    · exact local_readProperty true
  · rw [funext (readEscape_single (b := b) hsingle)]
    cases readEscape b [c] with
    | none => exact .fail
    | some p => exact .pure _

theorem readEscape_suffix {c : Char} {tree : Tree}
    (h : readEscape b (c :: cs) = some (tree, rest)) : rest <:+ cs := by
  by_cases hc : c = 'b'
  · subst hc
    exact (readEdge_suffix (b := b) h).1
  · exact (local_readEscape hc).suffix h

end PageLayout.Pattern
