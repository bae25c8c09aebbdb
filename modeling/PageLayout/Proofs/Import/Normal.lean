import PageLayout.Import.Path
import PageLayout.Proofs.Text.Separators
import PageLayout.Proofs.Text.Words

/-!
# The normal form of a path

A path `IsNormal` if it is a single dot, or if its segments are names, with double dots only in
front and none of them at the root.  Every path has a normal form (`isNormal_normalizeChars`),
and the paths in normal form are those that are their own (`normalizeChars_eq_self_iff`).

The segments are followed one by one, and what has been followed is `Followed`: names on top of
double dots.  To follow them again changes nothing (`Followed.foldl_reverse`).  So it makes no
difference whether a path goes on from a directory or from its normal form
(`normalize_append`), and the directory of a file is that of its normal form
(`directory_normalize`).
-/

namespace PageLayout.Path

/-! ## Segments -/

/-- A segment that says something. -/
structure IsSegment (s : List Char) : Prop where
  ne_nil : s ≠ []
  ne_dot : s ≠ ['.']
  slash_notMem : '/' ∉ s

/-- A segment that goes down. -/
structure IsName (s : List Char) : Prop extends IsSegment s where
  ne_up : s ≠ ['.', '.']

theorem isSegment_up : IsSegment ['.', '.'] := ⟨by decide, by decide, by decide⟩

theorem slash_notMem_of_mem_splitAt (path : List Char) :
    ∀ s ∈ Text.splitAt (· == '/') path, '/' ∉ s := by
  induction path with
  | nil => simp [Text.splitAt]
  | cons c cs ih =>
      obtain ⟨piece, pieces, hcs⟩ := Text.exists_splitAt (· == '/') cs
      rw [hcs, List.forall_mem_cons] at ih
      rw [Text.splitAt, hcs]
      by_cases hc : (c == '/') = true
      · simpa [hc] using ih
      · have hne : c ≠ '/' := by simpa using hc
        simpa [hc, hne.symm] using ih

theorem isSegment_of_mem_segments {path s : List Char} (h : s ∈ segments path) : IsSegment s := by
  obtain ⟨hs, hkept⟩ := List.mem_filter.1 h
  simp only [Bool.and_eq_true, Bool.not_eq_true', bne_iff_ne, List.isEmpty_eq_false_iff] at hkept
  exact ⟨hkept.1, hkept.2, slash_notMem_of_mem_splitAt path s hs⟩

/-- The segments before a slash and those after it. -/
theorem segments_append (cs ds : List Char) :
    segments (cs ++ '/' :: ds) = segments cs ++ segments ds := by
  rw [segments, Text.splitAt_append_of_pos (p := (· == '/')) (beq_self_eq_true '/'),
    List.filter_append]
  rfl

theorem segments_intercalate {ss : List (List Char)} (h : ∀ s ∈ ss, IsSegment s) :
    segments (['/'].intercalate ss) = ss := by
  cases ss with
  | nil => rfl
  | cons s ss =>
      rw [segments, Text.splitAt_join (fun t ht => (h t ht).slash_notMem) (List.cons_ne_nil s ss),
        List.filter_eq_self]
      intro t ht
      simp [(h t ht).ne_nil, (h t ht).ne_dot]

/-- A path of given segments has these segments. -/
theorem segments_join (absolute : Bool) {ss : List (List Char)} (h : ∀ s ∈ ss, IsSegment s) :
    segments (join absolute ss) = ss := by
  cases absolute with
  | true =>
      rw [join, ← List.nil_append ('/' :: _), segments_append, segments_intercalate h]
      rfl
  | false =>
      cases ss with
      | nil => rfl
      | cons s ss => exact segments_intercalate h

theorem isAbsolute_join (absolute : Bool) {ss : List (List Char)} (h : ∀ s ∈ ss, IsSegment s) :
    isAbsolute (join absolute ss) = absolute := by
  cases absolute with
  | true => rfl
  | false =>
      cases ss with
      | nil => rfl
      | cons s ss =>
          obtain ⟨hs, -⟩ := List.forall_mem_cons.1 h
          have hhead : ∀ rest, isAbsolute (s ++ rest) = false := by
            intro rest
            cases s with
            | nil => exact absurd rfl hs.ne_nil
            | cons c cs =>
                have hc : '/' ≠ c := fun heq => hs.slash_notMem (heq ▸ List.mem_cons_self)
                simp [isAbsolute, hc.symm]
          cases ss with
          | nil => simpa [join, List.intercalate_singleton] using hhead []
          | cons t ts =>
              rw [join, List.intercalate_cons_cons, List.append_assoc]
              · exact hhead _
              · simp

theorem isAbsolute_append {cs : List Char} (h : cs ≠ []) (ds : List Char) :
    isAbsolute (cs ++ ds) = isAbsolute cs := by
  cases cs with
  | nil => exact absurd rfl h
  | cons c cs => rfl

theorem join_ne_nil (absolute : Bool) {ss : List (List Char)} (h : ∀ s ∈ ss, s ≠ []) :
    join absolute ss ≠ [] := by
  cases absolute with
  | true => simp [join]
  | false =>
      cases ss with
      | nil => simp [join]
      | cons s ss => exact Text.intercalate_ne_nil _ h (List.cons_ne_nil s ss)

/-! ## Segments that were followed -/

/-- The segments after others were followed, the last one first: names, and below them the
double dots that nothing could be taken away for. -/
inductive Followed (absolute : Bool) : List (List Char) → Prop
  | ups (n : Nat) : (absolute = true → n = 0) → Followed absolute (.replicate n ['.', '.'])
  | name {s : List Char} {before : List (List Char)} :
      IsName s → Followed absolute before → Followed absolute (s :: before)

theorem follow_name {absolute : Bool} {s : List Char} (h : s ≠ ['.', '.'])
    (before : List (List Char)) : follow absolute before s = s :: before := by
  simp [follow, h]

namespace Followed

variable {absolute : Bool} {before : List (List Char)}

theorem nil : Followed absolute [] := .ups 0 fun _ => rfl

/-- One more segment. -/
theorem follow (h : Followed absolute before) {s : List Char} (hs : IsSegment s) :
    Followed absolute (Path.follow absolute before s) := by
  by_cases hup : s = ['.', '.']
  · subst hup
    cases h with
    | ups n hn =>
        cases n with
        | zero =>
            cases absolute with
            | true => exact .nil
            | false => exact .ups 1 nofun
        | succ n =>
            cases absolute with
            | true => exact absurd (hn rfl) (Nat.succ_ne_zero n)
            | false => exact .ups (n + 2) nofun
    | name hname hrest => simpa [Path.follow, hname.ne_up] using hrest
  · rw [follow_name hup]
    exact .name ⟨hs, hup⟩ h

theorem foldl (h : Followed absolute before) {ss : List (List Char)} (hss : ∀ s ∈ ss, IsSegment s) :
    Followed absolute (ss.foldl (Path.follow absolute) before) := by
  induction ss generalizing before with
  | nil => exact h
  | cons s ss ih =>
      obtain ⟨hs, hss⟩ := List.forall_mem_cons.1 hss
      exact ih (h.follow hs) hss

/-- Segments that were followed are followed as they are. -/
theorem foldl_reverse (h : Followed absolute before) :
    before.reverse.foldl (Path.follow absolute) [] = before := by
  induction h with
  | ups n hn =>
      rw [List.reverse_replicate]
      induction n with
      | zero => rfl
      | succ n ih =>
          cases absolute with
          | true => exact absurd (hn rfl) (Nat.succ_ne_zero n)
          | false =>
              have hlast : List.replicate (n + 1) ['.', '.'] =
                  .replicate n ['.', '.'] ++ [['.', '.']] := List.replicate_succ'
              have hstep : Path.follow false (.replicate n ['.', '.']) ['.', '.'] =
                  .replicate (n + 1) ['.', '.'] := by cases n <;> rfl
              rw [hlast, List.foldl_append, ih nofun, ← hlast]
              exact hstep
  | name hname _ ih =>
      rw [List.reverse_cons, List.foldl_append, ih]
      exact follow_name hname.ne_up _

theorem isSegment (h : Followed absolute before) : ∀ s ∈ before, IsSegment s := by
  induction h with
  | ups n _ =>
      intro s hs
      exact List.eq_of_mem_replicate hs ▸ isSegment_up
  | name hname _ ih => exact List.forall_mem_cons.2 ⟨hname.toIsSegment, ih⟩

theorem tail (h : Followed absolute before) : Followed absolute before.tail := by
  cases h with
  | ups n hn => cases n with
    | zero => exact .nil
    | succ n => exact .ups n fun ha => absurd (hn ha) (Nat.succ_ne_zero n)
  | name _ hrest => exact hrest

/-- In the order of the path, the double dots come first. -/
theorem exists_names (h : Followed absolute before) :
    ∃ n names, (absolute = true → n = 0) ∧ (∀ s ∈ names, IsName s) ∧
      before.reverse = .replicate n ['.', '.'] ++ names := by
  induction h with
  | ups n hn => exact ⟨n, [], hn, nofun, by simp⟩
  | @name s before hname _ ih =>
      obtain ⟨n, names, hn, hnames, heq⟩ := ih
      refine ⟨n, names ++ [s], hn, ?_, ?_⟩
      · intro t ht
        rcases List.mem_append.1 ht with ht | ht
        · exact hnames t ht
        · exact List.mem_singleton.1 ht ▸ hname
      · rw [List.reverse_cons, heq, List.append_assoc]

theorem of_names {n : Nat} {names : List (List Char)} (hn : absolute = true → n = 0)
    (hnames : ∀ s ∈ names, IsName s) :
    Followed absolute (names ++ .replicate n ['.', '.']) := by
  induction names with
  | nil => exact .ups n hn
  | cons s names ih =>
      obtain ⟨hs, hnames⟩ := List.forall_mem_cons.1 hnames
      exact .name hs (ih hnames)

/-- Double dots that cannot be taken away, and names after them, are followed as they are. -/
theorem foldl_names {n : Nat} {names : List (List Char)} (hn : absolute = true → n = 0)
    (hnames : ∀ s ∈ names, IsName s) :
    ((List.replicate n ['.', '.'] ++ names).foldl (Path.follow absolute) []).reverse =
      .replicate n ['.', '.'] ++ names := by
  have hreverse : (List.replicate n ['.', '.'] ++ names).reverse =
      names.reverse ++ .replicate n ['.', '.'] := by
    rw [List.reverse_append, List.reverse_replicate]
  have hfollowed : Followed absolute (List.replicate n ['.', '.'] ++ names).reverse := by
    rw [hreverse]
    exact of_names hn fun s hs => hnames s (List.mem_reverse.1 hs)
  have hagain := hfollowed.foldl_reverse
  rw [List.reverse_reverse] at hagain
  rw [hagain, List.reverse_reverse]

end Followed

/-- The segments of a path after they were followed, the last one first. -/
def followed (path : List Char) : List (List Char) :=
  (segments path).foldl (follow (isAbsolute path)) []

theorem followed_followed (path : List Char) : Followed (isAbsolute path) (followed path) :=
  Followed.nil.foldl fun _ => isSegment_of_mem_segments

theorem isSegment_of_mem_normalSegments {path s : List Char} (h : s ∈ normalSegments path) :
    IsSegment s :=
  (followed_followed path).isSegment s (List.mem_reverse.1 h)

theorem segments_normalizeChars (path : List Char) :
    segments (normalizeChars path) = normalSegments path :=
  segments_join _ fun _ => isSegment_of_mem_normalSegments

theorem isAbsolute_normalizeChars (path : List Char) :
    isAbsolute (normalizeChars path) = isAbsolute path :=
  isAbsolute_join _ fun _ => isSegment_of_mem_normalSegments

theorem normalizeChars_join (absolute : Bool) {ss : List (List Char)}
    (h : ∀ s ∈ ss, IsSegment s) :
    normalizeChars (join absolute ss) = join absolute (ss.foldl (follow absolute) []).reverse := by
  rw [normalizeChars, normalSegments, isAbsolute_join absolute h, segments_join absolute h]

/-! ## Normal forms -/

/-- A path in normal form: a dot, or names that may follow double dots, but not at the root. -/
inductive IsNormal : List Char → Prop
  | here : IsNormal ['.']
  | absolute {names : List (List Char)} :
      (∀ s ∈ names, IsName s) → IsNormal ('/' :: ['/'].intercalate names)
  | relative {n : Nat} {names : List (List Char)} :
      (∀ s ∈ names, IsName s) → List.replicate n ['.', '.'] ++ names ≠ [] →
        IsNormal (['/'].intercalate (.replicate n ['.', '.'] ++ names))

/-- The normal form of a path is in normal form. -/
theorem isNormal_normalizeChars (path : List Char) : IsNormal (normalizeChars path) := by
  obtain ⟨n, names, hn, hnames, heq⟩ := (followed_followed path).exists_names
  have hsegments : normalSegments path = .replicate n ['.', '.'] ++ names := heq
  rw [normalizeChars, hsegments]
  cases habsolute : isAbsolute path with
  | true =>
      rw [hn habsolute]
      exact .absolute hnames
  | false =>
      by_cases hnil : List.replicate n ['.', '.'] ++ names = []
      · rw [hnil]
        exact .here
      · obtain ⟨s, ss, hcons⟩ := List.exists_cons_of_ne_nil hnil
        have hjoin : join false (.replicate n ['.', '.'] ++ names) =
            ['/'].intercalate (.replicate n ['.', '.'] ++ names) := by rw [hcons]; rfl
        rw [hjoin]
        exact .relative hnames hnil

/-- What was followed in a directory is followed again in its normal form. -/
theorem followed_normalizeChars_append (path rest : List Char) (h : path ≠ []) :
    followed (normalizeChars path ++ '/' :: rest) = followed (path ++ '/' :: rest) := by
  have hne : normalizeChars path ≠ [] :=
    join_ne_nil _ fun s hs => (isSegment_of_mem_normalSegments hs).ne_nil
  have hagain : (normalSegments path).foldl (follow (isAbsolute path)) [] = followed path :=
    (followed_followed path).foldl_reverse
  rw [followed, followed, segments_append, segments_append, isAbsolute_append hne,
    isAbsolute_append h, isAbsolute_normalizeChars, segments_normalizeChars, List.foldl_append,
    List.foldl_append, hagain, followed]

theorem normalizeChars_append {path : List Char} (h : path ≠ []) (rest : List Char) :
    normalizeChars (normalizeChars path ++ '/' :: rest) = normalizeChars (path ++ '/' :: rest) := by
  have hne : normalizeChars path ≠ [] :=
    join_ne_nil _ fun s hs => (isSegment_of_mem_normalSegments hs).ne_nil
  have hsegments : normalSegments (normalizeChars path ++ '/' :: rest) =
      normalSegments (path ++ '/' :: rest) :=
    congrArg List.reverse (followed_normalizeChars_append path rest h)
  rw [normalizeChars, hsegments, isAbsolute_append hne, isAbsolute_normalizeChars, normalizeChars,
    isAbsolute_append h]

/-- The paths in normal form are those that are their own normal form. -/
theorem normalizeChars_eq_self_iff {path : List Char} :
    normalizeChars path = path ↔ IsNormal path := by
  constructor
  · intro h
    exact h ▸ isNormal_normalizeChars path
  · intro h
    have hsegment : ∀ {n : Nat} {names : List (List Char)}, (∀ s ∈ names, IsName s) →
        ∀ s ∈ List.replicate n ['.', '.'] ++ names, IsSegment s := by
      intro n names hnames s hs
      rcases List.mem_append.1 hs with hs | hs
      · exact List.eq_of_mem_replicate hs ▸ isSegment_up
      · exact (hnames s hs).toIsSegment
    -- The path is that of its segments, which are followed as they are.
    have hjoin : ∀ (absolute : Bool) (n : Nat) (names : List (List Char)),
        (absolute = true → n = 0) → (∀ s ∈ names, IsName s) →
          normalizeChars (join absolute (.replicate n ['.', '.'] ++ names)) =
            join absolute (.replicate n ['.', '.'] ++ names) := by
      intro absolute n names hn hnames
      rw [normalizeChars_join _ (hsegment hnames), Followed.foldl_names hn hnames]
    cases h with
    | here => rfl
    | absolute hnames => exact hjoin true 0 _ (fun _ => rfl) hnames
    | @relative n names hnames hne =>
        obtain ⟨s, ss, hcons⟩ := List.exists_cons_of_ne_nil hne
        have h := hjoin false n names nofun hnames
        rw [hcons] at h ⊢
        exact h

/-! ## Directories -/

theorem toList_normalize (path : String) : (normalize path).toList = normalizeChars path.toList :=
  String.toList_ofList

theorem normalize_append {d : String} (hd : d ≠ "") (r : String) :
    normalize (normalize d ++ "/" ++ r) = normalize (d ++ "/" ++ r) := by
  have htext : ∀ d : String, (d ++ "/" ++ r).toList = d.toList ++ '/' :: r.toList := by
    intro d
    simp [String.toList_append]
  have hne : d.toList ≠ [] := mt String.toList_eq_nil_iff.1 hd
  rw [normalize, htext, toList_normalize, normalizeChars_append hne, normalize, htext]

/-- The directory of a file has the segments before the last one. -/
theorem directory_eq {path : String} {ss : List (List Char)} {s : List Char}
    (h : segments path.toList = ss ++ [s]) :
    directory path = String.ofList (join (isAbsolute path.toList) ss) := by
  have hlast : (ss ++ [s]).dropLast = ss := List.dropLast_concat
  obtain ⟨t, ts, hts⟩ := List.exists_cons_of_ne_nil (List.concat_ne_nil s ss)
  rw [directory, h]
  rw [hts] at hlast ⊢
  exact congrArg (fun ss => String.ofList (join (isAbsolute path.toList) ss)) hlast

/-- A path that names a file ends in its name. -/
theorem exists_of_fileName_ne {path : String} (h : fileName path ≠ "") :
    ∃ ss s, segments path.toList = ss ++ [s] ∧ s ≠ ['.', '.'] := by
  unfold fileName at h
  split at h
  next => exact absurd rfl h
  next s hlast =>
    obtain ⟨ss, hss⟩ := List.getLast?_eq_some_iff.1 hlast
    refine ⟨ss, s, hss, ?_⟩
    rintro rfl
    exact h rfl

/-- The directory of a file is that of its normal form, up to the normal form. -/
theorem directory_normalize {path : String} (h : fileName path ≠ "") :
    directory (normalize path) = normalize (directory path) := by
  obtain ⟨ss, s, hsegments, hs⟩ := exists_of_fileName_ne h
  have hss : ∀ t ∈ ss, IsSegment t := fun t ht =>
    isSegment_of_mem_segments (hsegments ▸ List.mem_append_left [s] ht)
  have hnormal : normalSegments path.toList =
      (ss.foldl (follow (isAbsolute path.toList)) []).reverse ++ [s] := by
    rw [normalSegments, hsegments, List.foldl_append, List.foldl_cons, List.foldl_nil,
      follow_name hs, List.reverse_cons]
  have hnormalized : segments (normalize path).toList =
      (ss.foldl (follow (isAbsolute path.toList)) []).reverse ++ [s] := by
    rw [toList_normalize, segments_normalizeChars, hnormal]
  rw [directory_eq hnormalized, directory_eq hsegments, toList_normalize,
    isAbsolute_normalizeChars, normalize, String.toList_ofList, normalizeChars_join _ hss]

/-- The directory of a path in normal form is in normal form. -/
theorem normalize_directory_normalize (path : String) :
    normalize (directory (normalize path)) = directory (normalize path) := by
  by_cases hnil : normalSegments path.toList = []
  · have hdirectory : directory (normalize path) = "." := by
      rw [directory, toList_normalize, segments_normalizeChars, hnil]
    rw [hdirectory]
    decide +kernel
  · -- Without its last segment, the path is still one that was followed.
    have htail := (followed_followed path.toList).tail
    obtain ⟨s, before, hfollowed⟩ :=
      List.exists_cons_of_ne_nil (mt List.reverse_eq_nil_iff.2 hnil)
    have hsegments : segments (normalize path).toList = before.reverse ++ [s] := by
      rw [toList_normalize, segments_normalizeChars, ← List.reverse_cons, ← hfollowed]
      rfl
    have hbefore : Followed (isAbsolute path.toList) before := by
      rwa [followed, hfollowed] at htail
    rw [directory_eq hsegments, toList_normalize, isAbsolute_normalizeChars, normalize,
      String.toList_ofList, normalizeChars_join _ fun t ht =>
        hbefore.isSegment t (List.mem_reverse.1 ht), hbefore.foldl_reverse]

theorem directory_ne_empty (path : String) : directory path ≠ "" := by
  unfold directory
  dsimp only
  split
  next => decide
  next s ss hsegments =>
    intro h
    have hne : ∀ t ∈ (s :: ss).dropLast, t ≠ [] := by
      intro t ht
      have hmem : t ∈ segments path.toList := hsegments ▸ List.dropLast_subset _ ht
      exact (isSegment_of_mem_segments hmem).ne_nil
    exact join_ne_nil _ hne (String.ofList_eq_empty_iff.1 h)

end PageLayout.Path
