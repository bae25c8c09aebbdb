import PageLayout.Proofs.Decimal.Literal
import PageLayout.Proofs.Text.Separators

/-!
# Lists of indexes as they are written

`Entry` is what an item of a list of indexes stands for, and `Written` says how it is written.
`Spells` puts commas between the items.

The bounds of an item are read off it whatever blanks stand in it (`readBounds_written`), and
from then on only they count: a list gives the integers of its items one after the other, unless
there are too many of them (`Spells.read`).  How the integers of the items are read is left open
here.
-/

namespace PageLayout

namespace IndexList

open Decimal (Literal fitsInt64)

/-! ## Items -/

/-- An item of a list of indexes. -/
inductive Entry where
  /-- An item with nothing in it. -/
  | blank
  /-- An integer. -/
  | single (n : Int)
  /-- A range, with both of its bounds. -/
  | range (low high : Int)
deriving DecidableEq, Repr

namespace Entry

/-- The integers that an item stands for, in order. -/
def integers : Entry → List Int
  | .blank => []
  | .single n => [n]
  | .range low high => interval low high

/-- The integers that are written in an item. -/
def bounds : Entry → List Int
  | .blank => []
  | .single n => [n]
  | .range low high => [low, high]

/-- An item with other integers in it. -/
def map (f : Int → Int) : Entry → Entry
  | .blank => .blank
  | .single n => .single (f n)
  | .range low high => .range (f low) (f high)

theorem map_eq_self {f : Int → Int} {e : Entry} (h : ∀ n ∈ e.bounds, f n = n) : e.map f = e := by
  cases e <;> simp_all [map, bounds]

end Entry

/-- What stands between the bounds of a range. -/
inductive Separator : List Char → Prop
  | word {before after : List Char} :
      Text.AllBlank before → Text.AllBlank after → Separator (before ++ (" to ".toList ++ after))
  | hyphen {before after : List Char} :
      Text.AllBlank before → Text.AllBlank after → Separator (before ++ ('-' :: after))

/-- How an item is written. -/
inductive Written : Entry → List Char → Prop
  | blank {blanks : List Char} : Text.AllBlank blanks → Written .blank blanks
  | single {n : Int} {before literal after : List Char} :
      Text.AllBlank before → Literal n literal → Text.AllBlank after →
        Written (.single n) (before ++ (literal ++ after))
  | range {low high : Int} {before first middle second after : List Char} :
      Text.AllBlank before → Literal low first → Separator middle → Literal high second →
        Text.AllBlank after →
          Written (.range low high) (before ++ (first ++ (middle ++ second) ++ after))

/-- A text consists of items with commas between them. -/
def Spells (entries : List Entry) (text : String) : Prop :=
  ∃ items, List.Forall₂ Written entries items ∧ text.toList = [','].intercalate items

/-! ## What is read of an item -/

section Reading

variable {low high n : Int} {first middle second literal item : List Char}

theorem readNumber_literal (h : Literal n literal) (hn : fitsInt64 n = true) :
    readNumber literal = .ok n := by
  rw [readNumber, h.word.trimmed.trim, Decimal.readInt64?, Decimal.literal_iff.1 h,
    Option.bind_some, if_pos hn]

/-- Blanks around a number do not count. -/
theorem readNumber_trim (cs : List Char) : readNumber (Text.trim cs) = readNumber cs := by
  rw [readNumber, readNumber, (Text.trimmed_trim cs).trim]

/-- An integer is not a range. -/
theorem splitRange?_literal (h : Literal n literal) : splitRange? literal = none := by
  have hto : Text.splitOnce " to ".toList literal = none :=
    Text.splitOnce_eq_none_of_notMem 't' (by decide) (h.notMem (by decide))
  obtain ⟨c, rest, rfl, -, hrest⟩ := h.exists_cons
  have hhyphen : '-' ∉ rest := fun hmem => absurd (hrest _ hmem) (by decide)
  rw [splitRange?, hto]
  dsimp only
  rw [Text.splitOnce_eq_none hhyphen]
  exact ite_self none

/-- The bounds of a range are cut apart at what stands between them. -/
theorem splitRange?_range (hlow : Literal low first) (hmiddle : Separator middle)
    (hhigh : Literal high second) :
    ∃ before after, splitRange? (first ++ (middle ++ second)) = some (before, after) ∧
      Text.trim before = first ∧ Text.trim after = second := by
  have ht : 't' ∉ first := hlow.notMem (by decide)
  obtain ⟨c, rest, hfirst, hc, hrest⟩ := hlow.exists_cons
  have htrim : ∀ {blanks : List Char}, Text.AllBlank blanks →
      Text.trim (first ++ blanks) = first ∧ Text.trim (blanks ++ second) = second := by
    intro blanks h
    rw [Text.trim_append_allBlank h, Text.trim_allBlank_append h]
    exact ⟨hlow.word.trimmed.trim, hhigh.word.trimmed.trim⟩
  obtain ⟨hbefore, hafter⟩ | ⟨hbefore, hafter⟩ := hmiddle
  case word before after =>
    have hnot : 't' ∉ first ++ before := fun hmem =>
      (List.mem_append.1 hmem).elim ht fun hb => absurd (hbefore _ hb) (by decide)
    have hto : Text.splitOnce " to ".toList (first ++ before ++ (" to ".toList ++ (after ++ second))) =
        some (first ++ before, after ++ second) :=
      Text.splitOnce_append_second (by decide) hnot
    have hitem : first ++ (before ++ (" to ".toList ++ after) ++ second) =
        first ++ before ++ (" to ".toList ++ (after ++ second)) := by
      simp only [List.append_assoc]
    refine ⟨first ++ before, after ++ second, ?_, (htrim hbefore).1, (htrim hafter).2⟩
    unfold splitRange?
    rw [hitem, hto]
  case hyphen before after =>
    have hitem : first ++ (before ++ '-' :: after ++ second) =
        c :: (rest ++ before ++ '-' :: (after ++ second)) := by
      simp [hfirst]
    have hto : Text.splitOnce " to ".toList (first ++ (before ++ '-' :: after ++ second)) = none := by
      refine Text.splitOnce_eq_none_of_notMem 't' (by decide) ?_
      have hblank : isBlank 't' = false := by decide
      simp only [List.mem_append, List.mem_cons, not_or]
      exact ⟨ht, ⟨hbefore.notMem hblank, by decide, hafter.notMem hblank⟩, hhigh.notMem (by decide)⟩
    have hhyphen : '-' ∉ rest ++ before := fun hmem =>
      (List.mem_append.1 hmem).elim (fun h => absurd (hrest _ h) (by decide))
        fun h => absurd (hbefore _ h) (by decide)
    have hascii : c.toNat < 0x80 := by
      have hall : ∀ d ∈ first, decide (d.toNat < 0x80) = true := hlow.all (by decide)
      exact of_decide_eq_true (hall c (hfirst ▸ List.mem_cons_self))
    have hcut : Text.splitOnce ['-'] (rest ++ before ++ '-' :: (after ++ second)) =
        some (rest ++ before, after ++ second) := Text.splitOnce_append hhyphen
    refine ⟨first ++ before, after ++ second, ?_, (htrim hbefore).1, (htrim hafter).2⟩
    unfold splitRange?
    rw [hto, hitem]
    dsimp only
    rw [if_pos hascii, hcut, hfirst]
    rfl

theorem readBounds_literal (h : Literal n literal) :
    readBounds literal = (readNumber literal).map fun n => (n, n) := by
  rw [readBounds, splitRange?_literal h]

theorem readBounds_range (hlow : Literal low first) (hmiddle : Separator middle)
    (hhigh : Literal high second) :
    readBounds (first ++ (middle ++ second)) = do
      let low ← readNumber first
      let high ← readNumber second
      return (low, high) := by
  obtain ⟨before, after, hsplit, hbefore, hafter⟩ := splitRange?_range hlow hmiddle hhigh
  rw [readBounds, hsplit, ← hbefore, ← hafter, readNumber_trim, readNumber_trim]

/-- Blanks around an item do not count, and neither do those around what separates its bounds. -/
theorem Written.cases {e : Entry} (h : Written e item) :
    (e = .blank ∧ Text.trim item = []) ∨
    (∃ n, e = .single n ∧ Literal n (Text.trim item)) ∨
    ∃ low high first middle second, e = .range low high ∧ Literal low first ∧
      Separator middle ∧ Literal high second ∧ Text.trim item = first ++ (middle ++ second) := by
  obtain hblank | ⟨hbefore, hliteral, hafter⟩ | @⟨low, high, _, first, middle, second, _, hbefore,
    hlow, hmiddle, hhigh, hafter⟩ := h
  · refine .inl ⟨rfl, ?_⟩
    rw [← List.append_nil item, Text.trim_allBlank_append hblank]
    rfl
  · refine .inr (.inl ⟨_, rfl, ?_⟩)
    rwa [Text.trim_between hbefore hafter hliteral.word.trimmed]
  · refine .inr (.inr ⟨low, high, first, middle, second, rfl, hlow, hmiddle, hhigh, ?_⟩)
    exact Text.trim_between hbefore hafter <|
      hlow.word.trimmed.around hhigh.word.trimmed hlow.word.ne_nil hhigh.word.ne_nil middle

end Reading

/-! ## What is read of a list -/

theorem length_interval (low high : Int) :
    (interval low high).length = (high + 1 - low).toNat := by
  rw [interval, List.length_map, List.length_range]

theorem interval_self (n : Int) : interval n n = [n] := by
  have hcount : (n + 1 - n).toNat = 1 := by omega
  rw [interval, hcount]
  exact congrArg (fun m => [m]) (Int.add_zero n)

/-- The bounds of an item that is not blank, if its integers are read as `f` says. -/
theorem readBounds_written {f : Int → Int} {e : Entry} {item : List Char} (h : Written e item)
    (hf : ∀ n ∈ e.bounds, ∀ cs, Literal n cs → readNumber cs = .ok (f n)) :
    (Text.trim item = [] ∧ (e.map f).integers = []) ∨
    (Text.trim item ≠ [] ∧ ∃ low high, readBounds (Text.trim item) = .ok (low, high) ∧
      (e.map f).integers = interval low high) := by
  obtain ⟨rfl, hitem⟩ | ⟨n, rfl, hn⟩ | ⟨low, high, first, middle, second, rfl, hlow, hmiddle,
    hhigh, hitem⟩ := h.cases
  · exact .inl ⟨hitem, rfl⟩
  · refine .inr ⟨hn.word.ne_nil, f n, f n, ?_, (interval_self (f n)).symm⟩
    rw [readBounds_literal hn, hf n (by simp [Entry.bounds]) _ hn]
    rfl
  · rw [hitem]
    refine .inr ⟨List.append_ne_nil_of_left_ne_nil hlow.word.ne_nil _, f low, f high, ?_, rfl⟩
    rw [readBounds_range hlow hmiddle hhigh, hf low (by simp [Entry.bounds]) _ hlow,
      hf high (by simp [Entry.bounds]) _ hhigh]
    rfl

section Items

variable {room : Nat} {item : List Char} {items : List (List Char)} {low high : Int}

theorem readItems_empty (room : Nat) (items : List (List Char)) :
    readItems room ([] :: items) = readItems room items := rfl

/-- An item that is not blank either leaves room for the others or is one too many. -/
theorem readItems_bounds (hne : item ≠ []) (hbounds : readBounds item = .ok (low, high)) :
    readItems room (item :: items) =
      if (interval low high).length ≤ room then
        (readItems (room - (interval low high).length) items).map (interval low high ++ ·)
      else .error (.tooManyIndexes (String.ofList item)) := by
  rw [readItems, List.isEmpty_eq_false_iff.2 hne, if_neg Bool.false_ne_true, hbounds, ok_bind]
  dsimp only
  rw [length_interval]
  split
  next hreversed =>
    have hcount : (high + 1 - low).toNat = 0 := by omega
    rw [if_pos (by omega), hcount, Nat.sub_zero, interval_eq_nil hreversed]
    cases readItems room items <;> rfl
  next hordered =>
    have hroom : (high - low).toNat < room ↔ (high + 1 - low).toNat ≤ room := by omega
    simp only [hroom]
    split
    · cases readItems (room - (high + 1 - low).toNat) items <;> rfl
    · rfl

/-- The items give their integers one after the other, if there is room for them. -/
theorem readItems_written {f : Int → Int} {entries : List Entry}
    (h : List.Forall₂ Written entries items)
    (hf : ∀ e ∈ entries, ∀ n ∈ e.bounds, ∀ cs, Literal n cs → readNumber cs = .ok (f n))
    (room : Nat) :
    let all := entries.flatMap fun e => (e.map f).integers
    (all.length ≤ room → readItems room (items.map Text.trim) = .ok all) ∧
      (room < all.length → ∃ item ∈ items.map Text.trim,
        readItems room (items.map Text.trim) = .error (.tooManyIndexes (String.ofList item))) := by
  dsimp only
  induction h generalizing room with
  | nil => exact ⟨fun _ => rfl, fun h => absurd h (Nat.not_lt_zero room)⟩
  | @cons e item entries items hitem _ ih =>
      obtain ⟨hhead, htail⟩ := List.forall_mem_cons.1 hf
      rw [List.flatMap_cons, List.length_append, List.map_cons]
      obtain ⟨hblank, hnone⟩ | ⟨hne, low, high, hbounds, hintegers⟩ :=
        readBounds_written hitem hhead
      · obtain ⟨hok, herror⟩ := ih htail room
        rw [hblank, hnone, readItems_empty, List.length_nil, Nat.zero_add, List.nil_append]
        refine ⟨hok, fun hmore => ?_⟩
        obtain ⟨late, hlate, heq⟩ := herror hmore
        exact ⟨late, List.mem_cons_of_mem _ hlate, heq⟩
      · obtain ⟨hok, herror⟩ := ih htail (room - (interval low high).length)
        rw [hintegers, readItems_bounds hne hbounds]
        refine ⟨fun hall => ?_, fun hmore => ?_⟩
        · rw [if_pos (by omega), hok (by omega)]
          rfl
        · split
          next hfits =>
            obtain ⟨late, hlate, heq⟩ := herror (by omega)
            exact ⟨late, List.mem_cons_of_mem _ hlate, by rw [heq]; rfl⟩
          next => exact ⟨_, List.mem_cons_self, rfl⟩

end Items

/-- The items of a list, without the blanks around them. -/
def itemsOf (text : String) : List (List Char) :=
  (Text.splitAt (· == ',') text.toList).map Text.trim

theorem Written.comma_notMem {e : Entry} {item : List Char} (h : Written e item) : ',' ∉ item := by
  have hcomma : isBlank ',' = false := by decide
  have hliteral : ∀ {n : Int} {cs : List Char}, Literal n cs → ',' ∉ cs := fun h =>
    h.notMem (by decide)
  have hseparator : ∀ {cs : List Char}, Separator cs → ',' ∉ cs := by
    rintro _ (⟨hbefore, hafter⟩ | ⟨hbefore, hafter⟩)
    all_goals
      simp only [List.mem_append, List.mem_cons, not_or]
      exact ⟨hbefore.notMem hcomma, by decide, hafter.notMem hcomma⟩
  cases h with
  | blank hblanks => exact hblanks.notMem hcomma
  | single hbefore hn hafter =>
      simp only [List.mem_append, not_or]
      exact ⟨hbefore.notMem hcomma, hliteral hn, hafter.notMem hcomma⟩
  | range hbefore hlow hmiddle hhigh hafter =>
      simp only [List.mem_append, not_or]
      exact ⟨hbefore.notMem hcomma, ⟨hliteral hlow, hseparator hmiddle, hliteral hhigh⟩,
        hafter.notMem hcomma⟩

theorem comma_notMem_of_forall₂ {entries : List Entry} {items : List (List Char)}
    (h : List.Forall₂ Written entries items) : ∀ item ∈ items, ',' ∉ item := by
  induction h with
  | nil => exact nofun
  | cons hitem _ ih => exact List.forall_mem_cons.2 ⟨hitem.comma_notMem, ih⟩

/-- A list is read item by item. -/
theorem Spells.exists_items {entries : List Entry} {text : String} (h : Spells entries text) :
    ∃ items, List.Forall₂ Written entries items ∧
      (itemsOf text = items.map Text.trim ∨ items = [] ∧ itemsOf text = [[]]) := by
  obtain ⟨items, hitems, htext⟩ := h
  refine ⟨items, hitems, ?_⟩
  rw [itemsOf, htext]
  obtain rfl | hne := eq_or_ne items []
  · exact .inr ⟨rfl, rfl⟩
  · exact .inl (congrArg _ (Text.splitAt_join (comma_notMem_of_forall₂ hitems) hne))

/-- The list gives the integers of its items one after the other, if there is room for them. -/
theorem Spells.read {f : Int → Int} {entries : List Entry} {text : String}
    (h : Spells entries text)
    (hf : ∀ e ∈ entries, ∀ n ∈ e.bounds, ∀ cs, Literal n cs → readNumber cs = .ok (f n)) :
    let all := entries.flatMap fun e => (e.map f).integers
    (all.length ≤ indexLimit → IndexList.read text = .ok all) ∧
      (indexLimit < all.length → ∃ item ∈ itemsOf text,
        IndexList.read text = .error (.tooManyIndexes (String.ofList item))) := by
  obtain ⟨items, hitems, htext⟩ := h.exists_items
  have hread : IndexList.read text = readItems indexLimit (itemsOf text) := rfl
  rw [hread]
  obtain heq | ⟨rfl, heq⟩ := htext
  · rw [heq]
    exact readItems_written hitems hf indexLimit
  · obtain rfl := List.forall₂_nil_right_iff.1 hitems
    rw [heq]
    exact ⟨fun _ => rfl, fun hmore => absurd hmore (Nat.not_lt_zero indexLimit)⟩

end IndexList

end PageLayout
