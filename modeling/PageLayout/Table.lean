/-!
# Tables

A table keeps one entry per name, in ascending order of the names.  The order is
that of the code points.  It is part of the type, so two tables that answer all
look-ups alike have the same entries.

`get?_insert` says what an insertion does to a look-up, and it is all that users
of a table need to know about it.
-/

namespace PageLayout

/-! ## The order of names -/

/-- Entries in strictly ascending order of their names. -/
def Ascending {α : Type} (entries : List (String × α)) : Prop :=
  entries.Pairwise fun a b => a.1 < b.1

/-- An entry put at its place, in exchange for one of the same name. -/
def insertEntry {α : Type} (name : String) (value : α) :
    List (String × α) → List (String × α)
  | [] => [(name, value)]
  | (n, v) :: rest =>
      if name < n then (name, value) :: (n, v) :: rest
      else if n < name then (n, v) :: insertEntry name value rest
      else (name, value) :: rest

/-- The value of the first entry with a name. -/
def findEntry {α : Type} (name : String) : List (String × α) → Option α
  | [] => none
  | (n, v) :: rest => if n = name then some v else findEntry name rest

theorem eq_of_not_lt {a b : String} (h₁ : ¬a < b) (h₂ : ¬b < a) : a = b :=
  String.le_antisymm h₂ h₁

/-- An insertion brings in no name but its own. -/
theorem mem_insertEntry {α : Type} {name : String} {value : α} {entries : List (String × α)}
    {e : String × α} (h : e ∈ insertEntry name value entries) :
    e.1 = name ∨ e ∈ entries := by
  induction entries with
  | nil => simp_all [insertEntry]
  | cons head rest ih =>
    unfold insertEntry at h
    split at h
    · rcases List.mem_cons.1 h with h | h
      · exact .inl (by rw [h])
      · exact .inr h
    · split at h
      · rcases List.mem_cons.1 h with h | h
        · exact .inr (by simp [h])
        · exact (ih h).imp id (List.mem_cons_of_mem _)
      · rcases List.mem_cons.1 h with h | h
        · exact .inl (by rw [h])
        · exact .inr (List.mem_cons_of_mem _ h)

/-- An insertion keeps the order. -/
theorem ascending_insertEntry {α : Type} (name : String) (value : α)
    {entries : List (String × α)} (h : Ascending entries) :
    Ascending (insertEntry name value entries) := by
  induction entries with
  | nil => simp [insertEntry, Ascending]
  | cons head rest ih =>
    obtain ⟨hhead, hrest⟩ := List.pairwise_cons.1 h
    unfold insertEntry
    split
    · next hlt =>
      refine List.pairwise_cons.2 ⟨fun e he => ?_, h⟩
      rcases List.mem_cons.1 he with rfl | he
      · exact hlt
      · exact String.lt_trans hlt (hhead e he)
    · next hge =>
      split
      · next hgt =>
        refine List.pairwise_cons.2 ⟨fun e he => ?_, ih hrest⟩
        rcases mem_insertEntry he with heq | he
        · rw [heq]; exact hgt
        · exact hhead e he
      · next hle =>
        refine List.pairwise_cons.2 ⟨fun e he => ?_, hrest⟩
        have hname := eq_of_not_lt hge hle
        exact hname ▸ hhead e he

/-- A look-up after an insertion. -/
theorem findEntry_insertEntry {α : Type} (name other : String) (value : α)
    (entries : List (String × α)) (h : Ascending entries) :
    findEntry other (insertEntry name value entries) =
      if name = other then some value else findEntry other entries := by
  induction entries with
  | nil => simp [insertEntry, findEntry]
  | cons head rest ih =>
    obtain ⟨n, v⟩ := head
    obtain ⟨hhead, hrest⟩ := List.pairwise_cons.1 h
    unfold insertEntry
    split
    · rfl
    · next hge =>
      split
      · next hgt =>
        simp only [findEntry, ih hrest]
        by_cases hn : n = other
        · subst hn
          have : name ≠ n := fun heq => String.lt_irrefl n (heq ▸ hgt)
          simp [this]
        · simp [hn]
      · next hle =>
        have hname := eq_of_not_lt hge hle
        subst hname
        by_cases hn : name = other <;> simp [findEntry, hn]

/-! ## The type -/

/-- Values by name, in ascending order of the names. -/
structure Table (α : Type) where
  /-- The entries. -/
  entries : List (String × α)
  /-- They are in order, and no name occurs twice. -/
  ascending : Ascending entries

namespace Table

variable {α : Type}

/-- The table without entries. -/
def empty : Table α := ⟨[], List.Pairwise.nil⟩

instance : Inhabited (Table α) := ⟨empty⟩

/-- The value of a name. -/
def get? (t : Table α) (name : String) : Option α := findEntry name t.entries

/-- Whether a name has a value. -/
def contains (t : Table α) (name : String) : Bool := (t.get? name).isSome

/-- The table in which a name has a given value. -/
def insert (t : Table α) (name : String) (value : α) : Table α :=
  ⟨insertEntry name value t.entries, ascending_insertEntry name value t.ascending⟩

/-- The table after a list of insertions, in order. -/
def insertAll (t : Table α) (entries : List (String × α)) : Table α :=
  entries.foldl (fun t e => t.insert e.1 e.2) t

/-- The table of a list of entries.  The last entry of a name counts. -/
def ofList (entries : List (String × α)) : Table α := empty.insertAll entries

/-- The names, in order. -/
def names (t : Table α) : List String := t.entries.map (·.1)

@[simp] theorem get?_empty (name : String) : (empty : Table α).get? name = none := rfl

@[simp] theorem get?_insert (t : Table α) (name other : String) (value : α) :
    (t.insert name value).get? other = if name = other then some value else t.get? other :=
  findEntry_insertEntry name other value t.entries t.ascending

end Table

end PageLayout
