import PageLayout.Json.Report

/-!
# Layouts and reports are read back

`Json.Restores` says of a writer and a reader that the reader gives back every value that was
written.  Lists, tables and optional values keep this property, and so do structures whose
parts have it, since no two parts of a structure have the same name (`parts?_record`).

A choice is written in one of three ways.  A range is an object whose only field is named
after its kind, a requirement names its kind next to its parts, and an outcome names its kind
in one field and keeps its violation in another.
-/

namespace PageLayout

/-! ## Tables -/

/-- An entry whose name is above all others is put at the end. -/
theorem insertEntry_above {α : Type} {name : String} {value : α} {entries : List (String × α)}
    (h : ∀ e ∈ entries, e.1 < name) :
    insertEntry name value entries = entries ++ [(name, value)] := by
  induction entries with
  | nil => rfl
  | cons e entries ih =>
      have he : e.1 < name := h e List.mem_cons_self
      rw [insertEntry, if_neg (String.lt_asymm he), if_pos he,
        ih fun e he => h e (List.mem_cons_of_mem _ he)]
      rfl

namespace Table

variable {α : Type}

/-- Entries in order that are all above those of a table are put after them. -/
theorem entries_insertAll {t : Table α} {entries : List (String × α)}
    (h : Ascending (t.entries ++ entries)) :
    (t.insertAll entries).entries = t.entries ++ entries := by
  induction entries generalizing t with
  | nil => rw [List.append_nil]; rfl
  | cons e entries ih =>
      have hinsert : (t.insert e.1 e.2).entries = t.entries ++ [e] :=
        insertEntry_above fun e' he' => (List.pairwise_append.1 h).2.2 e' he' e List.mem_cons_self
      rw [List.append_cons, ← hinsert] at h ⊢
      exact ih h

/-- A table is the table of its entries. -/
theorem ofList_entries (t : Table α) : ofList t.entries = t := by
  have h : (ofList t.entries).entries = t.entries := @entries_insertAll α empty t.entries t.ascending
  obtain ⟨entries, ascending⟩ := t
  exact (mk.injEq ..).mpr h

end Table

namespace Json

/-! ## Parts -/

theorem ofName?_cons_of_ne {α : Type} {name other : String} {value : α}
    {fields : List (String × α)} (h : other ≠ name) :
    Part.ofName? ((other, value) :: fields) name = Part.ofName? fields name := by
  unfold Part.ofName?
  rw [List.filter_cons_of_neg (by simpa using h)]

theorem filter_name_eq_nil {α : Type} {name : String} {fields : List (String × α)}
    (h : name ∉ fields.map (·.1)) : fields.filter (fun f => f.1 == name) = [] := by
  rw [List.filter_eq_nil_iff]
  intro f hf heq
  exact h (List.mem_map.2 ⟨f, hf, eq_of_beq heq⟩)

/-- A name that only one field has stands for the value of this field. -/
theorem ofName?_cons_self {α : Type} {name : String} {value : α} {fields : List (String × α)}
    (h : name ∉ fields.map (·.1)) :
    Part.ofName? ((name, value) :: fields) name = some (.given value) := by
  simp only [Part.ofName?, List.filter_cons, beq_self_eq_true, if_true, filter_name_eq_nil h]

/-- A field that is not asked for does not count. -/
theorem named?_cons {α : Type} {name : String} {value : α} {fields : List (String × α)}
    {names : List String} (h : name ∉ names) :
    Part.named? names ((name, value) :: fields) = Part.named? names fields := by
  induction names with
  | nil => rfl
  | cons n names ih =>
      obtain ⟨hn, hnames⟩ := not_or.1 (mt List.mem_cons.2 h)
      have ih := ih hnames
      unfold Part.named? at ih ⊢
      rw [List.mapM_cons, List.mapM_cons, ih, ofName?_cons_of_ne hn]

/-- Names that are all different stand for the values of their fields. -/
theorem named?_fields {α : Type} {fields : List (String × α)} (h : (fields.map (·.1)).Nodup) :
    Part.named? (fields.map (·.1)) fields = some (fields.map fun f => .given f.2) := by
  induction fields with
  | nil => rfl
  | cons f fields ih =>
      obtain ⟨name, value⟩ := f
      obtain ⟨hname, hrest⟩ := List.nodup_cons.1 h
      have hfields : Part.named? (fields.map (·.1)) ((name, value) :: fields) = _ :=
        (named?_cons hname).trans (ih hrest)
      unfold Part.named? at hfields ⊢
      rw [List.map_cons, List.mapM_cons, ofName?_cons_self hname, hfields]
      rfl

/-- The parts of a structure are the values of its fields. -/
theorem parts?_record {names : List String} {fields : List (String × Json)}
    (hnames : fields.map (·.1) = names) (h : names.Nodup) :
    (Json.record fields).parts? names = some (fields.map fun f => .given f.2) := by
  subst hnames
  exact named?_fields h

/-! ## What is written is read -/

@[simp] theorem toBool?_bool (b : Bool) : (Json.bool b).toBool? = some b := rfl

@[simp] theorem toText?_text (s : String) : (Json.text s).toText? = some s := rfl

@[simp] theorem toFloat?_real (x : Float) : (Json.real x).toFloat? = some x := rfl

@[simp] theorem toNat?_int (n : Nat) : (Json.int n).toNat? = some n := rfl

@[simp] theorem required_given {α : Type} (read : Json → Option α) (j : Json) :
    (Part.given j).required read = read j := rfl

@[simp] theorem optional_given {α : Type} (read : Json → Option (Option α)) (j : Json) :
    (Part.given j).optional read = read j := rfl

/-- A reader gives back what a writer has written. -/
def Restores {α : Type} (write : α → Json) (read : Json → Option α) : Prop :=
  ∀ a, read (write a) = some a

namespace Restores

variable {α : Type} {write : α → Json} {read : Json → Option α}

theorem text : Restores .text toText? := fun _ => rfl

/-- A choice without parts is written as a word. -/
theorem word {w : α → String} {ofWord? : String → Option α} (h : ∀ a, ofWord? (w a) = some a) :
    Restores (fun a => .text (w a)) fun j => j.toWord?.bind ofWord? := h

theorem mapM {β : Type} {f : α → β} {g : β → Option α} (h : ∀ a, g (f a) = some a) (as : List α) :
    (as.map f).mapM g = some as := by
  induction as with
  | nil => rfl
  | cons a as ih =>
      rw [List.map_cons, List.mapM_cons, h a, ih]
      rfl

theorem list (h : Restores write read) : Restores (ofList write) (toList? read) := mapM h

/-- An optional value that is never written as nothing. -/
theorem option (h : Restores write read) (hnull : ∀ a, write a ≠ .null) :
    Restores (ofOption write) (orNull read) := by
  intro o
  cases o with
  | none => rfl
  | some a =>
      have hread : orNull read (write a) = (read (write a)).map some := by
        cases hw : write a with
        | null => exact absurd hw (hnull a)
        | _ => rfl
      exact hread.trans (by rw [h a]; rfl)

theorem table (h : Restores write read) : Restores (ofTable write) (toTable? read) := by
  intro t
  have hentries : (t.entries.map fun e => (e.1, write e.2)).mapM
      (fun f => (read f.2).map fun value => (f.1, value)) = some t.entries :=
    mapM (fun e => by rw [h e.2]; rfl) t.entries
  simp only [ofTable, toTable?, hentries]
  exact congrArg some t.ofList_entries

end Restores

end Json

open Json (Restores parts?_record)

/-! ## Places, ranges and locations -/

theorem Place.restores : Restores toJson ofJson? := by
  intro p
  have hparts : p.toJson.parts? ["file_path", "line"] = some _ := parts?_record rfl (by decide)
  simp [ofJson?, hparts]

theorem Range.restores : Restores toJson ofJson? := by
  intro r
  have hpair : ∀ (first second : String) (a b : Float) (make : Float → Float → Range),
      first ≠ second →
        pairOfJson? first second make (.record [(first, .real a), (second, .real b)]) =
          some (make a b) := by
    intro first second a b make hne
    have hparts : (Json.record [(first, .real a), (second, .real b)]).parts? [first, second] =
        some _ := parts?_record rfl (by simpa using hne)
    simp [pairOfJson?, hparts]
  cases r with
  | between min max => exact hpair "min" "max" min max .between (by decide)
  | approximate v t => exact hpair "value" "tolerance" v t .approximate (by decide)
  | exact v | greaterThan v | lessThan v => rfl

theorem Side.restores : Restores toJson ofJson? :=
  .word fun side => by cases side <;> decide

theorem Location.restores : Restores toJson ofJson? := by
  intro l
  have hparts : l.toJson.parts? ["range", "sides"] = some _ := parts?_record rfl (by decide)
  simp [ofJson?, hparts, Range.restores l.range, Side.restores.list l.sides]

/-! ## Requirements -/

theorem TextCheck.restores : Restores toJson ofJson? :=
  .word fun check => by cases check <;> decide

theorem TextOperation.restores : Restores toJson ofJson? :=
  .word fun op => by cases op <;> decide

namespace Requirement

/-- The name of its kind stands next to the parts of a requirement, and is none of them. -/
theorem parts?_toJson (r : Requirement) (names : List String)
    (hnames : r.fields.2.map (·.1) = names) (h : ("type" :: names).Nodup) :
    r.toJson.parts? names = some (r.fields.2.map fun f => .given f.2) := by
  obtain ⟨htype, hrest⟩ := List.nodup_cons.1 h
  exact (Json.named?_cons htype).trans (parts?_record hnames hrest)

/-- A requirement is read by its kind. -/
theorem ofJson?_toJson {r : Requirement} (h : "type" ∉ r.fields.2.map (·.1)) :
    ofJson? r.toJson = ofKind? r.fields.1 r.toJson := by
  have hkind : Json.fieldsNamed "type" (("type", .text r.fields.1) :: r.fields.2) =
      [.text r.fields.1] := by
    simp [Json.fieldsNamed, Json.filter_name_eq_nil h]
  simp only [ofJson?, toJson, hkind]
  rfl

theorem sizeOfJson?_toJson (make : Range → Requirement) {kind : String} {range : Range}
    (h : (make range).fields = (kind, [("range", range.toJson)])) :
    sizeOfJson? make (make range).toJson = some (make range) := by
  have hparts := parts?_toJson (make range) ["range"] (by rw [h]; rfl) (by decide)
  rw [h] at hparts
  simp [sizeOfJson?, hparts, Range.restores range]

theorem directionOfJson?_toJson (make : String → Option Range → Requirement) {kind : String}
    {object : String} {range : Option Range}
    (h : (make object range).fields = (kind, directionFields object range)) :
    directionOfJson? make (make object range).toJson = some (make object range) := by
  have hrange : Restores (Json.ofOption Range.toJson) (Json.orNull Range.ofJson?) :=
    Range.restores.option fun r => by cases r <;> nofun
  have hparts := parts?_toJson (make object range) ["object", "range"] (by rw [h]; rfl) (by decide)
  rw [h] at hparts
  simp [directionOfJson?, hparts, directionFields, hrange range]

/-- The reader of a kind gives back every requirement of this kind. -/
theorem ofKind?_toJson (r : Requirement) : ofKind? r.fields.1 r.toJson = some r := by
  cases r with
  | width range => exact sizeOfJson?_toJson .width rfl
  | height range => exact sizeOfJson?_toJson .height rfl
  | near object locations =>
      have hparts := parts?_toJson (.near object locations) ["object", "locations"] rfl (by decide)
      simp [ofKind?, fields, hparts, Location.restores.list locations]
  | inside object locations partly =>
      have hparts := parts?_toJson (.inside object locations partly)
        ["object", "locations", "partly"] rfl (by decide)
      simp [ofKind?, fields, hparts, Location.restores.list locations]
  | above object range => exact directionOfJson?_toJson .above rfl
  | below object range => exact directionOfJson?_toJson .below rfl
  | leftOf object range => exact directionOfJson?_toJson .leftOf rfl
  | rightOf object range => exact directionOfJson?_toJson .rightOf rfl
  | absent | visible => rfl
  | text check expected operations =>
      have hparts := parts?_toJson (.text check expected operations)
        ["check", "expected", "operations"] rfl (by decide)
      simp [ofKind?, fields, hparts, TextCheck.restores check,
        TextOperation.restores.list operations]
  | component path =>
      have hparts := parts?_toJson (.component path) ["path"] rfl (by decide)
      simp [ofKind?, fields, hparts]

theorem restores : Restores toJson ofJson? := by
  intro r
  have hkind : "type" ∉ r.fields.2.map (·.1) := by
    cases r <;> simp [fields, directionFields]
  exact (ofJson?_toJson hkind).trans r.ofKind?_toJson

end Requirement

/-! ## Rules, sections and layouts -/

theorem Rule.restores : Restores toJson ofJson? := by
  intro r
  have hparts : r.toJson.parts? ["kind", "original_text", "place", "only_warn"] = some _ :=
    parts?_record rfl (by decide)
  simp [ofJson?, hparts, Requirement.restores r.requirement, Place.restores r.place]

theorem ObjectRules.restores : Restores toJson ofJson? := by
  intro o
  have hparts : o.toJson.parts? ["object_name", "specs"] = some _ :=
    parts?_record rfl (by decide)
  simp [ofJson?, hparts, Rule.restores.list o.rules]

theorem Condition.restores : Restores toJson ofJson? := by
  intro c
  have hparts : c.toJson.parts? ["objects", "inverted"] = some _ := parts?_record rfl (by decide)
  simp [ofJson?, hparts, ObjectRules.restores.list c.probes]

theorem Conditional.restores : Restores toJson ofJson? := by
  intro c
  have hparts : c.toJson.parts? ["statements", "body_objects", "otherwise_objects"] = some _ :=
    parts?_record rfl (by decide)
  simp [ofJson?, hparts, Condition.restores.list c.conditions, ObjectRules.restores.list c.body,
    ObjectRules.restores.list c.otherwise]

theorem Section.restores : Restores toJson ofJson? := by
  intro s
  have hparts :
      s.toJson.parts? ["name", "tags", "objects", "conditional_blocks", "place"] = some _ :=
    parts?_record rfl (by decide)
  simp [ofJson?, hparts, Restores.text.list s.tags, ObjectRules.restores.list s.objects,
    Conditional.restores.list s.conditionals, Place.restores s.place]

theorem SelectorKind.restores : Restores toJson ofJson? :=
  .word fun kind => by cases kind <;> decide

/-- A field that is missing from a structure is read as a part that was left out. -/
theorem Locator.restores : Restores toJson ofJson? := by
  rintro ⟨kind, selector, index⟩
  cases index with
  | none =>
      have hparts : (toJson ⟨kind, selector, none⟩).parts? ["kind", "selector", "index"] =
          some [.given kind.toJson, .given (.text selector), .omitted] := rfl
      simp [ofJson?, hparts, SelectorKind.restores kind, Part.withDefault]
  | some i =>
      have hparts : (toJson ⟨kind, selector, some i⟩).parts? ["kind", "selector", "index"] =
          some [.given kind.toJson, .given (.text selector), .given (.int i)] := rfl
      simp [ofJson?, hparts, SelectorKind.restores kind, Part.withDefault, Json.orNull]

theorem Layout.restores : Restores toJson ofJson? := by
  intro l
  have hparts : l.toJson.parts? ["objects", "sections"] = some _ := parts?_record rfl (by decide)
  simp [ofJson?, hparts, Locator.restores.table l.objects, Section.restores.list l.sections]

/-! ## Reports -/

theorem Rect.restores : Restores toJson ofJson? := by
  intro r
  have hparts : r.toJson.parts? ["x", "y", "width", "height"] = some _ :=
    parts?_record rfl (by decide)
  simp [ofJson?, hparts]

theorem Area.restores : Restores toJson ofJson? := by
  intro a
  have hparts : a.toJson.parts? ["rect", "name"] = some _ := parts?_record rfl (by decide)
  simp [ofJson?, hparts, Rect.restores a.rect]

theorem Violation.restores : Restores toJson ofJson? := by
  intro v
  have hparts : v.toJson.parts? ["messages", "areas"] = some _ := parts?_record rfl (by decide)
  simp [ofJson?, hparts, Restores.text.list v.messages, Area.restores.list v.areas]

/-- An outcome without a violation has no field for one. -/
theorem Outcome.restores : Restores toJson ofJson? := by
  intro o
  cases o with
  | pass | notFound => rfl
  | warn v | fail v =>
      have hparts : ∀ kind, (Json.record [("status", .text kind), ("error", v.toJson)]).parts?
          ["status", "error"] = some [.given (.text kind), .given v.toJson] := fun _ => rfl
      simp [ofJson?, toJson, hparts, ofKind?, Violation.restores v]

theorem Finding.restores : Restores toJson ofJson? := by
  intro f
  have hparts : f.toJson.parts? ["object", "spec", "place", "outcome"] = some _ :=
    parts?_record rfl (by decide)
  simp [ofJson?, hparts, Place.restores f.place, Outcome.restores f.outcome]

theorem Report.restores : Restores toJson ofJson? := by
  intro r
  have hparts : r.toJson.parts? ["results"] = some _ := parts?_record rfl (by decide)
  simp [ofJson?, hparts, Finding.restores.list r.findings]

/-- A layout and a report are read back from the values they are written as. -/
theorem layouts_and_reports_restored :
    (∀ l : Layout, Layout.ofJson? l.toJson = some l) ∧
      ∀ r : Report, Report.ofJson? r.toJson = some r :=
  ⟨Layout.restores, Report.restores⟩

end PageLayout
