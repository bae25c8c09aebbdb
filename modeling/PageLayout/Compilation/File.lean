import PageLayout.Compilation.Block
import PageLayout.Compilation.Conditional

/-!
# Reading a file

The lines of a file are read one after another.  A line that is not indented
opens something: a block of definitions between two rulers of `=`, a directive, a
section, a list of indexes or an object block.  The indented lines below belong
to it.

An object block is complete when the next line that is not indented comes, or the
end of the file.  Only then are its rules read and put where they belong: into
the open conditional, or else into the section that was opened last in this file.
A file whose first rules stand before any section has a section without a name.

How another file is read is a parameter here, `Loader`.
-/

namespace PageLayout

/-! ## Progress -/

/-- What indented lines belong to. -/
inductive Pending where
  /-- Nothing. -/
  | nothing
  /-- An object block. -/
  | object (block : ObjectBlock)
  /-- A block of variables. -/
  | assignments
deriving DecidableEq, Repr, Inhabited

/-- How far a file has been read. -/
structure Cursor where
  /-- The index of the section that was opened last in this file. -/
  current : Option Nat
  /-- What indented lines belong to. -/
  pending : Pending
  /-- The list of indexes that no object block has followed, and its line. -/
  indexes : Option (List Int × Place)
  /-- The open conditional. -/
  conditional : Option OpenConditional
  /-- Whether the line is between two rulers of definitions. -/
  defining : Bool
deriving DecidableEq, Repr, Inhabited

/-- The cursor before the first line of a file. -/
def Cursor.start : Cursor := ⟨none, .nothing, none, none, false⟩

/-- How far a compilation is, inside a file. -/
structure Progress where
  /-- What the compilation has found out. -/
  store : Store
  /-- How far the file has been read. -/
  cursor : Cursor
deriving Inhabited

/-- How another file is read: by the path that asks for it and the line with that
path. -/
abbrev Loader := String → Place → Store → Except Abort Store

namespace Progress

/-- The progress with a section, and the index of that section.  A file without
one gets a section without a name. -/
def ensureSection (p : Progress) (place : Place) : Progress × Nat :=
  match p.cursor.current with
  | some index => (p, index)
  | none =>
      let (store, index) := p.store.openSection (.opened "" [] place)
      (⟨store, { p.cursor with current := some index }⟩, index)

/-- The progress after rules were put where they belong. -/
def attach (p : Progress) (objects : List ObjectRules) (place : Place) : Progress :=
  match p.cursor.conditional with
  | some c => { p with cursor := { p.cursor with conditional := some (c.receive objects) } }
  | none =>
      if objects.isEmpty then p
      else
        let (p, index) := p.ensureSection place
        { p with
          store := p.store.modifySection index fun s => { s with objects := s.objects ++ objects } }

/-- The progress after a section was opened. -/
def enterSection (p : Progress) (new : Section) : Progress :=
  let (store, index) := p.store.openSection new
  ⟨store, { p.cursor with current := some index }⟩

/-- The progress after a conditional was closed. -/
def close (p : Progress) (c : OpenConditional) : Progress :=
  let (p, index) := p.ensureSection c.place
  let change (s : Section) := { s with conditionals := s.conditionals ++ [c.closed] }
  { store := p.store.modifySection index change
    cursor := { p.cursor with conditional := none } }

/-- The place of the current section, or else that of a line. -/
def sectionPlace (p : Progress) (line : Line) : Place :=
  match p.cursor.current.bind fun index => p.store.sections[index]? with
  | some s => s.place
  | none => line.place

end Progress

/-! ## Lines -/

/-- Whether a line is a ruler: at least three times the same character. -/
def isRuler (c : Char) (text : List Char) : Bool := 3 ≤ text.length && text.all (· == c)

/-- The list of indexes between brackets. -/
def bracketed? (text : List Char) : Bool := text.head? == some '[' && text.getLast? == some ']'

/-- A text without all brackets around it. -/
def dropBrackets (text : List Char) : List Char :=
  Text.dropEndWhile (· == ']') (text.dropWhile (· == '['))

/-- The name and the tags of a section.  A header without tags names the section
and its tags at once. -/
def readHeader (text : String) : String × List String :=
  let cs := text.toList
  let (name, tags) :=
    match Text.splitOnce ['|'] cs with
    | some (name, tags) => (Text.trim name, tags)
    | none => (cs, cs)
  let tags := ((Text.splitAt (· == ',') tags).map Text.trim).filter fun t => !t.isEmpty
  (String.ofList name, tags.map String.ofList)

/-- The name, the kind and the selector of a definition. -/
def readDefinition (text : String) : Except Fault (List Char × Locator) :=
  let (name, rest) := Text.firstWord text.toList
  let (kind, selector) := Text.firstWord rest
  if kind.isEmpty || selector.isEmpty then .error (.missingLocator (String.ofList name))
  else
    match SelectorKind.ofWord? (String.ofList kind) with
    | some kind => .ok (name, ⟨kind, String.ofList selector, none⟩)
    | none => .error (.unknownSelectorKind (String.ofList kind))

/-- The name and the value of a variable. -/
def readAssignment (text : String) : Except Fault (String × Value) :=
  let (name, value) := Text.firstWord text.toList
  if name.isEmpty then .error .missingVariable
  else .ok (String.ofList name, .ofLiteral (String.ofList value))

namespace Job

variable {π : Type} [Page π]

/-- The progress after the pending object block was completed. -/
def settle (j : Job π) (p : Progress) : Except LayoutError Progress :=
  match p.cursor.pending with
  | .object block => do
      let objects ← j.objectsOf p.store block
      let p := { p with cursor := { p.cursor with pending := .nothing } }
      return p.attach objects block.name.place
  | _ => .ok { p with cursor := { p.cursor with pending := .nothing } }

/-- The store after a definition.  A name that ends in a star stands for a group:
one object for every match on the page, and none without a page. -/
def define (j : Job π) (s : Store) (line : Line) : Except LayoutError Store := do
  let text ← j.substitute s none line.place line.text
  let declared : Except Fault Store := do
    let (name, locator) ← readDefinition text
    match Text.dropSuffix? ['*'] name, j.page with
    | none, _ => s.declare (String.ofList name) locator
    | some _, none => return s
    | some stem, some page =>
        s.declareGroup (String.ofList stem) locator 1 (Page.count page locator)
  declared.mapError (.fault · line.place)

/-- The store after a variable was set. -/
def assign (s : Store) (place : Place) (definition : String) : Except LayoutError Store := do
  let (name, value) ← (readAssignment definition).mapError (.fault · place)
  return s.assign name value

/-- The store after a script. -/
def loadScript (j : Job π) (s : Store) (requested : String) (place : Place) :
    Except LayoutError Store :=
  let path := s.trail.resolve requested
  match j.source.read path with
  | .error reason => .error (.unreadable path reason (some place))
  | .ok text =>
      if s.trail.hasLoaded (fileIdentity path text) then .ok s
      else
        let s := { s with trail := s.trail.mark (fileIdentity path text) }
        match j.evaluator.definitions path text (j.scope s none) with
        | .error cause => .error (.evaluation (.badScript path cause) place)
        | .ok definitions => .ok { s with values := s.values.insertAll definitions }

/-! ## Opening lines -/

/-- The progress after a part of a conditional. -/
def controlled (p : Progress) (place : Place) : Directive → Except Fault Progress
  | .ifHolds argument =>
      if p.cursor.conditional.isSome then .error .nestedBlock
      else do
        let inverted ← Directive.readInversion Directive.ifWord argument
        return { p with
          cursor := { p.cursor with conditional := some (.start inverted place) } }
  | .orHolds argument => do
      let inverted ← Directive.readInversion Directive.orWord argument
      let c ← OpenConditional.expect p.cursor.conditional Directive.orWord [.conditions]
      return { p with
        cursor := { p.cursor with conditional := some (c.withCondition inverted) } }
  | .doRules => do
      let c ← OpenConditional.expect p.cursor.conditional Directive.doWord [.conditions]
      return { p with cursor := { p.cursor with conditional := some { c with branch := .body } } }
  | .otherwise => do
      let c ← OpenConditional.expect p.cursor.conditional Directive.otherwiseWord [.body]
      return { p with
        cursor := { p.cursor with conditional := some { c with branch := .otherwise } } }
  | .close => do
      let c ← OpenConditional.expect p.cursor.conditional Directive.endWord [.body, .otherwise]
      return p.close c
  | _ => .ok p

/-- The progress after a directive. -/
def directed (j : Job π) (load : Loader) (p : Progress) (place : Place) (text : String) :
    Except Abort Progress := do
  let directive ← p.store.attempt ((Directive.ofText text).mapError (.fault · place))
  match directive with
  | .importFile path => return { p with store := ← load path place p.store }
  | .loadScript path =>
      return { p with store := ← p.store.attempt (j.loadScript p.store path place) }
  | .setBlock => return { p with cursor := { p.cursor with pending := .assignments } }
  | .set definition =>
      return { p with store := ← p.store.attempt (assign p.store place definition) }
  | control => p.store.attempt ((controlled p place control).mapError (.fault · place))

/-- The progress after the header of a section. -/
def headed (p : Progress) (place : Place) (text : String) : Except Fault Progress :=
  if p.cursor.conditional.isSome then .error .sectionInBlock
  else
    let (name, tags) := readHeader text
    .ok (p.enterSection (.opened name tags place))

/-- The progress after a list of indexes. -/
def indexed (p : Progress) (place : Place) (text : String) : Except Fault Progress := do
  let indexes ← IndexList.read (String.ofList (dropBrackets text.toList))
  return { p with cursor := { p.cursor with indexes := some (indexes, place) } }

/-- The progress after a line that is not indented.  No object block is pending. -/
def opened (j : Job π) (load : Loader) (p : Progress) (line : Line) : Except Abort Progress :=
  let cs := line.text.toList
  let substitute (text : List Char) : Except Abort String :=
    p.store.attempt (j.substitute p.store none line.place (String.ofList text))
  let place (result : Except Fault Progress) : Except Abort Progress :=
    p.store.attempt (result.mapError (.fault · line.place))
  if isRuler '=' cs then
    .ok { p with cursor := { p.cursor with defining := !p.cursor.defining } }
  else if p.cursor.defining then do
    return { p with store := ← p.store.attempt (j.define p.store line) }
  else
    match cs with
    | '@' :: '@' :: rest => do
        let text ← substitute rest
        j.directed load p line.place (Text.trimmed text)
    | '@' :: rest => do
        let text ← substitute rest
        place (headed p line.place (Text.trimmed text))
    | cs =>
        if isRuler '-' cs then .ok p
        else if bracketed? cs then do
          let text ← substitute cs
          place (indexed p line.place text)
        else
          let block : ObjectBlock := ⟨line, p.cursor.indexes.map (·.1), []⟩
          .ok { p with cursor := { p.cursor with pending := .object block, indexes := none } }

/-- The progress after an indented line. -/
def continued (j : Job π) (p : Progress) (line : Line) : Except LayoutError Progress :=
  match p.cursor.pending with
  | .object block =>
      .ok { p with cursor := { p.cursor with pending := .object (block.withLine line) } }
  | .assignments => do
      let text ← j.substitute p.store none line.place line.text
      return { p with store := ← assign p.store line.place text }
  | .nothing =>
      if p.cursor.defining then do return { p with store := ← j.define p.store line }
      else .error (.fault .requirementWithoutObject (p.sectionPlace line))

/-! ## Files -/

/-- The progress after a line. -/
def feed (j : Job π) (load : Loader) (p : Progress) (line : Line) : Except Abort Progress :=
  if line.indented then p.store.attempt (j.continued p line)
  else do
    let p ← p.store.attempt (j.settle p)
    j.opened load p line

/-- The store after the last line of a file.  Nothing may be left open. -/
def finish (j : Job π) (p : Progress) : Except LayoutError Store := do
  let p ← j.settle p
  match p.cursor.conditional, p.cursor.indexes with
  | some c, _ => .error (.fault .unclosedBlock c.place)
  | none, some (_, place) => .error (.fault .unusedIndexes place)
  | none, none => return p.store

/-- The store after the lines of a file. -/
def readLines (j : Job π) (load : Loader) (s : Store) (lines : List Line) :
    Except Abort Store := do
  let p ← lines.foldlM (j.feed load) ⟨s, .start⟩
  p.store.attempt (j.finish p)

end Job

end PageLayout
