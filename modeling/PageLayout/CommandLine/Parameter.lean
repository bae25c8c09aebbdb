import PageLayout.CommandLine.Error
import PageLayout.Text.Blank

/-!
# Options and words

A command takes options and words.  An option has a long name after two hyphens
and perhaps a letter after one.  Letters can stand together after one hyphen.  A
value follows an option as the next argument, or at once: after an equals sign,
or right after a letter.  Two hyphens alone end the options.

`Command.accept` reads arguments up to a word that is the name of another
command.  The value of an option is looked at when the next option or word comes,
or at the end.  So an option that is not expected is found before a value in
front of it that is wrong.
-/

namespace PageLayout.CommandLine

/-! ## Parameters -/

/-- What an option or a word does. -/
inductive Role where
  /-- It is given at most once, without a value. -/
  | flag
  /-- It can be repeated, without a value. -/
  | count
  /-- It is given at most once, with a value. -/
  | single
  /-- It can be repeated, with values.  A separator can stand between them. -/
  | many (separator : Option Char)
  /-- It ends everything. -/
  | stop (fault : UsageFault)
deriving DecidableEq, Repr

/-- An option or a word that a command takes. -/
structure Parameter where
  /-- The name, which is also the long name of an option. -/
  name : String
  /-- The letter of an option. -/
  letter : Option Char
  /-- What it does. -/
  role : Role
  /-- What is wrong with a value. -/
  fault? : String → Option UsageFault := fun _ => none

/-- Whether a value belongs to a parameter. -/
def Parameter.takesValue (p : Parameter) : Bool :=
  match p.role with
  | .single => true
  | .many _ => true
  | _ => false

/-- What a command takes. -/
structure Command where
  /-- The options. -/
  options : List Parameter
  /-- The words, in order. -/
  words : List Parameter
  /-- The names of the commands that can follow. -/
  subcommands : List String

/-! ## Values -/

/-- What was given to a command. -/
structure Given where
  /-- The names of parameters with their values, in order. -/
  values : List (String × String)
  /-- The last parameter with a value, and the value if it was given. -/
  pending : Option (Parameter × Option String)
  /-- The words that are still expected. -/
  expected : List Parameter
  /-- Whether the options are over. -/
  wordsOnly : Bool

namespace Given

/-- What is given before any argument. -/
def start (c : Command) : Given := ⟨[], none, c.words, false⟩

/-- Whether the next argument is the value of an option, if it is no option
itself. -/
def awaits (g : Given) : Bool :=
  match g.pending with
  | some (_, none) => true
  | _ => false

/-- Whether a parameter was given. -/
def has (g : Given) (name : String) : Bool := g.values.any fun v => v.1 == name

/-- All values of a parameter. -/
def all (g : Given) (name : String) : List String :=
  (g.values.filter fun v => v.1 == name).map (·.2)

/-- The first value of a parameter. -/
def first? (g : Given) (name : String) : Option String := (g.all name).head?

/-- What is given with the values of one more parameter. -/
def add (g : Given) (p : Parameter) (values : List String) : Except UsageFault Given :=
  match values.findSome? p.fault? with
  | some fault => .error fault
  | none => .ok { g with values := g.values ++ values.map fun v => (p.name, v) }

/-- What is given with one more parameter, and a value if it has one. -/
def record (g : Given) (p : Parameter) (value : Option String) : Except UsageFault Given :=
  match p.role, value with
  | .stop fault, _ => .error fault
  | .count, _ => g.add p [""]
  | .flag, _ => if g.has p.name then .error .repeated else g.add p [""]
  | .single, none => .error .invalidValue
  | .single, some value => if g.has p.name then .error .repeated else g.add p [value]
  | .many _, none => .error .invalidValue
  | .many none, some value => g.add p [value]
  | .many (some separator), some value =>
      g.add p ((Text.splitAt (· == separator) value.toList).map String.ofList)

/-- What is given when the last value has been looked at. -/
def settle (g : Given) : Except UsageFault Given :=
  match g.pending with
  | some (p, value) => { g with pending := none }.record p value
  | none => .ok g

/-- What is given with one more parameter, after the last value has been looked
at. -/
def take (g : Given) (p : Parameter) (value : Option String) : Except UsageFault Given := do
  let g ← g.settle
  g.record p value

/-- What is given with a parameter whose value has not been looked at. -/
def await (g : Given) (p : Parameter) (value : Option String) : Except UsageFault Given := do
  let g ← g.settle
  return { g with pending := some (p, value) }

end Given

/-! ## Arguments -/

namespace Command

/-- What is given after the long name of an option, and the value after its equals
sign. -/
def long (c : Command) (g : Given) (name : String) (value : Option String) :
    Except UsageFault Given :=
  match c.options.find? fun p => p.name == name with
  | none => .error .unknownArgument
  | some p =>
      if p.takesValue then
        match value with
        | some value => g.take p (some value)
        | none => g.await p none
      else if value.isSome then .error .unwantedValue
      else g.take p none

/-- What is given after letters of options.  The text after the letter of an
option with a value is that value. -/
def letters (c : Command) (g : Given) : List Char → Except UsageFault Given
  | [] => .ok g
  | x :: rest =>
      match c.options.find? fun p => p.letter == some x with
      | none => .error .unknownArgument
      | some p =>
          if p.takesValue then
            match rest with
            | [] => g.await p none
            | '=' :: value => g.take p (some (String.ofList value))
            | value => g.take p (some (String.ofList value))
          else do
            let g ← g.take p none
            c.letters g rest

/-- What is given after a word. -/
def word (c : Command) (g : Given) (text : String) : Except UsageFault Given :=
  match g.expected with
  | p :: rest => do
      let g ← g.await p (some text)
      return { g with expected := rest }
  | [] =>
      if c.subcommands.isEmpty || (g.wordsOnly && c.subcommands.contains text) then
        .error .unknownArgument
      else .error .unknownCommand

/-- What is given after an argument that is no name of a command. -/
def argument (c : Command) (g : Given) (text : String) : Except UsageFault Given :=
  if g.wordsOnly then c.word g text
  else
    match text.toList with
    | ['-', '-'] => .ok { g with wordsOnly := true }
    | '-' :: '-' :: option =>
        match Text.splitOnce ['='] option with
        | some (name, value) => c.long g (String.ofList name) (some (String.ofList value))
        | none => c.long g (String.ofList option) none
    | '-' :: x :: option => c.letters g (x :: option)
    | _ =>
        match g.pending with
        | some (p, none) => .ok { g with pending := some (p, some text) }
        | _ => c.word g text

/-- What is given by some arguments, up to the name of another command.  That name
comes with the arguments after it. -/
def accept (c : Command) (g : Given) :
    List String → Except UsageFault (Given × Option (String × List String))
  | [] => .ok (g, none)
  | text :: rest =>
      if !g.wordsOnly && !g.awaits && c.subcommands.contains text then .ok (g, some (text, rest))
      else do
        let g ← c.argument g text
        c.accept g rest

end Command

end PageLayout.CommandLine
