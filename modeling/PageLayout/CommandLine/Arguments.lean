import PageLayout.CommandLine.Parameter

/-!
# The arguments of the program

The program checks a page or prints what a page description says.

* `check FILE --page FILE` compiles a description and checks a page.
* `parse FILE` compiles a description and prints it.
* `help` and a name of a command ask for help.

Some options can stand before the command as well as after it.  After it they
count more.
-/

namespace PageLayout.CommandLine

/-! ## What is asked for -/

/-- How much is printed. -/
inductive Verbosity where
  | quiet
  | normal
  | verbose
  | debug
deriving DecidableEq, Repr, Inhabited

namespace Verbosity

/-- All levels. -/
def all : List Verbosity := [.quiet, .normal, .verbose, .debug]

/-- The word for a level. -/
def word : Verbosity → String
  | .quiet => "Quiet"
  | .normal => "Normal"
  | .verbose => "Verbose"
  | .debug => "Debug"

/-- The level that a word stands for. -/
def ofWord? (w : String) : Option Verbosity := all.find? fun v => v.word == w

/-- Whether only what went wrong is printed. -/
def isQuiet (v : Verbosity) : Bool := v == .quiet

/-- Whether more than usual is printed. -/
def isVerbose (v : Verbosity) : Bool := v == .verbose || v == .debug

/-- The least level of what is logged. -/
def logLevel : Verbosity → String
  | .quiet => "error"
  | .normal => "warn"
  | .verbose => "info"
  | .debug => "debug"

end Verbosity

/-- When colours are used. -/
inductive ColorChoice where
  | auto
  | always
  | never
deriving DecidableEq, Repr, Inhabited

/-- The choice that a word stands for. -/
def ColorChoice.ofWord? (w : String) : Option ColorChoice :=
  if w == "auto" then some .auto
  else if w == "always" then some .always
  else if w == "never" then some .never
  else none

/-- The form of what is printed. -/
inductive Format where
  | text
  | json
deriving DecidableEq, Repr, Inhabited

/-- The form that a word stands for. -/
def Format.ofWord? (w : String) : Option Format :=
  if w == "text" then some .text else if w == "json" then some .json else none

/-- What a page description is compiled from. -/
structure Input where
  /-- The path of the description. -/
  path : String
  /-- Properties that lines can refer to, in order. -/
  properties : List (String × String)
  /-- The path of a file with settings. -/
  settings : Option String
deriving DecidableEq, Repr, Inhabited

/-- What has to be done. -/
inductive Task where
  /-- Check a page. -/
  | check (input : Input) (page : String) (tags : List String) (format : Format)
  /-- Print what a description says. -/
  | outline (input : Input) (page : Option String) (format : Format)
deriving DecidableEq, Repr, Inhabited

/-- What the program is asked for. -/
structure Arguments where
  /-- How much is printed. -/
  verbosity : Verbosity
  /-- When colours are used. -/
  color : ColorChoice
  /-- What has to be done. -/
  task : Task
deriving DecidableEq, Repr, Inhabited

/-! ## Values -/

/-- The name and the value of a property.  The name has more than blanks. -/
def readProperty? (text : String) : Option (String × String) := do
  let (name, value) ← Text.splitOnce ['='] text.toList
  let name := Text.trim name
  if name.isEmpty then none else some (String.ofList name, String.ofList value)

/-- What is wrong with a path. -/
def pathFault? (text : String) : Option UsageFault :=
  if text.isEmpty then some .invalidValue else none

/-- What is wrong with a word, if there is nothing that it stands for. -/
def wordFault? {α : Type} (meaning : Option α) : Option UsageFault :=
  if meaning.isSome then none else some .invalidValue

/-- What is wrong with a property. -/
def propertyFault? (text : String) : Option UsageFault :=
  if (readProperty? text).isSome then none else some .malformedValue

/-! ## Parameters -/

/-- The name of the command that checks a page. -/
def checkName : String := "check"

/-- The name of the command that prints what a description says. -/
def parseName : String := "parse"

/-- The name of the command that asks for help. -/
def helpName : String := "help"

/-- The names of all commands. -/
def commandNames : List String := [checkName, parseName, helpName]

/-- The options that can stand before and after the name of a command. -/
def generalOptions : List Parameter :=
  [⟨"verbose", some 'v', .count, fun _ => none⟩,
   ⟨"quiet", some 'q', .flag, fun _ => none⟩,
   ⟨"color", none, .single, fun w => wordFault? (ColorChoice.ofWord? w)⟩,
   ⟨"help", some 'h', .stop .help, fun _ => none⟩,
   ⟨"version", some 'V', .stop .version, fun _ => none⟩]

/-- The options of every command that compiles a description. -/
def inputOptions : List Parameter :=
  [⟨"property", some 'P', .many none, propertyFault?⟩,
   ⟨"config", some 'c', .single, pathFault?⟩,
   ⟨"page", some 'p', .single, pathFault?⟩,
   ⟨"format", some 'f', .single, fun w => wordFault? (Format.ofWord? w)⟩]

/-- The tags that a page is checked for. -/
def tagsOption : Parameter := ⟨"tags", some 't', .many (some ','), fun _ => none⟩

/-- The path of the description. -/
def fileWord : Parameter := ⟨"spec", none, .single, pathFault?⟩

/-- What the program takes before the name of a command. -/
def program : Command := ⟨generalOptions, [], commandNames⟩

/-- What a command takes. -/
def commandOf (name : String) : Command :=
  let own := if name == checkName then [tagsOption] else []
  ⟨generalOptions ++ inputOptions ++ own, [fileWord], []⟩

/-! ## Reading -/

/-- The fault of asking for help.  The words are names of commands, each one of
the command before it. -/
def helpFault : List String → UsageFault
  | [] => .help
  | [name] => if commandNames.contains name then .help else .unknownCommand
  | _ => .unknownCommand

/-- What a command is asked to do. -/
def taskOf (name : String) (g : Given) : Except UsageFault Task :=
  match g.first? fileWord.name with
  | none => .error .missingArgument
  | some path =>
      let input : Input :=
        ⟨path, (g.all "property").filterMap readProperty?, g.first? "config"⟩
      let format := ((g.first? "format").bind Format.ofWord?).getD .text
      if name == checkName then
        match g.first? "page" with
        | none => .error .missingArgument
        | some page => .ok (.check input page (g.all tagsOption.name) format)
      else .ok (.outline input (g.first? "page") format)

/-- How much is printed, from what was given before and after the command. -/
def verbosityOf (before after : Given) : Verbosity :=
  let count := (if after.has "verbose" then after else before).all "verbose"
  if before.has "quiet" || after.has "quiet" then .quiet
  else
    match count.length with
    | 0 => .normal
    | 1 => .verbose
    | _ => .debug

/-- When colours are used, from what was given before and after the command. -/
def colorOf (before after : Given) : ColorChoice :=
  (((after.first? "color").or (before.first? "color")).bind ColorChoice.ofWord?).getD .auto

/-- What the program is asked for by its arguments. -/
def Arguments.ofList (arguments : List String) : Except UsageFault Arguments := do
  let (before, rest) ← program.accept (.start program) arguments
  match rest with
  | none => do
      let before ← before.settle
      .error (if before.values.isEmpty then .noArguments else .noCommand)
  | some (name, rest) =>
      if name == helpName then .error (helpFault rest)
      else do
        let command := commandOf name
        let (after, _) ← command.accept (.start command) rest
        let after ← after.settle
        let task ← taskOf name after
        let before ← before.settle
        return ⟨verbosityOf before after, colorOf before after, task⟩

end PageLayout.CommandLine
