import Linting.CommandLine.Options
import Linting.Path

/-! The commands: one reads the output of a tool, one finds a file. -/

namespace Linting.CommandLine
set_option autoImplicit false

/-- Reads diagnostics out of a file, or out of the input if none is named. -/
structure ParseCommand where
  pattern : String
  source : Option String := none
  flags : String := ""
  filePath : Option String := none
  json : Bool := false
  colour : Bool := true
  emoji : Bool := true
deriving DecidableEq, Repr

/-- Finds the nearest file that has one of the names. -/
structure FindCommand where
  directory : Path
  names : List String
  cached : Bool := true
  emoji : Bool := true
deriving DecidableEq, Repr

inductive Command where
  | help
  | parse (command : ParseCommand)
  | find (command : FindCommand)
deriving DecidableEq, Repr

/-- Choices, and whether help was asked for among them. -/
structure Choices (σ : Type) where
  command : σ
  help : Bool := false

section

variable {σ : Type}

def switch (set : σ → σ) : Effect (Choices σ) :=
  .switch fun c => { c with command := set c.command }

def value (set : String → σ → σ) : Effect (Choices σ) :=
  .value fun text c => { c with command := set text c.command }

def helpOption : String × Effect (Choices σ) := ("--help", .switch fun c => { c with help := true })

end

/-! ## The options of each command -/

def generalOptions : OptionTable (Choices Unit) :=
  [("--verbose", switch id), ("-v", switch id), helpOption]

def parseOptions : OptionTable (Choices ParseCommand) :=
  [("--flags", value fun flags c => { c with flags }),
    ("--file-path", value fun file c => { c with filePath := some file }),
    ("--json", switch fun c => { c with json := true }),
    ("--color", switch fun c => { c with colour := true }),
    ("--no-color", switch fun c => { c with colour := false }),
    ("--emoji", switch fun c => { c with emoji := true }),
    ("--no-emoji", switch fun c => { c with emoji := false }), helpOption]

def findOptions : OptionTable (Choices FindCommand) :=
  [("--no-cache", switch fun c => { c with cached := false }),
    ("--emoji", switch fun c => { c with emoji := true }),
    ("--no-emoji", switch fun c => { c with emoji := false }), helpOption]

/-! ## Operands -/

def ParseCommand.withOperands (c : ParseCommand) : List String → Except UsageError ParseCommand
  | [] => .error (.missingOperand "PATTERN")
  | [pattern] => .ok { c with pattern }
  | pattern :: source :: rest =>
    if Path.hasNull source then .error .nullInPath
    else
      match rest with
      | [] => .ok { c with pattern, source := some source }
      | surplus :: _ => .error (.surplusOperand surplus)

def FindCommand.withOperands (c : FindCommand) : List String → Except UsageError FindCommand
  | [] => .error (.missingOperand "DIRECTORY")
  | directory :: names =>
    if Path.hasNull directory then .error .nullInPath
    else if names.isEmpty then .error (.missingOperand "NAMES...")
    else .ok { c with directory := .ofString directory, names }

/-! ## Commands -/

/-- Reads the arguments of a command. Help is given before the operands are looked at. -/
def readCommand {σ : Type} (table : OptionTable (Choices σ)) (start : σ)
    (withOperands : σ → List String → Except UsageError σ) (wrap : σ → Command)
    (args : List String) : Except UsageError Command := do
  let (choices, operands) ← allOptions table ⟨start, false⟩ args
  if choices.help then return .help
  return wrap (← withOperands choices.command operands)

def Command.ofArguments (args : List String) : Except UsageError Command := do
  let (choices, rest) ← leadingOptions generalOptions ⟨(), false⟩ args
  if choices.help then return .help
  match rest with
  | [] => throw .missingCommand
  | "parse" :: rest => readCommand parseOptions { pattern := "" } (·.withOperands) .parse rest
  | "find" :: rest =>
    readCommand findOptions { directory := ⟨.none, []⟩, names := [] } (·.withOperands) .find rest
  | name :: _ => throw (.unknownCommand name)

end Linting.CommandLine
