/-! Options among the arguments of a command. A long option starts with two dashes; a value follows
it as the next argument or after an equals sign. Short options are switches of one letter, and
several may share a dash. An argument of two dashes ends the options. -/

namespace Linting.CommandLine
set_option autoImplicit false

inductive UsageError where
  | unknownOption (name : String)
  | missingValue (name : String)
  | surplusValue (name : String)
  | missingOperand (name : String)
  | surplusOperand (text : String)
  | missingCommand
  | unknownCommand (name : String)
  | nullInPath
deriving DecidableEq, Repr

def UsageError.message : UsageError → String
  | unknownOption name => "No such option: " ++ name
  | missingValue name => "Option '" ++ name ++ "' requires an argument."
  | surplusValue name => "Option '" ++ name ++ "' does not take a value."
  | missingOperand name => "Missing argument '" ++ name ++ "'."
  | surplusOperand text => "Got unexpected extra argument (" ++ text ++ ")"
  | missingCommand => "Missing command."
  | unknownCommand name => "No such command '" ++ name ++ "'."
  | nullInPath => "embedded null byte"

/-- What an option does to the choices made so far. -/
inductive Effect (σ : Type) where
  | switch (set : σ → σ)
  | value (set : String → σ → σ)

/-- Options by name, dashes included. -/
abbrev OptionTable (σ : Type) := List (String × Effect σ)

variable {σ : Type}

/-- An argument up to its first equals sign, and what comes after it. -/
def splitValue (arg : String) : String × Option String :=
  let name := arg.toList.takeWhile (· ≠ '=')
  match arg.toList.drop name.length with
  | _ :: value => (String.ofList name, some (String.ofList value))
  | [] => (arg, none)

def isOption (arg : String) : Bool := arg.startsWith "-" && arg ≠ "-"

/-- Sets the switches named by the letters after a dash. -/
def setSwitches (table : OptionTable σ) (choices : σ) : List Char → Except UsageError σ
  | [] => .ok choices
  | letter :: rest =>
    match table.lookup (String.ofList ['-', letter]) with
    | some (.switch set) => setSwitches table (set choices) rest
    | _ => .error (.unknownOption (String.ofList ['-', letter]))

/-- Reads one option; the second part tells which arguments are left after it. -/
def readOption (table : OptionTable σ) (choices : σ) (arg : String) (rest : List String) :
    Except UsageError (σ × List String) :=
  if !arg.startsWith "--" then
    (setSwitches table choices (arg.toList.drop 1)).map (·, rest)
  else
    let (name, attached) := splitValue arg
    match table.lookup name, attached, rest with
    | none, _, _ => .error (.unknownOption name)
    | some (.switch _), some _, _ => .error (.surplusValue name)
    | some (.switch set), none, rest => .ok (set choices, rest)
    | some (.value set), some value, rest => .ok (set value choices, rest)
    | some (.value set), none, value :: rest => .ok (set value choices, rest)
    | some (.value _), none, [] => .error (.missingValue name)

theorem readOption_length {table : OptionTable σ} {choices choices' : σ} {arg : String}
    {rest rest' : List String} (h : readOption table choices arg rest = .ok (choices', rest')) :
    rest'.length ≤ rest.length := by
  unfold readOption at h
  split at h
  · cases hs : setSwitches table choices (arg.toList.drop 1) <;> simp_all [Except.map]
  · simp only at h
    split at h <;> simp_all

/-- Reads the options before the first operand. -/
def leadingOptions (table : OptionTable σ) (choices : σ) (args : List String) :
    Except UsageError (σ × List String) :=
  match args with
  | [] => .ok (choices, [])
  | arg :: rest =>
    if arg = "--" then .ok (choices, rest)
    else if !isOption arg then .ok (choices, arg :: rest)
    else
      match _h : readOption table choices arg rest with
      | .error e => .error e
      | .ok (choices, rest) => leadingOptions table choices rest
termination_by args.length
decreasing_by have := readOption_length _h; simp; omega

/-- Reads options wherever they stand; the second part holds the operands. -/
def allOptions (table : OptionTable σ) (choices : σ) (args : List String) :
    Except UsageError (σ × List String) :=
  match args with
  | [] => .ok (choices, [])
  | arg :: rest =>
    if arg = "--" then .ok (choices, rest)
    else if !isOption arg then
      (allOptions table choices rest).map fun (choices, operands) => (choices, arg :: operands)
    else
      match _h : readOption table choices arg rest with
      | .error e => .error e
      | .ok (choices, rest) => allOptions table choices rest
termination_by args.length
decreasing_by
  · simp
  · have := readOption_length _h; simp; omega

end Linting.CommandLine
