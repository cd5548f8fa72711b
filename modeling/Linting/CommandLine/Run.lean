import Linting.Collector
import Linting.CommandLine.Command
import Linting.CommandLine.Source
import Linting.Console
import Linting.Report
import Linting.SearchCache

/-! What a command prints and which status it ends with. -/

namespace Linting.CommandLine
set_option autoImplicit false

/-- Faults that end a command with nothing printed. -/
inductive Failure where
  | usage (error : UsageError)
  | source (fault : SourceFault)
  | collect (error : CollectError)
  | render (error : Console.RenderError)
  | search (error : SearchError)

/-- The end of a command. -/
structure Outcome where
  status : Nat
  output : String := ""
  failure : Option Failure := none

/-! ## Ends -/

def failureStatus : Nat := 1

def usageStatus : Nat := 2

def patternStatus : Nat := 2

/-- Whether a fault is laid to how the command was called. -/
def Failure.isUsage : Failure → Bool
  | usage .nullInPath => false
  | usage _ => true
  | source .notFile => true
  | _ => false

def Failure.message : Failure → String
  | usage error => error.message
  | source fault => fault.message
  | collect (.argument error) => error.message
  | collect (.compile error) => error.message
  | collect (.coordinate error) => error.message
  | render error => error.message
  | search error => error.message

def Failure.outcome (failure : Failure) : Outcome :=
  { status := if failure.isUsage then usageStatus else failureStatus, failure := some failure }

/-- A text without the sequences that switch styles. -/
def withoutStyles (chars : List Char) : List Char :=
  match chars with
  | [] => []
  | '\x1b' :: '[' :: rest =>
    match _h : rest.dropWhile fun c => c = ';' || c = '?' || c.isDigit with
    | c :: after => if c.isAlpha then withoutStyles after else '\x1b' :: withoutStyles ('[' :: rest)
    | [] => chars
  | c :: rest => c :: withoutStyles rest
termination_by chars.length
decreasing_by
  · have := (List.dropWhile_sublist (fun c => c = ';' || c = '?' || c.isDigit)
      (l := rest)).length_le
    simp_all
    omega
  · simp
  · simp

/-- A text printed on a line of its own. Only a terminal is sent what switches styles. -/
def printed (onTerminal : Bool) (text : String) : String :=
  (if onTerminal then text else String.ofList (withoutStyles text.toList)) ++ "\n"

/-! ## Commands -/

namespace ParseCommand

/-- The status that tells whether anything was found. -/
def statusOf (diagnostics : List Diagnostic) : Nat := if diagnostics.isEmpty then 0 else 1

def coloured (s : Surroundings) (c : ParseCommand) : Bool :=
  Console.usesStyles s.onTerminal c.colour

def present (s : Surroundings) (c : ParseCommand) (diagnostics : List Diagnostic) :
    Except Failure String :=
  if c.json then
    match report diagnostics with
    | some text => .ok (printed s.onTerminal text)
    | none => .error (.render .unwritable)
  else if diagnostics.isEmpty then
    .ok (Console.Status.ok.line "No diagnostics found" c.emoji (c.coloured s))
  else (Console.render s.literal (c.coloured s) diagnostics).mapError .render

/-- The end of the command for the text of a tool's output. A pattern that is refused is told on a
line of its own. -/
def outcomeFor (s : Surroundings) (c : ParseCommand) (data : String) : Outcome :=
  match parse data c.pattern { flags := c.flags, filePath := c.filePath } with
  | .error (.compile (.invalid error pattern flags)) =>
    { status := patternStatus
      output := Console.Status.fail.line (Pattern.CompileError.invalid error pattern flags).message
        c.emoji (c.coloured s) }
  | .error error => (Failure.collect error).outcome
  | .ok diagnostics =>
    match c.present s diagnostics with
    | .error failure => failure.outcome
    | .ok output => { status := statusOf diagnostics, output }

def run (s : Surroundings) (c : ParseCommand) : Outcome :=
  match c.source with
  | none => c.outcomeFor s s.inputText
  | some source =>
    match s.fileText source with
    | .error fault => (Failure.source fault).outcome
    | .ok data => c.outcomeFor s data

end ParseCommand

namespace FindCommand

/-- The path that the command asks for, if there is one. -/
def found (readable : String → Bool) (cwd : Path) (env : Environment) (c : FindCommand) :
    Except SearchError (Option String) :=
  let directory := Value.path c.directory
  let names := Value.list (c.names.map .text)
  if c.cached then (findCached readable cwd env none {} directory names).1
  else find readable cwd directory names

def run (s : Surroundings) (c : FindCommand) : Outcome :=
  match c.found (s.tree.isReadable s.cwd) s.directory s.env with
  | .error error => (Failure.search error).outcome
  | .ok (some path) => { status := 0, output := printed s.onTerminal path }
  | .ok none =>
    let names := ", ".intercalate c.names
    { status := 1
      output := Console.Status.fail.line
        ("None of " ++ names ++ " found above " ++ c.directory.toString) c.emoji
        (Console.usesStyles s.onTerminal none) }

end FindCommand

def helpText : String := "\n".intercalate
  ["Usage: linting [--verbose] COMMAND [ARGS]...", "",
    "Turn linter output into diagnostics and locate project configuration.", "", "Commands:",
    "  parse PATTERN [FILE]        Parse tool output into diagnostics; exits 1 when any are found.",
    "  find DIRECTORY NAMES...     Print the nearest ancestor file matching one of NAMES.", ""]

/-- Runs the command that the arguments ask for. -/
def run (s : Surroundings) (args : List String) : Outcome :=
  match Command.ofArguments args with
  | .error error => (Failure.usage error).outcome
  | .ok .help => { status := 0, output := helpText }
  | .ok (.parse command) => command.run s
  | .ok (.find command) => command.run s

end Linting.CommandLine
