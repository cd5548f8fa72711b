import Linting.Fields
import Linting.ParseOptions
import Linting.Pattern.Basic

/-! Collecting the diagnostics in a text: one for each match of a pattern, in the order of the
matches. Arguments are checked before anything is compiled. -/

namespace Linting
set_option autoImplicit false

/-- Why an argument is refused. -/
inductive ArgumentError where
  | data
  | pattern
  | options (error : OptionsError)
deriving DecidableEq, Repr

def ArgumentError.message : ArgumentError → String
  | data => "Invalid or no `data` provided"
  | pattern => "Invalid or no `regex` provided"
  | options error => error.message

inductive CollectError where
  | argument (error : ArgumentError)
  | compile (error : Pattern.CompileError)
  | coordinate (error : CoordinateError)
deriving DecidableEq, Repr

/-- Arguments that have been checked. -/
structure CollectRequest where
  data : String
  pattern : String
  options : ParseOptions
deriving DecidableEq, Repr

namespace CollectRequest

/-- Checks the arguments; of several faults the first in the order data, pattern, options is
reported. -/
def check (data pattern options : Value) : Except ArgumentError CollectRequest :=
  match data, pattern with
  | .text data, .text pattern =>
    (ParseOptions.ofValue options).mapError .options |>.map fun options =>
      { data, pattern, options }
  | .text _, _ => .error .pattern
  | _, _ => .error .data

end CollectRequest

/-- The diagnostic of a match. -/
def diagnosticOf (p : Pattern) (text : Array Char) (filePath : Option String) (m : Regex.Match) :
    Except CoordinateError Diagnostic :=
  (MatchFields.ofGroups (m.captures p.expression.names text) filePath).diagnostic

/-- The diagnostics of all matches; the first coordinate that cannot be read ends the walk. -/
def diagnosticsIn (p : Pattern) (data : String) (filePath : Option String) :
    Except CoordinateError (List Diagnostic) :=
  let text := Pattern.textOf data
  (p.matchesIn text).mapM (diagnosticOf p text filePath)

def parse (data pattern : String) (options : ParseOptions) :
    Except CollectError (List Diagnostic) :=
  match Pattern.compile pattern options.flags with
  | .error e => .error (.compile e)
  | .ok p => (diagnosticsIn p data options.filePath).mapError .coordinate

/-- Collects diagnostics; the second part lists the patterns and flags handed to the compiler. -/
def collect (data pattern options : Value) :
    Except CollectError (List Diagnostic) × List (String × String) :=
  match CollectRequest.check data pattern options with
  | .error e => (.error (.argument e), [])
  | .ok request =>
    (parse request.data request.pattern request.options, [(request.pattern, request.options.flags)])

end Linting
