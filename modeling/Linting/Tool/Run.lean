import Linting.FileTree
import Linting.Tool.Lookup
import Linting.Tool.Outcome

/-! Running a tool. A request is checked and its executable found before anything starts; how
processes run is a parameter. -/

namespace Linting.Tool
set_option autoImplicit false

/-- What a request may say besides what is to run. The variables are added to those of the
environment. -/
structure Options where
  input : Option String := none
  cwd : Option String := none
  env : Option Environment := none
  timeout : Option Number.Binary64 := none
  ignoresStatus : Bool := false
deriving DecidableEq, Repr

/-- A process that is to start. -/
structure Launch where
  argv : List String
  input : Option String
  cwd : Option String
  env : Environment
  limit : Option Number.Binary64
deriving DecidableEq, Repr

/-! ## Faults -/

/-- A limit that no clock can keep. -/
inductive LimitFault where
  | notNumber
  | infinite
  | tooLarge
  | beyondClock
deriving DecidableEq, Repr

def LimitFault.message : LimitFault → String
  | notNumber => "cannot convert float NaN to integer"
  | infinite => "cannot convert float infinity to integer"
  | tooLarge => "timeout is too large"
  | beyondClock => "timestamp too large to convert to C _PyTime_t"

inductive LaunchError where
  | null
  | variableName
  | file (error : FileError)
  | limit (fault : LimitFault)
deriving DecidableEq, Repr

def LaunchError.message : LaunchError → String
  | null => Path.nullMessage
  | variableName => "illegal environment variable name"
  | file error => error.message
  | limit fault => fault.message

inductive RunError where
  | request (error : RequestError)
  | notOnPath (command : String)
  | settings (error : ConfigError)
  | launch (error : LaunchError)
  | failed (failure : Failure)
deriving DecidableEq, Repr

def RunError.message : RunError → String
  | request error => error.message
  | notOnPath command => "Executable '" ++ command ++ "' was not found on PATH"
  | settings error => error.message
  | launch error => error.message
  | failed failure => failure.message

/-! ## Preparing -/

namespace Launch

/-- Whether the texts of a launch can be handed to a process. -/
def check (l : Launch) : Except LaunchError Unit :=
  let texts := l.argv ++ l.cwd.toList ++ l.env.flatMap fun (name, value) => [name, value]
  if l.env.any fun (name, _) => name.toList.contains '=' then .error .variableName
  else if texts.any Path.hasNull then .error .null
  else .ok ()

/-- The longest time that is counted, in thousandths of a millionth of a second. -/
def longestTime : Nat := Nat.pow 2 63 - 1

/-- The longest limit, in thousandths of a second. -/
def longestLimit : Nat := Nat.pow 2 31 - 1

def limitFault? : Number.Binary64 → Option LimitFault
  | .nan => some .notNumber
  | .infinite false => some .infinite
  | .infinite true => none
  | .finite true _ => none
  | .finite false units =>
    if longestTime * Number.Binary64.unitsPerOne < 1000000000 * units then some .beyondClock
    else if longestLimit * Number.Binary64.unitsPerOne < 1000 * units then some .tooLarge
    else none

end Launch

def merged (env : Environment) (added : Option Environment) : Environment :=
  (added.getD []).foldl (fun env (name, value) => env.put name value) env

/-- The executable and the arguments of a request. -/
def Request.argv? (executable : String → Bool) (env : Environment) (r : Request) :
    Except RunError (List String) :=
  match executable? executable env r.command with
  | some head => .ok (head :: r.args)
  | none => .error (.notOnPath r.command)

/-- The launch that a request asks for. Without a timeout of its own it has that of the settings,
which are read once the executable is found. -/
def prepare (executable : String → Bool) (env : Environment) (kept : Settings.Kept)
    (request : Except RequestError Request) (options : Options) :
    Except RunError (Stream × Launch) × Settings.Kept :=
  match request with
  | .error e => (.error (.request e), kept)
  | .ok r =>
    match r.argv? executable env with
    | .error e => (.error e, kept)
    | .ok argv =>
      let launch := fun limit => (r.stream,
        (⟨argv, options.input, options.cwd, merged env options.env, limit⟩ : Launch))
      match options.timeout with
      | some limit => (.ok (launch (some limit)), kept)
      | none =>
        match Settings.get kept env with
        | (.error e, kept) => (.error (.settings e), kept)
        | (.ok settings, kept) => (.ok (launch settings.execTimeout), kept)

/-! ## Running -/

/-- Runs a request; processes change a state. -/
def run {σ : Type} (start : Launch → σ → Except LaunchError Ended × σ)
    (executable : String → Bool) (env : Environment) (kept : Settings.Kept) (state : σ)
    (request : Except RequestError Request) (options : Options) :
    Except RunError Answer × Settings.Kept × σ :=
  match prepare executable env kept request options with
  | (.error e, kept) => (.error e, kept, state)
  | (.ok (stream, launch), kept) =>
    match start launch state with
    | (.error e, state) => (.error (.launch e), kept, state)
    | (.ok ended, state) =>
      let answer := ended.outcome.answer launch.argv stream options.ignoresStatus
      (answer.mapError .failed, kept, state)

end Linting.Tool
