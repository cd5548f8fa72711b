import Linting.Fault
import Linting.Number.Decimal
import Linting.Text.Boolean

/-! Settings, read from three variables of the environment. -/

namespace Linting
set_option autoImplicit false

/-- The variables of the environment. -/
abbrev Environment := List (String × String)

namespace Environment

def get? (env : Environment) (name : String) : Option String := env.lookup name

def erase (env : Environment) (name : String) : Environment := env.filter (·.1 ≠ name)

def put (env : Environment) (name value : String) : Environment := (name, value) :: env.erase name

end Environment

structure Settings where
  tempPrefix : String := "linterkit_"
  execTimeout : Option Number.Binary64 := none
  findCacheEnabled : Bool := true
deriving DecidableEq, Repr

inductive ConfigError where
  | badNumber (text : String)
  | badBoolean (text : String)
  | faulty (faults : List Fault)
deriving DecidableEq, Repr

namespace Settings

def prefixVariable : String := "LINTERKIT_TEMP_PREFIX"

def timeoutVariable : String := "LINTERKIT_EXEC_TIMEOUT"

def cacheVariable : String := "LINTERKIT_FIND_CACHE"

end Settings

def ConfigError.message : ConfigError → String
  | badNumber text => Settings.timeoutVariable ++ " must be a number, got " ++ Text.quoted text
  | badBoolean text => Settings.cacheVariable ++ ": " ++ Text.booleanMessage text
  | faulty faults => Fault.summary faults "Settings"

namespace Settings

/-! ## Single settings -/

/-- A variable without the white space around it; none if nothing is left. -/
def trimmed? (env : Environment) (name : String) : Option String :=
  let text := Unicode.trim ((env.get? name).getD "").toList
  if text.isEmpty then none else some (String.ofList text)

def readTimeout (env : Environment) : Except ConfigError (Option Number.Binary64) :=
  match trimmed? env timeoutVariable with
  | none => .ok none
  | some text =>
    match Number.read? text.toList with
    | some number => .ok (some number)
    | none => .error (.badNumber text)

def readCache (env : Environment) : Except ConfigError Bool :=
  match trimmed? env cacheVariable with
  | none => .ok true
  | some text =>
    match Text.readBoolean? text with
    | some b => .ok b
    | none => .error (.badBoolean text)

/-! ## Conditions -/

def prefixFault? (text : String) : Option FaultKind :=
  if text.isEmpty then some .emptyText
  else if text.toList.contains '/' then
    some (.refused "temp_prefix must not contain path separators")
  else none

def timeoutFault? : Option Number.Binary64 → Option FaultKind
  | some number => if number.isNonnegative then none else some .negative
  | none => none

/-- The faults of settings, by field. -/
def faults (s : Settings) : List Fault :=
  let fault := fun (name : String) (kind : FaultKind) => (⟨[.key name], kind⟩ : Fault)
  ((prefixFault? s.tempPrefix).map (fault "temp_prefix")).toList
    ++ ((timeoutFault? s.execTimeout).map (fault "exec_timeout")).toList

/-! ## All settings -/

/-- Reads the settings. A timeout that is no number is reported first, then a bad truth value,
then the conditions that fail. -/
def load (env : Environment) : Except ConfigError Settings :=
  match readTimeout env, readCache env with
  | .error e, _ => .error e
  | .ok _, .error e => .error e
  | .ok execTimeout, .ok findCacheEnabled =>
    let tempPrefix := (env.get? prefixVariable).getD ({} : Settings).tempPrefix
    let settings : Settings := { tempPrefix, execTimeout, findCacheEnabled }
    if settings.faults.isEmpty then .ok settings else .error (.faulty settings.faults)

/-! ## Settings kept -/

/-- The settings that were read last, until they are forgotten. -/
abbrev Kept := Option Settings

/-- The settings kept, or else those of the environment, which are then kept. -/
def get (kept : Kept) (env : Environment) : Except ConfigError Settings × Kept :=
  match kept with
  | some settings => (.ok settings, kept)
  | none =>
    match load env with
    | .ok settings => (.ok settings, some settings)
    | .error e => (.error e, none)

end Settings

end Linting
