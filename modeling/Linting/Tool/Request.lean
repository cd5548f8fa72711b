import Linting.Value

/-! Requests to run a tool: a command, its arguments, and which of its streams is wanted. All three
are loose values, and they are checked in this order. -/

namespace Linting.Tool
set_option autoImplicit false

/-- What a request gets back. -/
inductive Stream where
  | output
  | error
  | both
deriving DecidableEq, Repr

namespace Stream

def named : List (String × Stream) := [("stdout", output), ("stderr", error), ("both", both)]

def ofName? (name : String) : Option Stream := named.lookup name

end Stream

inductive RequestFault where
  | command
  | args
  | entry
  | stream (shown : String)
deriving DecidableEq, Repr

def RequestFault.message : RequestFault → String
  | command => "Invalid or no `command` provided"
  | args => "Invalid `args` provided"
  | entry => "Every entry in `args` must be a string"
  | stream shown => "Invalid `stream` provided: " ++ shown

/-- Why no request came about: a fault, or a stream that can be neither looked up nor shown. -/
inductive RequestError where
  | refused (fault : RequestFault)
  | unhashable (value : Unhashable)
  | unwritable
deriving DecidableEq, Repr

def RequestError.message : RequestError → String
  | refused fault => fault.message
  | unhashable value => value.message
  | unwritable => Text.unwritableMessage

structure Request where
  command : String
  args : List String
  stream : Stream
deriving DecidableEq, Repr

namespace Request

def checkCommand : Value → Except RequestFault String
  | .text command => if command.isEmpty then .error .command else .ok command
  | _ => .error .command

def checkItems (args : Value) : Except RequestFault (List Value) :=
  match args.items? with
  | some items => .ok items
  | none => .error .args

def checkEntries (items : List Value) : Except RequestFault (List String) :=
  match Value.texts? items with
  | some args => .ok args
  | none => .error .entry

def checkStream (v : Value) : Except RequestError Stream :=
  match v.unhashable?, v.text?.bind Stream.ofName? with
  | some part, _ => .error (.unhashable part)
  | none, some stream => .ok stream
  | none, none => .error (if v.isShowable then .refused (.stream v.shown) else .unwritable)

def check (command args stream : Value) : Except RequestError Request := do
  let command ← (checkCommand command).mapError .refused
  let items ← (checkItems args).mapError .refused
  let args ← (checkEntries items).mapError .refused
  let stream ← checkStream stream
  return { command, args, stream }

/-! ## Scripts -/

/-- The program that runs scripts. -/
def interpreter : String := "node"

/-- A script as an argument. -/
def scriptText : Value → String
  | .text s => s
  | .path p => p.toString
  | v => v.shown

/-- A request that runs a script. That its arguments are a sequence is checked before all else. -/
def checkScript (script args stream : Value) : Except RequestError Request := do
  let items ← (checkItems args).mapError .refused
  if !script.isShowable then .error .unwritable
  else check (.text interpreter) (.list (.text (scriptText script) :: items)) stream

end Request

end Linting.Tool
