import Linting.Number.Binary64
import Linting.Text.Newline
import Linting.Text.Utf8
import Linting.Tool.Request
import Linting.Unicode.Blank

/-! What a tool left behind, and whether it succeeded. Whoever asks for the output of a tool gets it
only if the tool ended with status zero and wrote nothing but white space to its error stream,
unless its status is to be ignored. -/

namespace Linting.Tool
set_option autoImplicit false

/-- The bytes that a tool wrote. -/
structure Captured where
  output : List UInt8 := []
  error : List UInt8 := []
deriving DecidableEq, Repr

/-- How a tool ended. A status below zero is the number of a signal. -/
inductive Ended where
  | finished (status : Int) (captured : Captured)
  | timedOut (limit : Number.Binary64) (captured : Captured)
deriving DecidableEq, Repr

structure Outcome where
  output : String
  error : String
  status : Int
deriving DecidableEq, Repr

namespace Ended

def timeoutStatus : Int := 124

def timeoutNotice (limit : Number.Binary64) : String :=
  "Command timed out after " ++ limit.withOnePlace ++ "s"

/-- The text of a tool that finished; line ends are line feeds. -/
def finishedText (bytes : List UInt8) : String :=
  String.ofList (Text.unifyNewlines (Text.decodeLoosely bytes).toList)

/-- A text and, on a line of its own, the notice. -/
def withNotice (text notice : String) : String :=
  if text.isEmpty then notice else text ++ "\n" ++ notice

/-- The texts of what a tool wrote. A tool that was stopped keeps its line ends, and the notice
follows its error text. -/
def outcome : Ended → Outcome
  | finished status captured =>
    { output := finishedText captured.output, error := finishedText captured.error, status }
  | timedOut limit captured =>
    { output := Text.decodeLoosely captured.output
      error := withNotice (Text.decodeLoosely captured.error) (timeoutNotice limit)
      status := timeoutStatus }

end Ended

/-! ## Success -/

/-- A tool that failed: its executable and arguments, its status and its texts. -/
structure Failure where
  argv : List String
  status : Int
  output : String
  error : String
deriving DecidableEq, Repr

def Failure.message (f : Failure) : String :=
  "Command '" ++ f.argv.headD "" ++ "' exited with status " ++ toString f.status ++ ". stderr: "
    ++ (if f.error.isEmpty then "<none>" else f.error)

inductive Answer where
  | text (s : String)
  | outcome (o : Outcome)
deriving DecidableEq, Repr

namespace Outcome

def isFailure (o : Outcome) : Bool :=
  o.status ≠ 0 || !o.error.toList.all fun c => Unicode.isBlank c.toNat

/-- What a request gets. -/
def answer (argv : List String) (stream : Stream) (ignoresStatus : Bool) (o : Outcome) :
    Except Failure Answer :=
  match stream with
  | .both => .ok (.outcome o)
  | .error => .ok (.text o.error)
  | .output =>
    if !ignoresStatus && o.isFailure then .error ⟨argv, o.status, o.output, o.error⟩
    else .ok (.text o.output)

end Outcome

end Linting.Tool
