import Linting.Diagnostic

/-! Reading the options of a parse from a loose value. -/

namespace Linting
set_option autoImplicit false

/-- Why options are refused: they are no record, or fields of the record are faulty. -/
inductive OptionsError where
  | notRecord (kind : String)
  | faulty (faults : List Fault)
deriving DecidableEq, Repr

def OptionsError.message : OptionsError → String
  | notRecord kind => "Invalid or no `options` provided: " ++ kind
  | faulty faults => "Invalid `options` provided: " ++ Fault.summary faults "ParseOptions"

namespace ParseOptions

def readFlags : Value → Except (List Fault) String
  | .null => .ok ""
  | .text s => .ok s
  | _ => Value.refuse (.refused "flags must be a string")

def readFilePath : Value → Except (List Fault) (Option String)
  | .null => .ok none
  | .text s => .ok (some s)
  | .path p => .ok (some p.toString)
  | _ => Value.refuse (.refused "filePath must be a string or path-like object")

def ofFields (fields : List (String × Value)) : Except (List Fault) ParseOptions :=
  let flags := Diagnostic.readField fields "flags" "" readFlags
  let file := Diagnostic.readField fields (filePathKey fields) none readFilePath
  (Value.both flags file).map fun (flags, filePath) => { flags, filePath }

def ofValue : Value → Except OptionsError ParseOptions
  | .null => .ok {}
  | .options o => .ok o
  | .record fields => (ofFields fields).mapError .faulty
  | v => .error (.notRecord v.kind)

end ParseOptions

end Linting
