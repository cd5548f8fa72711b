import Linting.Diagnostic
import Linting.Json

/-! Diagnostics as JSON: a list with one record for each. -/

namespace Linting
set_option autoImplicit false

namespace Json

def ofText : Option String → Json
  | some s => text s
  | none => null

def ofPoint (p : Point) : Json := list [int p.line, int p.column]

def ofDiagnostic (d : Diagnostic) : Json :=
  record [("type", ofText d.type), ("text", ofText d.text), ("filePath", ofText d.filePath),
    ("range", list [ofPoint d.range.start, ofPoint d.range.stop])]

end Json

/-- The JSON text of diagnostics, in their order. -/
def report (diagnostics : List Diagnostic) : Option String :=
  (Json.list (diagnostics.map Json.ofDiagnostic)).toText?

end Linting
