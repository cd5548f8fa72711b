import Linting.Coordinate
import Linting.Diagnostic

/-! The fields of a diagnostic as a match captures them: the groups that give a field are tried in
order, and the first capture that is not empty is taken. -/

namespace Linting
set_option autoImplicit false

/-- The captures of the named groups of a match; a group that took no part captured nothing. -/
abbrev GroupMap := List (String × Option String)

namespace GroupMap

/-- What a group captured; a group that is not declared captured nothing. -/
def capture (groups : GroupMap) (name : String) : Option String := (groups.lookup name).join

/-- The first capture among the named groups that is not empty. -/
def resolve (groups : GroupMap) : List String → Option String
  | [] => none
  | name :: rest =>
    match groups.capture name with
    | some s => if s.isEmpty then resolve groups rest else some s
    | none => resolve groups rest

end GroupMap

/-- The fields of a match, coordinates as they were captured. -/
structure MatchFields where
  type : Option String
  message : Option String
  filePath : Option String
  lineStart : Option String
  colStart : Option String
  lineEnd : Option String
  colEnd : Option String
deriving DecidableEq, Repr

/-- A text that is there and not empty. -/
def nonempty? : Option String → Option String
  | some s => if s.isEmpty then none else some s
  | none => none

namespace MatchFields

/-- The fields of a match. Type and message keep empty captures; the file is the default where
none was captured. -/
def ofGroups (groups : GroupMap) (default : Option String) : MatchFields where
  type := groups.capture "type"
  message := groups.capture "message"
  filePath := (groups.resolve ["file"]).or (nonempty? default)
  lineStart := groups.resolve ["lineStart", "line"]
  colStart := groups.resolve ["colStart", "col"]
  lineEnd := groups.resolve ["lineEnd", "line"]
  colEnd := groups.resolve ["colEnd", "col"]

end MatchFields

/-- The range between four coordinates; the first that cannot be read is reported. -/
def rangeOf (lineStart colStart lineEnd colEnd : Value) : Except CoordinateError TextRange := do
  let startLine ← Coordinate.normalize lineStart
  let startColumn ← Coordinate.normalize colStart
  let stopLine ← Coordinate.normalize lineEnd
  let stopColumn ← Coordinate.normalize colEnd
  return ⟨⟨startLine, startColumn⟩, ⟨stopLine, stopColumn⟩⟩

namespace MatchFields

def range (f : MatchFields) : Except CoordinateError TextRange :=
  rangeOf (Diagnostic.ofText f.lineStart) (Diagnostic.ofText f.colStart)
    (Diagnostic.ofText f.lineEnd) (Diagnostic.ofText f.colEnd)

def diagnostic (f : MatchFields) : Except CoordinateError Diagnostic :=
  f.range.map fun range => { type := f.type, text := f.message, filePath := f.filePath, range }

end MatchFields

end Linting
