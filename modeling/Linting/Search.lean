import Linting.Path
import Linting.Value

/-! Search for a file: in a directory, then in each directory above it, trying several names in
each. Which paths are readable is a parameter. -/

namespace Linting
set_option autoImplicit false

inductive SearchFault where
  | directory
  | names
deriving DecidableEq, Repr

def SearchFault.message : SearchFault → String
  | directory => "Invalid or no `directory` provided"
  | names => "Invalid or no `name` provided"

/-- Where a search starts, and the names it tries. -/
structure SearchRequest where
  directory : String
  names : List String
deriving DecidableEq, Repr

/-- A path that cannot be probed because its text holds a null. -/
structure NullInPath where
deriving DecidableEq, Repr

namespace SearchRequest

def directoryOf : Value → Option String
  | .path p => some p.toString
  | .text s => if s.isEmpty then none else some s
  | _ => none

def namesOf (v : Value) : Option (List String) :=
  let names := match v with
    | .text s => some [s]
    | v => v.items?.bind Value.texts?
  names.filter fun names => !names.isEmpty && names.all fun name => !name.isEmpty

/-- Checks the arguments of a search, the directory first. -/
def check (directory names : Value) : Except SearchFault SearchRequest :=
  match directoryOf directory, namesOf names with
  | none, _ => .error .directory
  | some _, none => .error .names
  | some directory, some names => .ok { directory, names }

end SearchRequest

namespace Search

/-! ## Where to look -/

/-- The directories of a search, the nearest first. -/
def directories (cwd : Path) (directory : String) : List Path :=
  (cwd / Path.ofString directory).ancestry

def candidates (directories : List Path) (names : List String) : List String :=
  directories.flatMap fun d => names.map fun name => (d / Path.ofString name).toString

/-! ## Looking -/

def probe (readable : String → Bool) (path : String) : Except NullInPath Bool :=
  if Path.hasNull path then .error {} else .ok (readable path)

/-- The first readable path. -/
def first? (readable : String → Bool) : List String → Except NullInPath (Option String)
  | [] => .ok none
  | path :: rest =>
    match probe readable path with
    | .error e => .error e
    | .ok true => .ok (some path)
    | .ok false => first? readable rest

end Search

/-- The nearest readable file of the names asked for. -/
def SearchRequest.run (readable : String → Bool) (cwd : Path) (request : SearchRequest) :
    Except NullInPath (Option String) :=
  Search.first? readable
    (Search.candidates (Search.directories cwd request.directory) request.names)

end Linting
