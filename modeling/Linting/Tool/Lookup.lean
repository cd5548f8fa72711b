import Linting.Settings
import Linting.Tool.Request

/-! The executable of a command. An absolute path stands for itself; a relative one with a slash is
taken as it is; a bare name is looked for in the directories of the search path, one after the
other. -/

namespace Linting.Tool
set_option autoImplicit false

def pathVariable : String := "PATH"

/-- Where executables are looked for if there is no search path at all. -/
def standardPath : String := "/bin:/usr/bin"

/-- The directories of a search path; an empty one stands for the current directory. -/
def directoriesOf (searchPath : String) : List String := searchPath.splitOn ":"

/-- A name in a directory. -/
def inDirectory (directory name : String) : String :=
  if directory.isEmpty || directory.endsWith "/" then directory ++ name
  else directory ++ "/" ++ name

def hasSlash (name : String) : Bool := name.toList.contains '/'

/-- Where a command may be found, in order. -/
def places (env : Environment) (name : String) : List String :=
  if hasSlash name then [name]
  else
    match (env.get? pathVariable).getD standardPath with
    | "" => []
    | searchPath => (directoriesOf searchPath).map (inDirectory · name)

/-- The executable of a command, given which paths are executable files. -/
def executable? (executable : String → Bool) (env : Environment) (command : String) :
    Option String :=
  let p := Path.ofString command
  if p.isAbsolute then some p.toString
  else if Path.hasNull command then none
  else (places env command).find? executable

end Linting.Tool
