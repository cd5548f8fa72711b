import Linting.CommandLine.Run

/-! The program: it looks at the files that its command asks for, runs the command on what it saw,
and prints the end. The parameters of handlers are not looked at. -/

set_option autoImplicit false

namespace Linting.CommandLine

/-- The paths that a command may ask for. -/
def Command.paths (s : Surroundings) : Command → List String
  | help => []
  | parse c =>
    match c.source.map fun source => s.expandHome (Path.ofString source) with
    | some (.ok p) => [(s.directory / p).toString]
    | _ => []
  | find c =>
    Search.candidates (Search.directories s.directory c.directory.toString) c.names

def Command.readsInput : Command → Bool
  | parse c => c.source.isNone
  | _ => false

/-- A tree with an entry at a path and directories above it. -/
def withEntry (tree : FileTree) (p : Path) (entry : Entry) : FileTree :=
  let above := p.parents.foldl (fun t q => t.put (FileTree.collapse q.names) .directory) tree
  above.put (FileTree.collapse p.names) entry

/-- The result of an action, if it succeeds. -/
def attempt {α : Type} (action : IO α) : IO (Option α) := do
  match ← action.toBaseIO with
  | .ok a => return some a
  | .error _ => return none

/-- What stands at a path, if it can be opened. -/
def look (path : String) : IO (Option Entry) := do
  if Path.hasNull path then return none
  match ← attempt (IO.FS.Handle.mk path .read) with
  | none => return none
  | some handle =>
    match ← attempt handle.readBinToEnd with
    | some bytes => return some (.file bytes.toList false)
    | none => return some .directory

def lookAll (paths : List String) : IO FileTree :=
  paths.foldlM (fun tree path => do
    match ← look path with
    | some entry => return withEntry tree (.ofString path) entry
    | none => return tree) {}

def variableNames : List String :=
  [Surroundings.homeVariable, Settings.prefixVariable, Settings.timeoutVariable,
    Settings.cacheVariable]

def readEnvironment : IO Environment := do
  let values ← variableNames.mapM fun name => return (name, ← IO.getEnv name)
  return values.filterMap fun (name, value) => value.map (name, ·)

partial def readAll (stream : IO.FS.Stream) (sofar : ByteArray) : IO ByteArray := do
  let bytes ← stream.read 65536
  if bytes.isEmpty then return sofar
  readAll stream (sofar ++ bytes)

def surroundings (args : List String) : IO Surroundings := do
  let cwd := (Path.ofString (← IO.currentDir).toString).names
  let bare : Surroundings :=
    { tree := {}, cwd, literal := fun _ => .ok (), env := ← readEnvironment
      onTerminal := ← (← IO.getStdout).isTty }
  match Command.ofArguments args with
  | .error _ => return bare
  | .ok command =>
    let tree ← lookAll (command.paths bare)
    if command.readsInput then
      return { bare with tree, input := (← readAll (← IO.getStdin) .empty).toList }
    return { bare with tree }

end Linting.CommandLine

open Linting.CommandLine in
def main (args : List String) : IO UInt32 := do
  let outcome := run (← surroundings args) args
  (← IO.getStdout).putStr outcome.output
  match outcome.failure with
  | some failure => (← IO.getStderr).putStrLn failure.message
  | none => pure ()
  return outcome.status.toUInt32
