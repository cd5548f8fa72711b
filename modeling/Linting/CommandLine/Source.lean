import Linting.FileTree
import Linting.Settings
import Linting.Terminal.Markup
import Linting.Text.Newline
import Linting.Text.Utf8

/-! The file that a command reads. A tilde in front of its path stands for a home directory, links
are followed, and what they lead to has to be a file. -/

namespace Linting.CommandLine
set_option autoImplicit false

/-- What a command sees of the machine it runs on. The home of no user in particular is that of the
user who runs it. -/
structure Surroundings where
  tree : FileTree
  cwd : Place
  literal : Terminal.LiteralReader
  env : Environment := []
  homeOf : Option String → Option String := fun _ => none
  input : List UInt8 := []
  onTerminal : Bool := false

def Surroundings.directory (s : Surroundings) : Path := ⟨.slash, s.cwd⟩

inductive SourceFault where
  | noHome
  | linkLoop (path : String)
  | file (error : FileError)
  | notFile
deriving DecidableEq, Repr

def SourceFault.message : SourceFault → String
  | noHome => "Could not determine home directory."
  | linkLoop path => "Symlink loop from " ++ Text.quoted path
  | file error => error.message
  | notFile => "Tool output file not found"

namespace Surroundings

/-! ## Home directories -/

def homeVariable : String := "HOME"

/-- The home of a user as text; that of the current user is a variable before all else. -/
def homeText (s : Surroundings) (user : String) : Option String :=
  if user.isEmpty then
    match s.env.get? homeVariable with
    | some home => some (if home.isEmpty then "/" else home)
    | none => s.homeOf none
  else s.homeOf (some user)

def expandHome (s : Surroundings) (p : Path) : Except SourceFault Path :=
  match p.root, p.names with
  | .none, first :: rest =>
    if !first.startsWith "~" then .ok p
    else
      match s.homeText (String.ofList (first.toList.drop 1)) with
      | none => .error .noHome
      | some home =>
        if home.startsWith "~" then .error .noHome
        else
          let home := Path.ofString home
          .ok { home with names := home.names ++ rest }
  | _, _ => .ok p

/-! ## Reading -/

/-- The bytes of the file at a path. -/
def fileBytes (s : Surroundings) (p : Path) : Except SourceFault (List UInt8) :=
  let text := (⟨.slash, s.tree.resolve s.cwd p⟩ : Path).toString
  match s.tree.find [] text with
  | .ok (_, .file bytes _) => .ok bytes
  | .error .tooManyLinks => .error (.linkLoop text)
  | .error .nameTooLong => .error (.file ⟨.nameTooLong, text⟩)
  | _ => .error .notFile

/-- The text of a file, with line feeds for all line ends. -/
def fileText (s : Surroundings) (source : String) : Except SourceFault String := do
  let p ← s.expandHome (Path.ofString source)
  let bytes ← s.fileBytes p
  return String.ofList (Text.unifyNewlines (Text.decodeLoosely bytes).toList)

/-- The text of the input, with its line ends as they are. -/
def inputText (s : Surroundings) : String := Text.decodeLoosely s.input

end Surroundings

end Linting.CommandLine
