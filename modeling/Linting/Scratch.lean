import Linting.FileSpec
import Linting.FileTree
import Linting.Settings
import Linting.Text.Utf8

/-! Scratch directories: files written for the time of an action, and removed with their directory
however the action ends. A request is checked as a whole before the tree is touched. -/

namespace Linting
set_option autoImplicit false

/-! ## Checking a request -/

/-- Why a request is not carried out. An entry that is no file is told as it is shown; if it cannot
be shown, that is told in its stead. -/
inductive ScratchFault where
  | files
  | entry (shown : String)
  | unwritable
  | faultyEntry (faults : List Fault)
  | fileName
  | fileContents
  | action
deriving DecidableEq, Repr

def ScratchFault.message : ScratchFault → String
  | files => "Invalid or no `files` provided"
  | entry shown => "Invalid file entry: " ++ shown
  | unwritable => Text.unwritableMessage
  | faultyEntry faults => "Invalid file entry: " ++ Fault.summary faults "TempFileSpec"
  | fileName => "Invalid or no `fileName` provided"
  | fileContents => "Invalid or no `fileContents` provided"
  | action => "Invalid or no `callback` provided"

namespace Scratch

def checkEntry : Value → Except ScratchFault FileSpec
  | .fileSpec f => .ok f
  | .record fields => (FileSpec.ofFields fields).mapError .faultyEntry
  | v => .error (if v.isShowable then .entry v.shown else .unwritable)

/-- The files of a request; of several bad entries the first is reported. -/
def checkFiles (v : Value) : Except ScratchFault (List FileSpec) :=
  match v.items? with
  | none => .error .files
  | some items => items.mapM checkEntry

/-- The files of a request that comes with an action; its files are checked first. -/
def checkMany (files : Value) (hasAction : Bool) : Except ScratchFault (List FileSpec) :=
  match checkFiles files with
  | .error fault => .error fault
  | .ok specs => if hasAction then .ok specs else .error .action

/-- The file of a request for one; its name is judged after all else. -/
def checkSingle (name contents : Value) (hasAction : Bool) :
    Except ScratchFault (List FileSpec) :=
  match name, contents with
  | .text _, .text _ =>
    if hasAction then checkFiles (.list [.record [("name", name), ("contents", contents)]])
    else .error .action
  | .text _, _ => .error .fileContents
  | _, _ => .error .fileName

/-! ## The directory and its files -/

def pathOf (directory : Path) (f : FileSpec) : Path := directory / Path.ofString f.name

/-- Writes a file and makes the directories above it that are missing, which stay if the file
cannot be written. -/
def saveFile (t : FileTree) (p : Path) (contents : String) : Except FileError Unit × FileTree :=
  match t.makePath [] p.parent with
  | (.error e, t) => (.error e, t)
  | (.ok (), t) =>
    match t.write [] p.toString (Text.encode contents) with
    | .ok written => (.ok (), written)
    | .error fault => (.error ⟨fault, p.toString⟩, t)

def writeFile (t : FileTree) (p : Path) (contents : String) : Except FileError FileTree :=
  FileTree.finished (saveFile t p contents)

def writeFiles (t : FileTree) (directory : Path) :
    List FileSpec → Except FileError (List Path) × FileTree
  | [] => (.ok [], t)
  | f :: rest =>
    match saveFile t (pathOf directory f) f.contents with
    | (.error e, t) => (.error e, t)
    | (.ok (), t) =>
      match writeFiles t directory rest with
      | (.ok paths, t) => (.ok (pathOf directory f :: paths), t)
      | failed => failed

/-- Whether a scratch directory may have disappeared before it is removed. -/
inductive Removal where
  | tolerant
  | strict
deriving DecidableEq, Repr

def remove (removal : Removal) (t : FileTree) (directory : Path) :
    Except FileError Unit × FileTree :=
  match t.removable [] directory.toString, removal with
  | .ok place, _ => (.ok (), t.removeAt place)
  | .error .notFound, .tolerant => (.ok (), t)
  | .error fault, _ => (.error ⟨fault, directory.toString⟩, t)

end Scratch

/-! ## Actions -/

inductive ScratchError (ε : Type) where
  | argument (fault : ScratchFault)
  | settings (error : ConfigError)
  | file (error : FileError)
  | action (error : ε)

/-- An action gets the paths of the files; it may change the tree, and it ends with a value or an
error. -/
abbrev Action (ε α : Type) := List Path → FileTree → Except ε α × FileTree

namespace Scratch

/-- Writes the files and runs the action on them, if all could be written. -/
def perform {ε α : Type} (t : FileTree) (directory : Path) (specs : List FileSpec)
    (action : Action ε α) : Except (ScratchError ε) α × FileTree :=
  match writeFiles t directory specs with
  | (.error e, t) => (.error (.file e), t)
  | (.ok paths, t) =>
    let (result, t) := action paths t
    (result.mapError .action, t)

/-- Runs an action in a directory that is made for it and removed afterwards. A removal that fails
takes the place of the result. -/
def within {ε α : Type} (removal : Removal) (t : FileTree) (directory : Path)
    (specs : List FileSpec) (action : Action ε α) : Except (ScratchError ε) α × FileTree :=
  match t.makeDirectory [] directory.toString with
  | .error fault => (.error (.file ⟨fault, directory.toString⟩), t)
  | .ok t =>
    let (result, t) := perform t directory specs action
    match remove removal t directory with
    | (.ok (), t) => (result, t)
    | (.error e, t) => (.error (.file e), t)

/-- Where scratch directories are made, and what the name of the next one ends with. -/
structure Home where
  root : Path
  suffix : String
deriving DecidableEq, Repr

def Home.directory (home : Home) (settings : Settings) : Path :=
  home.root.below [settings.tempPrefix ++ home.suffix]

/-- Runs an action on checked files. -/
def run {ε α : Type} (removal : Removal) (home : Home) (env : Environment)
    (kept : Settings.Kept) (t : FileTree) (specs : Except ScratchFault (List FileSpec))
    (action : Action ε α) : Except (ScratchError ε) α × Settings.Kept × FileTree :=
  match specs with
  | .error fault => (.error (.argument fault), kept, t)
  | .ok specs =>
    match Settings.get kept env with
    | (.error e, kept) => (.error (.settings e), kept, t)
    | (.ok settings, kept) =>
      let (result, t) := within removal t (home.directory settings) specs action
      (result, kept, t)

end Scratch

end Linting
