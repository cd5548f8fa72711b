import Linting.Path
import Linting.Text.Quoted

/-! A tree of files: what stands at each place, how the text of a path leads to a place, and the
changes that can be made. A place is the list of names from the root. Links are followed; a
double-dot name leads to the directory above the one reached so far. A device takes what is written
to it and holds nothing. -/

namespace Linting
set_option autoImplicit false

inductive Entry where
  | directory
  | file (bytes : List UInt8) (executable : Bool)
  | device
  | link (target : Path)
deriving DecidableEq, Repr

abbrev Place := List String

/-- Names of more bytes than `name`, and paths of as many bytes as `path`, are refused. -/
structure Limits where
  name : Option Nat := none
  path : Option Nat := none
deriving DecidableEq, Repr

/-- The entries below the root; the root itself is always a directory. -/
structure FileTree where
  entries : List (Place × Entry) := []
  limits : Limits := {}
deriving DecidableEq, Repr

/-! ## Faults -/

inductive FileFault where
  | notFound
  | badFormat
  | denied
  | present
  | notDirectory
  | isDirectory
  | nameTooLong
  | tooManyLinks
  | nullInPath
deriving DecidableEq, Repr

structure FileError where
  fault : FileFault
  path : String
deriving DecidableEq, Repr

namespace FileFault

/-- The number and the words of a fault; a null in a path is found before any file is asked for
and has no number. -/
def words? : FileFault → Option (Nat × String)
  | notFound => some (2, "No such file or directory")
  | badFormat => some (8, "Exec format error")
  | denied => some (13, "Permission denied")
  | present => some (17, "File exists")
  | notDirectory => some (20, "Not a directory")
  | isDirectory => some (21, "Is a directory")
  | nameTooLong => some (36, "File name too long")
  | tooManyLinks => some (40, "Too many levels of symbolic links")
  | nullInPath => none

end FileFault

def FileError.message (e : FileError) : String :=
  match e.fault.words? with
  | none => Path.nullMessage
  | some (number, words) =>
    "[Errno " ++ toString number ++ "] " ++ words ++ ": " ++ Text.quoted e.path

namespace FileTree

/-! ## Entries -/

def entryAt (t : FileTree) (place : Place) : Option Entry :=
  if place = [] then some .directory else t.entries.lookup place

def isDirectory (t : FileTree) (place : Place) : Bool := t.entryAt place = some .directory

def put (t : FileTree) (place : Place) (entry : Entry) : FileTree :=
  { t with entries := (place, entry) :: t.entries.filter (·.1 ≠ place) }

/-- The tree without an entry and all that lies below it. -/
def removeAt (t : FileTree) (place : Place) : FileTree :=
  { t with entries := t.entries.filter fun (p, _) => !place.isPrefixOf p }

def children (t : FileTree) (place : Place) : List String :=
  t.entries.filterMap fun (p, _) => if p.dropLast = place then p.getLast? else none

/-! ## From texts to places -/

def linkLimit : Nat := 40

def isTooLong (limit : Option Nat) (size : Nat) : Bool :=
  match limit with
  | some bound => bound < size
  | none => false

/-- Whether the text of a path can name a directory only. -/
def asksDirectory (text : String) : Bool :=
  match (Path.stretches text.toList).getLast? with
  | some stretch => !Path.isName stretch
  | none => false

/-- A link to the path of a text. The path ends with a dot if it can lead to a directory only. -/
def linkTo (text : String) : Entry :=
  let p := Path.ofString text
  .link (if asksDirectory text then { p with names := p.names ++ ["."] } else p)

/-- The place that a name stands for in a directory; it need not be there. -/
def enter (t : FileTree) (here : Place) (name : String) : Except FileFault Place :=
  match t.entryAt here with
  | none => .error .notFound
  | some .directory =>
    if name = ".." then .ok here.dropLast
    else if name = "." then .ok here
    else if isTooLong t.limits.name name.utf8ByteSize then .error .nameTooLong
    else .ok (here ++ [name])
  | some _ => .error .notDirectory

def startOf (cwd : Place) (p : Path) : Place := if p.isAbsolute then [] else cwd

/-- Follows names from a place up to the first link, which is followed in a way of its own with the
names after it. -/
def walkWith (t : FileTree) (follow : Place → List String → Except FileFault Place)
    (here : Place) : List String → Except FileFault Place
  | [] => .ok here
  | name :: rest =>
    match t.enter here name with
    | .error fault => .error fault
    | .ok next =>
      match t.entryAt next with
      | some (.link target) => follow (startOf here target) (target.names ++ rest)
      | _ => walkWith t follow next rest

/-- Follows names from a place, and so many links. The last name need not be there. -/
def walk (t : FileTree) : Nat → Place → List String → Except FileFault Place
  | 0 => t.walkWith fun _ _ => .error .tooManyLinks
  | links + 1 => t.walkWith (walk t links)

/-- Why a text cannot be the text of a path. -/
def textFault? (t : FileTree) (text : String) : Option FileFault :=
  if Path.hasNull text then some .nullInPath
  else if text.isEmpty then some .notFound
  else if isTooLong t.limits.path (text.utf8ByteSize + 1) then some .nameTooLong
  else none

def locate (t : FileTree) (cwd : Place) (text : String) : Except FileFault Place :=
  match t.textFault? text with
  | some fault => .error fault
  | none =>
    let p := Path.ofString text
    match t.walk linkLimit (startOf cwd p) p.names with
    | .error fault => .error fault
    | .ok place =>
      match asksDirectory text, t.entryAt place with
      | true, none => .error .notFound
      | true, some (.file ..) => .error .notDirectory
      | true, some .device => .error .notDirectory
      | _, _ => .ok place

/-- The place of the entry that a text names. If it is a link, it is not followed. -/
def spot (t : FileTree) (cwd : Place) (text : String) : Except FileFault Place :=
  match t.textFault? text with
  | some fault => .error fault
  | none =>
    let p := Path.ofString text
    match p.names.getLast? with
    | none => .ok (startOf cwd p)
    | some last =>
      match t.walk linkLimit (startOf cwd p) p.names.dropLast with
      | .error fault => .error fault
      | .ok here => t.enter here last

def find (t : FileTree) (cwd : Place) (text : String) : Except FileFault (Place × Entry) :=
  match t.locate cwd text with
  | .error fault => .error fault
  | .ok place =>
    match t.entryAt place with
    | some entry => .ok (place, entry)
    | none => .error .notFound

def isReadable (t : FileTree) (cwd : Place) (text : String) : Bool :=
  (t.find cwd text).toOption.isSome

def isExecutable (t : FileTree) (cwd : Place) (text : String) : Bool :=
  match t.find cwd text with
  | .ok (_, .file _ executable) => executable
  | _ => false

def read (t : FileTree) (cwd : Place) (text : String) : Except FileFault (List UInt8) :=
  match t.find cwd text with
  | .ok (_, .file bytes _) => .ok bytes
  | .ok (_, .device) => .ok []
  | .ok _ => .error .isDirectory
  | .error fault => .error fault

/-! ## Resolved paths -/

/-- One more name after others, which come last first. A double dot takes away the name before
it. -/
def stepTo (above : List String) (name : String) : List String :=
  if name = "." then above else if name = ".." then above.drop 1 else name :: above

def collapse (names : List String) : Place := (names.foldl stepTo []).reverse

/-- A place, and whether it was reached from the root or from where the way starts. -/
structure Position where
  rooted : Bool
  place : Place
deriving DecidableEq, Repr

/-- Follows names from a position, whether or not anything is there. A link that leads back to
itself is not followed, and what comes after it is kept as it is. -/
def follow (t : FileTree) (links : Nat) (active : List Position) (here : Position)
    (names : List String) : Position × Bool :=
  match names with
  | [] => (here, true)
  | name :: rest =>
    if name = ".." then follow t links active { here with place := here.place.dropLast } rest
    else if name = "." then follow t links active here rest
    else
      let next := { here with place := here.place ++ [name] }
      match t.entryAt next.place with
      | some (.link target) =>
        if links = 0 ∨ next ∈ active then
          ({ next with place := collapse (next.place ++ rest) }, false)
        else
          let base := if target.isAbsolute then ⟨true, []⟩ else here
          match follow t (links - 1) (next :: active) base target.names with
          | (there, true) => follow t links active there rest
          | (there, false) => ({ there with place := collapse (there.place ++ rest) }, false)
      | _ => follow t links active next rest
termination_by (links, names.length)

/-- The place a path leads to once all links are followed; it need not be there. -/
def resolve (t : FileTree) (cwd : Place) (p : Path) : Place :=
  let start := if p.isAbsolute then ⟨true, []⟩ else ⟨false, cwd⟩
  (t.follow (2 * t.entries.length + 1) [] start p.names).1.place

/-! ## Changes -/

def makeDirectory (t : FileTree) (cwd : Place) (text : String) : Except FileFault FileTree :=
  match t.spot cwd text with
  | .error fault => .error fault
  | .ok place =>
    match t.entryAt place with
    | some _ => .error .present
    | none => .ok (t.put place .directory)

def ensureDirectory (t : FileTree) (cwd : Place) (text : String) : Except FileFault FileTree :=
  match t.makeDirectory cwd text with
  | .ok made => .ok made
  | .error fault =>
    match t.find cwd text with
    | .ok (_, .directory) => .ok t
    | _ => .error fault

/-- Makes a directory and those above it that are missing. A fault is told with the path of the
directory that could not be made; those above it that were made stay. -/
def makePath (t : FileTree) (cwd : Place) (p : Path) : Except FileError Unit × FileTree :=
  match t.ensureDirectory cwd p.toString with
  | .ok made => (.ok (), made)
  | .error .notFound =>
    if p.names.length = 0 then (.error ⟨.notFound, p.toString⟩, t)
    else
      match makePath t cwd p.parent with
      | (.error e, above) => (.error e, above)
      | (.ok (), above) =>
        match above.ensureDirectory cwd p.toString with
        | .ok made => (.ok (), made)
        | .error fault => (.error ⟨fault, p.toString⟩, above)
  | .error fault => (.error ⟨fault, p.toString⟩, t)
termination_by p.names.length
decreasing_by simp [Path.parent]; omega

def finished : Except FileError Unit × FileTree → Except FileError FileTree
  | (.ok (), t) => .ok t
  | (.error e, _) => .error e

def makeDirectories (t : FileTree) (cwd : Place) (p : Path) : Except FileError FileTree :=
  finished (t.makePath cwd p)

def write (t : FileTree) (cwd : Place) (text : String) (bytes : List UInt8) :
    Except FileFault FileTree :=
  match t.locate cwd text with
  | .error fault => .error fault
  | .ok place =>
    match t.entryAt place with
    | some .directory => .error .isDirectory
    | some (.file _ executable) => .ok (t.put place (.file bytes executable))
    | some .device => .ok t
    | _ => .ok (t.put place (.file bytes false))

/-- The place of a directory that may be removed: no link stands for it. -/
def removable (t : FileTree) (cwd : Place) (text : String) : Except FileFault Place :=
  match t.spot cwd text with
  | .error fault => .error fault
  | .ok place =>
    match t.entryAt place with
    | some .directory => .ok place
    | some _ => .error .notDirectory
    | none => .error .notFound

end FileTree

end Linting
