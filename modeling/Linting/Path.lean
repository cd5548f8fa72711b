/-! Paths as text: names between slashes, without empty and single-dot names. Double-dot names
are kept. Two leading slashes are a root of their own, three or more are the ordinary one. -/

namespace Linting
set_option autoImplicit false

inductive Root where
  | none
  | slash
  | doubleSlash
deriving DecidableEq, Repr

structure Path where
  root : Root
  names : List String
deriving DecidableEq, Repr

namespace Root

def text : Root → String
  | none => ""
  | slash => "/"
  | doubleSlash => "//"

def ofSlashes : Nat → Root
  | 0 => none
  | 2 => doubleSlash
  | _ => slash

end Root

namespace Path

/-! ## Reading and writing -/

/-- The stretches of a text between slashes. -/
def stretches : List Char → List (List Char)
  | [] => [[]]
  | c :: rest =>
    if c = '/' then [] :: stretches rest
    else
      match stretches rest with
      | first :: others => (c :: first) :: others
      | [] => [[c]]

def isName (stretch : List Char) : Bool := stretch ≠ [] && stretch ≠ ['.']

/-- The names in a text. -/
def namesIn (text : List Char) : List String := ((stretches text).filter isName).map String.ofList

def ofString (text : String) : Path where
  root := Root.ofSlashes (text.toList.takeWhile (· = '/')).length
  names := namesIn text.toList

/-- The text of a path; the path without root and names is a single dot. -/
def toString (p : Path) : String :=
  if p.root = .none ∧ p.names = [] then "."
  else p.root.text ++ "/".intercalate p.names

instance : ToString Path := ⟨toString⟩

/-! ## Texts that are no path -/

/-- A text that holds a null names no file. -/
def hasNull (text : String) : Bool := text.toList.contains (Char.ofNat 0)

def nullMessage : String := "embedded null byte"

/-! ## Combining -/

def isAbsolute (p : Path) : Bool := p.root ≠ .none

/-- The path of some names under another path. -/
def below (base : Path) (names : List String) : Path := { base with names := base.names ++ names }

/-- One path seen from another; an absolute one stands for itself. -/
def join (base p : Path) : Path := if p.isAbsolute then p else base.below p.names

instance : HDiv Path Path Path := ⟨join⟩

/-- The path without its last name. -/
def parent (p : Path) : Path := { p with names := p.names.dropLast }

/-- The paths that lose one name after the other, down to the root, the longest first. -/
def parents (p : Path) : List Path :=
  ((List.range p.names.length).map fun count => { p with names := p.names.take count }).reverse

/-- A path with its parents. -/
def ancestry (p : Path) : List Path := p :: p.parents

end Path

end Linting
