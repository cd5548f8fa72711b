import Linting.Unicode.Blank
import Linting.Unicode.CellWidth

/-! The cells that a text takes on a terminal, and cutting a text to a number of cells. Characters
without a width belong to the one before them, and so does what follows a joiner. -/

namespace Linting.Terminal
set_option autoImplicit false

def isBlank (c : Char) : Bool := Unicode.isBlank c.toNat

def joiner : Char := Char.ofNat 0x200D

/-- The mark that asks for the emoji form of the character before it. -/
def selector : Char := Char.ofNat 0xFE0F

/-- Characters that are shown together. -/
structure Cluster where
  chars : List Char
  width : Nat
deriving DecidableEq, Repr

def Cluster.add (cluster : Cluster) (chars : List Char) (width : Nat) : Cluster :=
  ⟨cluster.chars ++ chars, cluster.width + width⟩

/-- Splits a text into clusters, after those split off so far, the last of them first. The
character is the last that has a width and no selector yet. -/
def splitClusters (done : List Cluster) (last : Option Char) (text : List Char) : List Cluster :=
  match text with
  | [] => done.reverse
  | c :: rest =>
    let width := Unicode.cellWidth c.toNat
    match done with
    | [] =>
      splitClusters [⟨[c], width⟩] (if width = 0 then last else some c) rest
    | cluster :: before =>
      if c = joiner then
        splitClusters (cluster.add (c :: rest.take 1) 0 :: before) last (rest.drop 1)
      else if c = selector then
        if last.any fun base => Unicode.isWidened base.toNat then
          splitClusters (cluster.add [c] 1 :: before) none rest
        else splitClusters (cluster.add [c] 0 :: before) last rest
      else if width = 0 then splitClusters (cluster.add [c] 0 :: before) last rest
      else splitClusters (⟨[c], width⟩ :: done) (some c) rest
termination_by text.length

def clusters (text : List Char) : List Cluster := splitClusters [] none text

def cells (text : List Char) : Nat := (clusters text).foldr (·.width + ·) 0

/-- The clusters that fit into a number of cells. If the next one would fit in part, a space stands
for the part. -/
def takeClusters : List Cluster → Nat → List Char
  | [], _ => []
  | _, 0 => []
  | cluster :: rest, room =>
    if cluster.width ≤ room then cluster.chars ++ takeClusters rest (room - cluster.width)
    else [' ']

def spaces (count : Nat) : List Char := List.replicate count ' '

/-- A text cut or filled to a number of cells. -/
def fit (text : List Char) (room : Nat) : List Char :=
  if cells text ≤ room then text ++ spaces (room - cells text)
  else takeClusters (clusters text) room

/-- The most cells that a line of a text takes. -/
def widest (isBreak : Char → Bool) (text : List Char) : Nat :=
  let (longest, line) := text.foldl
    (fun (longest, line) c =>
      if isBreak c then (max longest (cells line.reverse), []) else (longest, c :: line))
    (0, [])
  max longest (cells line.reverse)

/-! ## Words -/

/-- The words of a text, each with the white space after it and the first also with that before
it. A text of white space has none. -/
def words (text : List Char) : List (List Char) :=
  match text.splitBy fun a b => !isBlank a || isBlank b with
  | [] => []
  | first :: rest =>
    if first.all isBlank then
      match rest with
      | [] => []
      | second :: others => (first ++ second) :: others
    else first :: rest

def trimEnd (text : List Char) : List Char := (text.reverse.dropWhile isBlank).reverse

/-- Where lines are to be broken before words, given what place and how many cells of the line have
been reached. A word that no line can hold starts a line of its own. -/
def breaksFrom (width place filled : Nat) : List (List Char) → List Nat
  | [] => []
  | word :: rest =>
    let bare := cells (trimEnd word)
    let next := place + word.length
    if filled + bare ≤ width then breaksFrom width next (filled + cells word) rest
    else if place = 0 then breaksFrom width next (if width < bare then cells word else filled) rest
    else if width < bare ∨ filled ≠ 0 then place :: breaksFrom width next (cells word) rest
    else breaksFrom width next filled rest

def breaks (width : Nat) (text : List Char) : List Nat := breaksFrom width 0 0 (words text)

end Linting.Terminal
