import Linting.Regex.Escape

/-! Bracketed sets: characters, ranges and classes between brackets. -/

namespace Linting.Regex
set_option autoImplicit false

namespace Read
variable {α : Type}

def member : Token → Read SetItem
  | .plain c => return .single c.toNat
  | .escaped c => setEscape c

def failRange (lo hi : Token) : Read α :=
  fail (.badRange lo.string hi.string) (lo.size + 1 + hi.size)

/-- The range between two members; both have to be single characters in ascending order. -/
def rangeOf (lo hi : Token) : SetItem → SetItem → Read SetItem
  | .single a, .single b => if b < a then failRange lo hi else return .range a b
  | _, _ => failRange lo hi

/-- A member or a range, given its first token, and whether the set ends with it: a hyphen in front
of the closing bracket is a member. `start` is the place of the opening bracket. -/
def memberOrRange (start : Nat) (t : Token) : Read (List SetItem × Bool) := do
  let item ← member t
  if !(← skip '-') then return ([item], false)
  match (← next) with
  | none => failAt .unterminatedSet start
  | some u =>
    if u = .plain ']' then return ([item, .single 0x2D], true)
    let last ← member u
    return ([← rangeOf t u item last], false)

/-- Adds the next member or range to those found, and tells whether the set is closed. A closing
bracket that comes first is a member. -/
def moreMembers (start : Nat) (found : List SetItem) : Read (List SetItem × Bool) := do
  match (← next) with
  | none => failAt .unterminatedSet start
  | some t =>
    if t = .plain ']' && !found.isEmpty then return (found, true)
    let (items, ended) ← memberOrRange start t
    return (found ++ items, ended)

/-- The members up to the closing bracket. The number bounds the members; `start` is the place of
the opening bracket. -/
def members (start : Nat) : Nat → List SetItem → Read (List SetItem)
  | 0, _ => failAt .unterminatedSet start
  | bound + 1, found => do
    let (found, ended) ← moreMembers start found
    if ended then return found
    members start bound found

def nodeOfSet (negated : Bool) : List SetItem → Node
  | [.single c] => if negated then .notChar c else .char c
  | items => .set ⟨negated, items⟩

def bracket : Read Node := do
  let start := (← get).position - 1
  let negated ← skip '^'
  let found ← members start ((← get).rest.length + 1) []
  return nodeOfSet negated found.eraseDups

end Read

end Linting.Regex
