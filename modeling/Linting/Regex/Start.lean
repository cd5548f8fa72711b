import Linting.Regex.CharTest

/-! Where a search tries for a match. If an expression begins with a set, only places are tried
whose character is in that set as the modes of the whole expression read it; a group that changes
the alphabet does not count. A set that holds letters and is matched without regard to case is no
such condition. -/

namespace Linting.Regex
set_option autoImplicit false

def isCased (unicode : Bool) (c : Nat) : Bool :=
  if unicode then Unicode.isCased c else (0x41 ≤ c && c ≤ 0x5A) || (0x61 ≤ c && c ≤ 0x7A)

/-- Whether a member of a set means the same with and without regard to case. -/
def SetItem.isUncased (unicode : Bool) : SetItem → Bool
  | single c => !isCased unicode c
  | range lo hi =>
    hi ≤ basicPlaneEnd && (List.range (hi + 1 - lo)).all fun i => !isCased unicode (lo + i)
  | category _ _ => true

def Node.firstSet? : Node → Flags → Option (CharSet × Flags)
  | set s, flags => some (s, flags)
  | seq a _, flags => a.firstSet? flags
  | capture _ body, flags => body.firstSet? flags
  | switched on off body, flags => body.firstSet? (flags.inside on off)
  | _, _ => none

/-- The set that characters at which a match may start are in, if it is not plain from matching
itself. -/
def Node.startSet? (root : Node) (flags : Flags) : Option CharSet :=
  match root.firstSet? flags with
  | none => none
  | some (s, inside) =>
    if inside.unicode = flags.unicode then none
    else if inside.ignoreCase && !s.items.all (·.isUncased inside.unicode) then none
    else some s

def mayStart (startSet : Option CharSet) (flags : Flags) (c : Nat) : Bool :=
  startSet.all (·.holds { flags with ignoreCase := false } c)

end Linting.Regex
