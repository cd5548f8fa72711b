import Linting.Regex.Node
import Linting.Unicode.Blank
import Linting.Unicode.Case
import Linting.Unicode.Digit
import Linting.Unicode.Letter
import Linting.Unicode.Numeric

/-! Which characters a character, a set or a class stands for under given modes. -/

namespace Linting.Regex
set_option autoImplicit false

/-! ## Classes -/

def isAsciiBlank (c : Nat) : Bool := (9 ≤ c && c ≤ 13) || c = 32

def isAsciiWord (c : Nat) : Bool :=
  (0x30 ≤ c && c ≤ 0x39) || (0x41 ≤ c && c ≤ 0x5A) || c = 0x5F || (0x61 ≤ c && c ≤ 0x7A)

def isWord (unicode : Bool) (c : Nat) : Bool :=
  if c < 128 then isAsciiWord c
  else unicode && (Unicode.isLetter c || Unicode.isNumeric c)

def Category.holds (unicode : Bool) (c : Nat) : Category → Bool
  | digit => if unicode then Unicode.isDigit c else 0x30 ≤ c && c ≤ 0x39
  | blank => if unicode then Unicode.isBlank c else isAsciiBlank c
  | word => isWord unicode c

/-! ## Characters without regard to case -/

/-- The last code point of the basic plane. -/
def basicPlaneEnd : Nat := 0xFFFF

def fold (unicode : Bool) (c : Nat) : Nat :=
  if unicode then Unicode.lower c else Unicode.lowerAscii c

/-- The folded code points that a letter stands for. -/
def foldVariants (unicode : Bool) (c : Nat) : List Nat :=
  if unicode then Unicode.caseVariants (Unicode.lower c) else [Unicode.lowerAscii c]

/-- The code points that fold to the given one or to a variant of it. -/
def foldSources (unicode : Bool) (folded : Nat) : List Nat :=
  if unicode then (Unicode.caseVariants folded).flatMap Unicode.lowerSources
  else if 0x61 ≤ folded ∧ folded ≤ 0x7A then [folded, folded - 32]
  else [folded]

/-- Whether a folded code point is in the range up to case. Beyond the basic plane the range holds
what folds or rises into it. -/
def rangeHoldsFolded (unicode : Bool) (lo hi folded : Nat) : Bool :=
  ((foldSources unicode folded).any fun c => lo ≤ c && c ≤ hi && c ≤ basicPlaneEnd)
    || (basicPlaneEnd < hi
      && ((lo ≤ folded && folded ≤ hi)
        || (lo ≤ Unicode.upper folded && Unicode.upper folded ≤ hi)))

/-! ## Tests -/

def charHolds (flags : Flags) (wanted c : Nat) : Bool :=
  if flags.ignoreCase then (foldVariants flags.unicode wanted).contains (fold flags.unicode c)
  else c = wanted

def SetItem.holds (unicode : Bool) (c : Nat) : SetItem → Bool
  | single a => c = a
  | range lo hi => lo ≤ c && c ≤ hi
  | category kind negated => kind.holds unicode c != negated

/-- Whether a folded code point is a member up to case. A single member beyond the basic plane is
taken as it is written. -/
def SetItem.holdsFolded (unicode : Bool) (folded : Nat) : SetItem → Bool
  | single a =>
    if a ≤ basicPlaneEnd then (foldVariants unicode a).contains folded else folded = a
  | range lo hi => rangeHoldsFolded unicode lo hi folded
  | category kind negated => kind.holds unicode folded != negated

def CharSet.holds (flags : Flags) (s : CharSet) (c : Nat) : Bool :=
  let found :=
    if flags.ignoreCase then
      let folded := fold flags.unicode c
      s.items.any (·.holdsFolded flags.unicode folded)
    else s.items.any (·.holds flags.unicode c)
  found != s.negated

end Linting.Regex
