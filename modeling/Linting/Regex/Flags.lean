/-! Matching modes of a regular expression, for the whole of it and for a group. -/

namespace Linting.Regex
set_option autoImplicit false

/-- The switches of a regular expression. `ascii` and `unicode` choose what the shorthand classes
and the folding of case mean; `template` refuses every repetition. -/
structure Flags where
  ascii : Bool := false
  ignoreCase : Bool := false
  multiline : Bool := false
  dotAll : Bool := false
  unicode : Bool := false
  verbose : Bool := false
  template : Bool := false
deriving DecidableEq, Repr

namespace Flags

def none : Flags := {}

def union (a b : Flags) : Flags where
  ascii := a.ascii || b.ascii
  ignoreCase := a.ignoreCase || b.ignoreCase
  multiline := a.multiline || b.multiline
  dotAll := a.dotAll || b.dotAll
  unicode := a.unicode || b.unicode
  verbose := a.verbose || b.verbose
  template := a.template || b.template

def without (a b : Flags) : Flags where
  ascii := a.ascii && !b.ascii
  ignoreCase := a.ignoreCase && !b.ignoreCase
  multiline := a.multiline && !b.multiline
  dotAll := a.dotAll && !b.dotAll
  unicode := a.unicode && !b.unicode
  verbose := a.verbose && !b.verbose
  template := a.template && !b.template

/-- Whether two sets of switches share one. -/
def meets (a b : Flags) : Bool :=
  (a.ascii && b.ascii) || (a.ignoreCase && b.ignoreCase) || (a.multiline && b.multiline)
    || (a.dotAll && b.dotAll) || (a.unicode && b.unicode) || (a.verbose && b.verbose)
    || (a.template && b.template)

/-- The modes inside a group that turns some on and some off. A group that names an alphabet
replaces the one outside. -/
def inside (outer on off : Flags) : Flags :=
  let base :=
    if on.ascii || on.unicode then { outer with ascii := false, unicode := false } else outer
  (base.union on).without off

end Flags

/-- The switch an inline flag letter stands for. -/
def inlineFlag? : Char → Option Flags
  | 'a' => some { ascii := true }
  | 'i' => some { ignoreCase := true }
  | 'm' => some { multiline := true }
  | 's' => some { dotAll := true }
  | 'u' => some { unicode := true }
  | 'x' => some { verbose := true }
  | 't' => some { template := true }
  | _ => Option.none

end Linting.Regex
