import Linting.Regex.Flags
import Linting.Text.Quoted

/-! The flag letters of a pattern: a set of `g i m s u x y`. Matching is always global, so `g` is
supplied where it is missing; without `u` the shorthand classes know ASCII only. -/

namespace Linting.Pattern
set_option autoImplicit false

/-- What a flag letter turns on; `g` and `y` turn on nothing in the expression itself. -/
def switch? : Char → Option Regex.Flags
  | 'g' => some {}
  | 'i' => some { ignoreCase := true }
  | 'm' => some { multiline := true }
  | 's' => some { dotAll := true }
  | 'u' => some { unicode := true }
  | 'x' => some { verbose := true }
  | 'y' => some {}
  | _ => none

def normalizeFlags (flags : String) : String :=
  if flags.toList.contains 'g' then flags else flags ++ "g"

inductive FlagFault where
  | unknown (letter : Char)
  | repeated (letter : Char)
deriving DecidableEq, Repr

def FlagFault.message (flags : String) : FlagFault → String
  | unknown letter =>
    "Invalid regex flag " ++ Text.quoted letter.toString ++ " in " ++ Text.quoted flags
  | repeated letter =>
    "Duplicate regex flag " ++ Text.quoted letter.toString ++ " in " ++ Text.quoted flags

/-- The leftmost letter that is no flag or repeats one of the letters seen before it. -/
def flagFault? : List Char → List Char → Option FlagFault
  | _, [] => none
  | seen, c :: rest =>
    if (switch? c).isNone then some (.unknown c)
    else if seen.contains c then some (.repeated c)
    else flagFault? (c :: seen) rest

/-- All that the letters turn on, with the ASCII alphabet unless `u` is among them. -/
def switches (flags : List Char) : Regex.Flags :=
  let all := (flags.filterMap switch?).foldl Regex.Flags.union {}
  { all with ascii := !flags.contains 'u' }

def isSticky (flags : List Char) : Bool := flags.contains 'y'

end Linting.Pattern
