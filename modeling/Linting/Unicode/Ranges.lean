/-! Sets of code points as ascending lists of closed ranges. -/

namespace Linting.Unicode
set_option autoImplicit false

/-- Whether one of the ascending ranges holds the code point. -/
def covers : List (Nat × Nat) → Nat → Bool
  | [], _ => false
  | (lo, hi) :: rest, c => lo ≤ c && (c ≤ hi || covers rest c)

end Linting.Unicode
