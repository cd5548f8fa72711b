/-! Binary floating-point numbers of 64 bits, as exact values. A finite number is a sign and a
whole number of units of `2 ^ -1074`, the distance of the smallest numbers; a number of more than
53 binary digits is never one of them. -/

namespace Linting.Number
set_option autoImplicit false

/-! ## Rounding of quotients -/

/-- The whole number nearest to a quotient; of two equally near ones the even one. -/
def roundDiv (num den : Nat) : Nat :=
  let q := num / den
  let r := num % den
  if 2 * r < den then q
  else if den < 2 * r then q + 1
  else if q % 2 = 0 then q else q + 1

/-- The number of binary digits. -/
def bitLength (n : Nat) : Nat := if n = 0 then 0 else n.log2 + 1

/-! ## Values -/

inductive Binary64 where
  | nan
  | infinite (negative : Bool)
  | finite (negative : Bool) (units : Nat)
deriving DecidableEq, Repr

namespace Binary64

def unitsPerOne : Nat := Nat.pow 2 1074

/-- The least number of units that is too large for a finite number. -/
def overflow : Nat := Nat.pow 2 2098

/-- The number nearest to a quotient, with 53 binary digits; a tie goes to the even neighbour. -/
def ofRatio (negative : Bool) (num den : Nat) : Binary64 :=
  let scaled := num * unitsPerOne
  let shift := bitLength (scaled / den) - 53
  let units := roundDiv scaled (den * Nat.pow 2 shift) * Nat.pow 2 shift
  if overflow ≤ units then infinite negative else finite negative units

def isFinite : Binary64 → Bool
  | finite _ _ => true
  | _ => false

/-- Whether a number is zero, of either sign, or above. -/
def isNonnegative : Binary64 → Bool
  | nan => false
  | infinite negative => !negative
  | finite negative units => !negative || units = 0

def isWhole : Binary64 → Bool
  | finite _ units => units % unitsPerOne = 0
  | _ => false

/-- The whole part of the magnitude. -/
def wholePart : Binary64 → Nat
  | finite _ units => units / unitsPerOne
  | _ => 0

/-- The whole part with its sign. -/
def truncate : Binary64 → Int
  | finite true units => -((units / unitsPerOne : Nat) : Int)
  | finite false units => ((units / unitsPerOne : Nat) : Int)
  | _ => 0

/-! ## Interchange format -/

def signBit (negative : Bool) : Nat := if negative then Nat.pow 2 63 else 0

/-- Sign, biased exponent and fraction, as one number of 64 bits. -/
def bits : Binary64 → Nat
  | nan => 0x7FF8000000000000
  | infinite negative => signBit negative + 0x7FF0000000000000
  | finite negative units =>
    let shift := bitLength units - 53
    let hidden := Nat.pow 2 52
    let rest := if units < hidden then units else shift * hidden + units / Nat.pow 2 shift
    signBit negative + rest

/-! ## Decimal text with a fixed number of places -/

/-- A magnitude with one digit behind the point, correctly rounded. -/
def tenths (units : Nat) : String :=
  let n := roundDiv (10 * units) unitsPerOne
  toString (n / 10) ++ "." ++ toString (n % 10)

def withOnePlace : Binary64 → String
  | nan => "nan"
  | infinite negative => if negative then "-inf" else "inf"
  | finite negative units => (if negative then "-" else "") ++ tenths units

end Binary64

end Linting.Number
