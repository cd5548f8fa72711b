import Linting.Number.Binary64

/-! The shortest decimal text that reads back as the same number. -/

namespace Linting.Number
set_option autoImplicit false

namespace Binary64

/-! ## The interval of a number -/

/-- The distances, in quarter units, from a magnitude to the ends of the interval of the real
numbers that round to it: below and above. Just above a power of two the lower half is half as
wide. -/
def margins (units : Nat) : Nat × Nat :=
  let shift := bitLength units - 53
  let half := 2 * Nat.pow 2 shift
  (if 0 < shift ∧ units = Nat.pow 2 (shift + 52) then half / 2 else half, half)

/-- Whether a quotient, in units, rounds to the magnitude. The ends belong to the interval of an
even number. -/
def roundsTo (units num den : Nat) : Bool :=
  let (below, above) := margins units
  let even := units / Nat.pow 2 (bitLength units - 53) % 2 = 0
  let value := 4 * num
  let low := (4 * units - below) * den
  let high := (4 * units + above) * den
  if even then low ≤ value && value ≤ high else low < value && value < high

/-! ## Digits -/

/-- The decimal exponent of the leading digit of a magnitude of at least one unit. The first
number is the bound of the search, downward from the largest exponent. -/
def leadingExponent (units : Nat) : Nat → Int → Int
  | 0, exponent => exponent
  | bound + 1, exponent =>
    let reached :=
      if 0 ≤ exponent then Nat.pow 10 exponent.toNat * unitsPerOne ≤ units
      else unitsPerOne ≤ units * Nat.pow 10 (-exponent).toNat
    if reached then exponent else leadingExponent units bound (exponent - 1)

/-- A magnitude as a quotient of multiples of `10 ^ exponent`. -/
def scaled (units : Nat) (exponent : Int) : Nat × Nat :=
  if 0 ≤ exponent then (units, Nat.pow 10 exponent.toNat * unitsPerOne)
  else (units * Nat.pow 10 (-exponent).toNat, unitsPerOne)

/-- Whether `digits · 10 ^ exponent` rounds to the magnitude. -/
def readsBack (units digits : Nat) (exponent : Int) : Bool :=
  if 0 ≤ exponent then roundsTo units (digits * Nat.pow 10 exponent.toNat * unitsPerOne) 1
  else roundsTo units (digits * unitsPerOne) (Nat.pow 10 (-exponent).toNat)

/-- The nearest of the grid's two neighbours of the magnitude that reads back. -/
def onGrid? (units : Nat) (exponent : Int) : Option Nat :=
  let (num, den) := scaled units exponent
  let near := roundDiv num den
  let far := if near = num / den then near + 1 else num / den
  if readsBack units near exponent then some near
  else if readsBack units far exponent then some far
  else none

/-- The fewest digits that read back, with the exponent of the last one. The first number is the
bound on further digits. -/
def shortestFrom (units : Nat) : Nat → Int → Nat × Int
  | 0, exponent => ((onGrid? units exponent).getD 0, exponent)
  | bound + 1, exponent =>
    match onGrid? units exponent with
    | some digits => (digits, exponent)
    | none => shortestFrom units bound (exponent - 1)

/-! ## Layout -/

/-- Where positional notation ends: numbers from `10 ^ 16` on and below `10 ^ -4` have an
exponent, of at least two digits and with a sign. -/
def positionalLow : Int := -4

def positionalHigh : Int := 16

def exponentText (exponent : Int) : String :=
  let digits := toString exponent.natAbs
  (if exponent < 0 then "-" else "+") ++ (if digits.length < 2 then "0" ++ digits else digits)

def zeros (count : Nat) : String := String.ofList (List.replicate count '0')

/-- Digits with the decimal exponent of the first one, as text. -/
def layout (digits : List Char) (leading : Int) : String :=
  if positionalLow ≤ leading ∧ leading < positionalHigh then
    if leading < 0 then "0." ++ zeros (-leading - 1).toNat ++ String.ofList digits
    else
      let places := leading.toNat + 1
      let whole := String.ofList (digits.take places) ++ zeros (places - digits.length)
      let fraction := digits.drop places
      whole ++ "." ++ (if fraction.isEmpty then "0" else String.ofList fraction)
  else
    let fraction := digits.drop 1
    String.ofList (digits.take 1)
      ++ (if fraction.isEmpty then "" else "." ++ String.ofList fraction)
      ++ "e" ++ exponentText leading

def dropZeros (digits : List Char) : List Char :=
  (digits.reverse.dropWhile (· = '0')).reverse

def magnitudeText (units : Nat) : String :=
  if units = 0 then "0.0"
  else
    let leading := leadingExponent units 700 309
    let (digits, last) := shortestFrom units 17 leading
    let chars := (toString digits).toList
    layout (dropZeros chars) (last + (chars.length - 1 : Nat))

def shortest : Binary64 → String
  | nan => "nan"
  | infinite negative => if negative then "-inf" else "inf"
  | finite negative units => (if negative then "-" else "") ++ magnitudeText units

end Binary64

end Linting.Number
