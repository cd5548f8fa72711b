import Linting.Text.Quoted
import Linting.Value
import Linting.Text.Integer

/-! Coordinates as tools write them, counted from one, and as diagnostics hold them, counted from
zero. -/

namespace Linting
set_option autoImplicit false

/-- Why a text that looks like a number is none: it has too many digits, or the white space around
it is of a kind that numbers may not have. -/
inductive CoordinateError where
  | tooManyDigits (digits : Nat)
  | unreadable (raw : String)
deriving DecidableEq, Repr

/-- The most characters of a quoted text that a message shows. -/
def shownLimit : Nat := 200

def CoordinateError.message : CoordinateError → String
  | tooManyDigits digits => Text.digitsMessage digits
  | unreadable raw =>
    "invalid literal for int() with base 10: "
      ++ String.ofList ((Text.quoted raw).toList.take shownLimit)

namespace Coordinate

/-! ## Numbers in texts -/

def isDigit (c : Char) : Bool := '0' ≤ c && c ≤ '9'

/-- The sign and the digits of a text that is a number between white space. -/
def numeral? (raw : List Char) : Option (Bool × List Char) :=
  let (negative, digits) := Text.splitSign (Unicode.trim raw)
  if !digits.isEmpty && digits.all isDigit then some (negative, digits) else none

def value (negative : Bool) (digits : List Char) : Int :=
  let n := Text.ofDigits (digits.map fun c => c.toNat - 0x30)
  if negative then -(n : Int) else n

/-- Whether a text begins with white space that numbers may not have. -/
def hasBadBlank (text : List Char) : Bool :=
  (text.takeWhile fun c => Unicode.isBlank c.toNat).any fun c => !Text.isNumberBlank c

/-- The number a text stands for, if it looks like one. The white space in front is looked at
first, then the digits, then the white space behind. -/
def readText (raw : String) : Except CoordinateError (Option Int) :=
  match numeral? raw.toList with
  | none => .ok none
  | some (negative, digits) =>
    if hasBadBlank raw.toList then .error (.unreadable raw)
    else if Text.digitLimit < digits.length then .error (.tooManyDigits digits.length)
    else if hasBadBlank raw.toList.reverse then .error (.unreadable raw)
    else .ok (some (value negative digits))

def read : Value → Except CoordinateError (Option Int)
  | .int n => .ok (some n)
  | .text s => readText s
  | _ => .ok none

/-! ## Counting from zero -/

/-- A coordinate counted from zero; what is no positive number is zero. -/
def fromZero : Option Int → Nat
  | some n => (n - 1).toNat
  | none => 0

def normalize (raw : Value) : Except CoordinateError Nat := (read raw).map fromZero

end Coordinate

end Linting
