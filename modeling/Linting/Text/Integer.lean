import Linting.Unicode.Blank
import Linting.Unicode.Digit

/-! Whole numbers written as text: white space around, an optional sign, decimal digits of any
script with single underscores between them. Texts of more than 4300 digits are refused. -/

namespace Linting.Text
set_option autoImplicit false

/-- The most digits a number may be written with. -/
def digitLimit : Nat := 4300

/-- Whether a number has no more digits than it may be written with. -/
def isWritable (n : Int) : Bool := n.natAbs < Nat.pow 10 digitLimit

/-- A number in decimal digits, if it may be written. -/
def written? (n : Int) : Option String := if isWritable n then some (toString n) else none

def unwritableMessage : String :=
  "Exceeds the limit (4300 digits) for integer string conversion; use "
    ++ "sys.set_int_max_str_digits() to increase the limit"

/-- What is said of a number with more digits than may be read. -/
def digitsMessage (digits : Nat) : String :=
  "Exceeds the limit (4300 digits) for integer string conversion: value has " ++ toString digits
    ++ " digits; use sys.set_int_max_str_digits() to increase the limit"

/-- White space that may surround a number: the four separator controls U+001C to U+001F, which
are white space elsewhere, are not among it. -/
def isNumberBlank (c : Char) : Bool :=
  Unicode.isBlank c.toNat && !(0x1C ≤ c.toNat && c.toNat ≤ 0x1F)

def trimNumber (text : List Char) : List Char :=
  ((text.dropWhile isNumberBlank).reverse.dropWhile isNumberBlank).reverse

/-- The digits of a text in which single underscores may stand between digits. -/
def digitValues? : List Char → Option (List Nat)
  | [] => none
  | [c] => (Unicode.digitValue? c.toNat).map ([·])
  | c :: '_' :: rest =>
    match Unicode.digitValue? c.toNat, digitValues? rest with
    | some d, some ds => some (d :: ds)
    | _, _ => none
  | c :: rest =>
    match Unicode.digitValue? c.toNat, digitValues? rest with
    | some d, some ds => some (d :: ds)
    | _, _ => none

def ofDigits (digits : List Nat) : Nat := digits.foldl (fun n d => 10 * n + d) 0

/-- A sign in front of a text, and the rest. -/
def splitSign : List Char → Bool × List Char
  | '-' :: rest => (true, rest)
  | '+' :: rest => (false, rest)
  | text => (false, text)

def readInteger? (text : List Char) : Option Int :=
  let (negative, body) := splitSign (trimNumber text)
  match digitValues? body with
  | none => none
  | some digits =>
    if digitLimit < digits.length then none
    else some (if negative then -(ofDigits digits : Int) else ofDigits digits)

end Linting.Text
