import Linting.Number.Binary64
import Linting.Text.Integer

/-! Reading numbers with a fraction and an exponent: an optional sign, then a word for infinity or
for no number, or digits of any script with single underscores between them, a point and an
exponent. -/

namespace Linting.Number
set_option autoImplicit false

/-! ## Characters in the ordinary alphabet -/

/-- A digit of any script as an ordinary digit. -/
def ordinary (c : Char) : Char :=
  match Unicode.digitValue? c.toNat with
  | some d => Char.ofNat (0x30 + d)
  | none => c

def isDigit (c : Char) : Bool := '0' ≤ c && c ≤ '9'

/-- The text without its underscores, if each of them stands between two digits. -/
def dropUnderscores? : List Char → Option (List Char)
  | [] => some []
  | '_' :: _ => none
  | c :: '_' :: d :: rest =>
    if isDigit c && isDigit d then (dropUnderscores? (d :: rest)).map (c :: ·) else none
  | c :: rest => (dropUnderscores? rest).map (c :: ·)

/-! ## Parts of a number -/

structure Parts where
  whole : List Char
  fraction : List Char
  exponent : Int

def digitsOf (text : List Char) : List Char × List Char :=
  (text.takeWhile isDigit, text.dropWhile isDigit)

def valueOf (digits : List Char) : Nat :=
  digits.foldl (fun n c => 10 * n + (c.toNat - 0x30)) 0

def readExponent? (text : List Char) : Option Int :=
  let (negative, body) := Text.splitSign text
  let (digits, rest) := digitsOf body
  if digits.isEmpty || !rest.isEmpty then none
  else some (if negative then -(valueOf digits : Int) else valueOf digits)

/-- The parts of an unsigned number. There is a digit before or behind the point. -/
def readParts? (text : List Char) : Option Parts :=
  let (whole, rest) := digitsOf text
  let (fraction, rest) :=
    match rest with
    | '.' :: behind => digitsOf behind
    | _ => ([], rest)
  if whole.isEmpty && fraction.isEmpty then none
  else
    match rest with
    | [] => some ⟨whole, fraction, 0⟩
    | c :: behind =>
      if c = 'e' || c = 'E' then
        (readExponent? behind).map fun exponent => ⟨whole, fraction, exponent⟩
      else none

/-- The nearest number to the parts. Beyond four hundred places either way every number is
infinite or zero. -/
def Parts.round (p : Parts) (negative : Bool) : Binary64 :=
  let digits := (p.whole ++ p.fraction).dropWhile (· = '0')
  let n := valueOf digits
  let exponent := p.exponent - p.fraction.length
  let magnitude := exponent + digits.length
  if n = 0 || magnitude < -400 then .finite negative 0
  else if 400 < magnitude then .infinite negative
  else if 0 ≤ exponent then .ofRatio negative (n * Nat.pow 10 exponent.toNat) 1
  else .ofRatio negative n (Nat.pow 10 (-exponent).toNat)

/-! ## Numbers -/

/-- The words for numbers that are none of the finite ones, in any case. -/
def word? (negative : Bool) (text : List Char) : Option Binary64 :=
  let word := String.ofList (text.map Char.toLower)
  if word = "inf" || word = "infinity" then some (.infinite negative)
  else if word = "nan" then some .nan
  else none

def readUnsigned? (negative : Bool) (text : List Char) : Option Binary64 :=
  match word? negative text with
  | some number => some number
  | none => (readParts? text).map (·.round negative)

def read? (text : List Char) : Option Binary64 :=
  match dropUnderscores? ((Text.trimNumber text).map ordinary) with
  | none => none
  | some body =>
    let (negative, unsigned) := Text.splitSign body
    readUnsigned? negative unsigned

end Linting.Number
