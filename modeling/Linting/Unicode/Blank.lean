import Linting.Unicode.Ranges

/-! White space: the separators of Unicode and the control characters that separate text. -/

namespace Linting.Unicode
set_option autoImplicit false

def blankRanges : List (Nat × Nat) := [
  (0x9, 0xD), (0x1C, 0x20), (0x85, 0x85), (0xA0, 0xA0), (0x1680, 0x1680), (0x2000, 0x200A),
  (0x2028, 0x2029), (0x202F, 0x202F), (0x205F, 0x205F), (0x3000, 0x3000)]

def isBlank (c : Nat) : Bool := covers blankRanges c

/-- A text without the white space around it. -/
def trim (text : List Char) : List Char :=
  let blank := fun c : Char => isBlank c.toNat
  ((text.dropWhile blank).reverse.dropWhile blank).reverse

end Linting.Unicode
