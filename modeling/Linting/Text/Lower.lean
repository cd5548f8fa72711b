import Linting.Unicode.Case

/-! The lower case of a text. A small sigma has one form, at the end of a word too. -/

namespace Linting.Text
set_option autoImplicit false

/-- The lower case of a character. The dotted capital I is the only one with two characters. -/
def lowerChar (c : Char) : List Char :=
  if c = Char.ofNat 0x130 then ['i', Char.ofNat 0x307] else [Char.ofNat (Unicode.lower c.toNat)]

def lowerText (text : List Char) : List Char := text.flatMap lowerChar

end Linting.Text
