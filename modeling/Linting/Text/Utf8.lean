/-! Reading bytes as UTF-8. Where the bytes are none, each longest start of a character that is
broken off, and each byte that starts none, is one replacement character. -/

namespace Linting.Text
set_option autoImplicit false

def isContinuation (b : Nat) : Bool := 0x80 ≤ b && b < 0xC0

/-- What a first byte asks for: the number of further bytes, the bounds of the second byte, and
the bits it gives. -/
structure Lead where
  more : Nat
  low : Nat
  high : Nat
  bits : Nat

def lead? (b : Nat) : Option Lead :=
  if 0xC2 ≤ b ∧ b < 0xE0 then some ⟨1, 0x80, 0xBF, b - 0xC0⟩
  else if b = 0xE0 then some ⟨2, 0xA0, 0xBF, 0⟩
  else if b = 0xED then some ⟨2, 0x80, 0x9F, 0xD⟩
  else if 0xE1 ≤ b ∧ b < 0xF0 then some ⟨2, 0x80, 0xBF, b - 0xE0⟩
  else if b = 0xF0 then some ⟨3, 0x90, 0xBF, 0⟩
  else if b = 0xF4 then some ⟨3, 0x80, 0x8F, 4⟩
  else if 0xF1 ≤ b ∧ b < 0xF4 then some ⟨3, 0x80, 0xBF, b - 0xF0⟩
  else none

/-- Reads up to the given number of continuation bytes; the value so far, the number of bytes
read, and whether all were there. -/
def continued : Nat → Nat → List Nat → Nat × Nat × Bool
  | 0, value, _ => (value, 0, true)
  | _ + 1, value, [] => (value, 0, false)
  | count + 1, value, b :: rest =>
    if isContinuation b then
      let (v, n, whole) := continued count (64 * value + (b - 0x80)) rest
      (v, n + 1, whole)
    else (value, 0, false)

/-- The first character of a text of bytes, if there is one, and the number of bytes it or its
broken start takes. -/
def firstCharacter (b : Nat) (rest : List Nat) : Option Char × Nat :=
  if b < 0x80 then (some (Char.ofNat b), 1)
  else
    match lead? b, rest with
    | none, _ => (none, 1)
    | some _, [] => (none, 1)
    | some lead, second :: others =>
      if lead.low ≤ second ∧ second ≤ lead.high then
        let (value, count, whole) :=
          continued (lead.more - 1) (64 * lead.bits + (second - 0x80)) others
        (if whole then some (Char.ofNat value) else none, count + 2)
      else (none, 1)

/-- The characters of a text of bytes; none stands for bytes that are no character. -/
def characters : List Nat → List (Option Char)
  | [] => []
  | b :: rest =>
    let (c, size) := firstCharacter b rest
    c :: characters (rest.drop (size - 1))
termination_by bytes => bytes.length
decreasing_by simp only [List.length_drop, List.length_cons]; omega

def replacement : Char := Char.ofNat 0xFFFD

def decodeLoosely (bytes : List UInt8) : String :=
  String.ofList ((characters (bytes.map UInt8.toNat)).map (·.getD replacement))

/-- The text of bytes that are UTF-8 throughout. -/
def decode? (bytes : List UInt8) : Option String :=
  ((characters (bytes.map UInt8.toNat)).mapM id).map String.ofList

def encode (text : String) : List UInt8 := text.toUTF8.toList

end Linting.Text
