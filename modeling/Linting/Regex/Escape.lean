import Linting.Regex.Source
import Linting.Unicode.Name

/-! Escapes: the characters, classes and references that a backslash introduces. -/

namespace Linting.Regex
set_option autoImplicit false

/-! ## Classes of digits -/

def isOctal (c : Char) : Bool := '0' ≤ c && c ≤ '7'

def isHex (c : Char) : Bool :=
  ('0' ≤ c && c ≤ '9') || ('a' ≤ c && c ≤ 'f') || ('A' ≤ c && c ≤ 'F')

def isAsciiLetter (c : Char) : Bool := ('a' ≤ c && c ≤ 'z') || ('A' ≤ c && c ≤ 'Z')

def isAsciiDigit (c : Char) : Bool := '0' ≤ c && c ≤ '9'

def digitOf (c : Char) : Nat :=
  if isAsciiDigit c then c.toNat - 0x30
  else if 'a' ≤ c then c.toNat - 0x57
  else c.toNat - 0x37

def numberOf (base : Nat) (digits : List Char) : Nat :=
  digits.foldl (fun n c => base * n + digitOf c) 0

/-! ## Characters -/

def controlEscape? : Char → Option Nat
  | 'a' => some 7
  | 'b' => some 8
  | 'f' => some 12
  | 'n' => some 10
  | 'r' => some 13
  | 't' => some 9
  | 'v' => some 11
  | '\\' => some 0x5C
  | _ => none

def categoryEscape? : Char → Option SetItem
  | 'd' => some (.category .digit false)
  | 'D' => some (.category .digit true)
  | 's' => some (.category .blank false)
  | 'S' => some (.category .blank true)
  | 'w' => some (.category .word false)
  | 'W' => some (.category .word true)
  | _ => none

def anchorEscape? : Char → Option Anchor
  | 'A' => some .textStart
  | 'b' => some .boundary
  | 'B' => some .notBoundary
  | 'Z' => some .textEnd
  | _ => none

namespace Read
variable {α : Type}

def escapeText (c : Char) (digits : List Char) : String := String.ofList ('\\' :: c :: digits)

def failEscape (cause : String → Cause) (c : Char) (digits : List Char) : Read α :=
  fail (cause (escapeText c digits)) (digits.length + 2)

/-- An escape of exactly the given number of hexadecimal digits. -/
def hexEscape (c : Char) (places : Nat) : Read Nat := do
  let digits ← charsOf isHex places
  if digits.length < places then failEscape .incompleteEscape c digits
  let n := numberOf 16 digits
  if n < 0x110000 then return n
  if n < 0x80000000 then failEscape .badEscape c digits
  throw .codePointTooLarge

/-- A character given by its name between braces. -/
def namedCharacter : Read Nat := do
  unless (← skip '\x7b') do fail .missingBrace 0
  let text ← name '\x7d' "character name"
  match Unicode.named? text with
  | some c => return c
  | none => fail (.unknownCharacterName text) (text.length + 4)

/-- The escapes that mean one character wherever they stand, apart from octal numbers. -/
def characterEscape? (c : Char) : Option (Read Nat) :=
  match c with
  | 'x' => some (hexEscape c 2)
  | 'u' => some (hexEscape c 4)
  | 'U' => some (hexEscape c 8)
  | 'N' => some namedCharacter
  | _ => none

/-- Any other escaped character means itself, unless it is a letter or a digit. -/
def plainEscape (c : Char) : Read Nat := do
  if isAsciiLetter c || isAsciiDigit c then failEscape .badEscape c []
  return c.toNat

def octalEscape (c : Char) (digits : List Char) : Read Nat := do
  let n := numberOf 8 (c :: digits)
  if 0xFF < n then failEscape .octalTooLarge c digits
  return n

/-! ## Escapes in a set and outside -/

def setEscape (c : Char) : Read SetItem := do
  match controlEscape? c, categoryEscape? c with
  | some n, _ => return .single n
  | _, some item => return item
  | none, none =>
    match characterEscape? c with
    | some read => return .single (← read)
    | none =>
      if isOctal c then return .single (← octalEscape c (← charsOf isOctal 2))
      return .single (← plainEscape c)

/-- A backslash and digits: an octal number if it starts with zero or has three octal digits,
else a reference. -/
def digitEscape (c : Char) : Read Node := do
  if c = '0' then
    return .char (numberOf 8 (← charsOf isOctal 2))
  let second ← charsOf isAsciiDigit 1
  if isOctal c && !second.isEmpty && second.all isOctal then
    let third ← charsOf isOctal 1
    unless third.isEmpty do return .char (← octalEscape c (second ++ third))
  let group := numberOf 10 (c :: second)
  if group < (← get).groupCount then
    reference group (second.length + 2)
  else fail (.noSuchGroup group) (second.length + 1)

def escape (c : Char) : Read Node := do
  match anchorEscape? c, categoryEscape? c, controlEscape? c with
  | some anchor, _, _ => return .anchor anchor
  | _, some item, _ => return .set ⟨false, [item]⟩
  | _, _, some n => return .char n
  | none, none, none =>
    match characterEscape? c with
    | some read => return .char (← read)
    | none =>
      if isAsciiDigit c then digitEscape c
      else return .char (← plainEscape c)

end Read

end Linting.Regex
