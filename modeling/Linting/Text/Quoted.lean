import Linting.Unicode.Printable

/-! Quoted text: how a text is shown inside a message. It stands between single quotes, or
between double quotes when it holds a single quote and no double one; line breaks, tabs,
backslashes, the quote itself and characters that cannot be shown are escaped. -/

namespace Linting.Text
set_option autoImplicit false

/-! ## Hexadecimal numbers of fixed length -/

def hexDigit (d : Nat) : Char :=
  if d < 10 then Char.ofNat (0x30 + d) else Char.ofNat (0x57 + d)

/-- The last `places` hexadecimal digits of a number, most significant first. -/
def hexDigits : Nat → Nat → List Char
  | 0, _ => []
  | places + 1, n => hexDigits places (n / 16) ++ [hexDigit (n % 16)]

/-! ## Quoting -/

def singleQuote : Char := '\x27'

def doubleQuote : Char := '\x22'

/-- The escape of a character that cannot be shown: two, four or eight hexadecimal digits. -/
def codePointEscape (n : Nat) : List Char :=
  if n < 0x100 then '\\' :: 'x' :: hexDigits 2 n
  else if n < 0x10000 then '\\' :: 'u' :: hexDigits 4 n
  else '\\' :: 'U' :: hexDigits 8 n

def quotedChar (quote c : Char) : List Char :=
  if c = quote ∨ c = '\\' then ['\\', c]
  else if c = '\n' then ['\\', 'n']
  else if c = '\r' then ['\\', 'r']
  else if c = '\t' then ['\\', 't']
  else if Unicode.isPrintable c.toNat then [c]
  else codePointEscape c.toNat

def quoteFor (text : List Char) : Char :=
  if text.contains singleQuote && !text.contains doubleQuote then doubleQuote else singleQuote

def quoted (text : String) : String :=
  let quote := quoteFor text.toList
  String.ofList (quote :: text.toList.flatMap (quotedChar quote) ++ [quote])

end Linting.Text
