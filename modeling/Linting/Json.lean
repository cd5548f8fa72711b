import Linting.Text.Integer
import Linting.Text.Quoted

/-! JSON trees, and their text in ASCII: two spaces for each level, an item or a field per line,
and nothing between the brackets of an empty list or record. A tree has no text if a number in it
has more digits than may be written. -/

namespace Linting
set_option autoImplicit false

inductive Json where
  | null
  | int (n : Int)
  | text (s : String)
  | list (items : List Json)
  | record (fields : List (String × Json))
deriving Repr, Inhabited

namespace Json

/-! ## Texts -/

/-- The characters that have an escape of one letter. -/
def letterEscapes : List (Char × Char) :=
  [('\x22', '\x22'), ('\\', '\\'), ('\n', 'n'), ('\r', 'r'), ('\t', 't'), ('\x0c', 'f'),
    ('\x08', 'b')]

def unitEscape (unit : Nat) : List Char := '\\' :: 'u' :: Text.hexDigits 4 unit

/-- The two units of a code point that takes more than one. -/
def surrogates (n : Nat) : Nat × Nat :=
  (0xD800 + (n - 0x10000) / 0x400, 0xDC00 + (n - 0x10000) % 0x400)

def codePointEscape (n : Nat) : List Char :=
  if n < 0x10000 then unitEscape n
  else unitEscape (surrogates n).1 ++ unitEscape (surrogates n).2

/-- A character between quotes. Printable ASCII characters other than the quote and the backslash
stand for themselves. -/
def writtenChar (c : Char) : List Char :=
  match letterEscapes.lookup c with
  | some letter => ['\\', letter]
  | none => if ' ' ≤ c ∧ c ≤ '~' then [c] else codePointEscape c.toNat

def writtenText (s : String) : List Char :=
  '\x22' :: s.toList.flatMap writtenChar ++ ['\x22']

/-! ## Trees -/

def newline (depth : Nat) : List Char := '\n' :: List.replicate (2 * depth) ' '

/-- Items between brackets, each on a line of its own. -/
def enclosed (first last : Char) (depth : Nat) (items : List (List Char)) : List Char :=
  if items.isEmpty then [first, last]
  else first :: newline (depth + 1) ++ (List.intersperse (',' :: newline (depth + 1)) items).flatten
    ++ newline depth ++ [last]

mutual

/-- The characters of a tree at a depth. -/
def written (depth : Nat) : Json → List Char
  | null => ['n', 'u', 'l', 'l']
  | int n => (toString n).toList
  | text s => writtenText s
  | list items => enclosed '[' ']' depth (writtenItems (depth + 1) items)
  | record fields => enclosed '\x7b' '\x7d' depth (writtenFields (depth + 1) fields)

def writtenItems (depth : Nat) : List Json → List (List Char)
  | [] => []
  | item :: rest => written depth item :: writtenItems depth rest

def writtenFields (depth : Nat) : List (String × Json) → List (List Char)
  | [] => []
  | (name, item) :: rest =>
    (writtenText name ++ [':', ' '] ++ written depth item) :: writtenFields depth rest

end

mutual

/-- Whether all numbers of a tree may be written. -/
def isWritable : Json → Bool
  | null => true
  | int n => Text.isWritable n
  | text _ => true
  | list items => areWritable items
  | record fields => fieldsWritable fields

def areWritable : List Json → Bool
  | [] => true
  | item :: rest => isWritable item && areWritable rest

def fieldsWritable : List (String × Json) → Bool
  | [] => true
  | (_, item) :: rest => isWritable item && fieldsWritable rest

end

def toText? (j : Json) : Option String :=
  if j.isWritable then some (String.ofList (j.written 0)) else none

end Json

end Linting
