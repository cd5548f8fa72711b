/-! Text buffers: rows of text as an editor shows them. A buffer over a text has a row for each
stretch between line breaks; a line break is a carriage return with a line feed, or either of them
alone, and one at the end of the text leaves a last empty row. -/

namespace Linting
set_option autoImplicit false

/-! ## Rows of a text -/

/-- Puts a character in front of the first row. -/
def consFirst (c : Char) : List (List Char) → List (List Char)
  | first :: others => (c :: first) :: others
  | [] => [[c]]

def rows : List Char → List (List Char)
  | [] => [[]]
  | '\r' :: '\n' :: rest => [] :: rows rest
  | '\r' :: rest => [] :: rows rest
  | '\n' :: rest => [] :: rows rest
  | c :: rest => consFirst c (rows rest)

/-! ## Buffers -/

/-- A row that a buffer does not have was asked for. -/
inductive RowError where
  | outOfRange
deriving DecidableEq, Repr

def RowError.message : RowError → String
  | outOfRange => "list index out of range"

/-- A buffer as its users see it: a number of rows, and the text and the length of each. Nothing
says that these agree. -/
structure TextBuffer where
  lineCount : Int
  lineForRow : Int → Except RowError String
  lineLengthForRow : Int → Except RowError Int

/-- The item of a list at a place; a negative place counts from the end. -/
def itemAt {α : Type} (items : List α) (place : Int) : Except RowError α :=
  let index := if place < 0 then place + items.length else place
  match index with
  | .ofNat i =>
    match items[i]? with
    | some item => .ok item
    | none => .error .outOfRange
  | .negSucc _ => .error .outOfRange

namespace TextBuffer

/-- A buffer that answers from lists of rows and of lengths. -/
def ofLists (count : Int) (lines : List String) (lengths : List Int) : TextBuffer where
  lineCount := count
  lineForRow := itemAt lines
  lineLengthForRow := itemAt lengths

/-- The buffer over a text. -/
def ofString (text : String) : TextBuffer :=
  let lines := (rows text.toList).map String.ofList
  ofLists lines.length lines (lines.map fun line => (line.length : Int))

end TextBuffer

end Linting
