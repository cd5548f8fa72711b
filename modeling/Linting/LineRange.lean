import Linting.Buffer
import Linting.Diagnostic
import Linting.Text.Integer
import Linting.Unicode.Blank

/-! Ranges within one row of a buffer, from loose input: a row, a column and a length, each of
which may be missing or unusable. -/

namespace Linting
set_option autoImplicit false

/-- Why there is no range. A place that is too large is told with its bound; if one of the two has
too many digits to be written, that is told in its stead. -/
inductive RangeError where
  | noBuffer
  | lineTooLarge (line : Nat) (last : Int)
  | columnTooLarge (column : Nat) (length : Int)
  | unwritable
  | row (error : RowError)
deriving DecidableEq, Repr

namespace RangeError

def message : RangeError → String
  | noBuffer => "Invalid or no `buffer` provided"
  | lineTooLarge line last =>
    "Line number (" ++ toString line ++ ") greater than maximum line (" ++ toString last ++ ")"
  | columnTooLarge column length =>
    "Column start (" ++ toString column ++ ") greater than line length (" ++ toString length ++ ")"
  | unwritable => Text.unwritableMessage
  | row error => error.message

/-- An error that is told with a place and its bound, if both can be written. -/
def told (error : Nat → Int → RangeError) (place : Nat) (bound : Int) : RangeError :=
  if Text.isWritable place && Text.isWritable bound then error place bound else .unwritable

end RangeError

/-- A number that can be a place or a length: finite and not negative, less its fraction. Truth
values are no numbers. -/
def usable? : Value → Option Nat
  | .int (.ofNat n) => some n
  | .float x => if x.isFinite && x.isNonnegative then some x.wholePart else none
  | _ => none

def indentation (line : String) : Nat :=
  (line.toList.takeWhile fun c => Unicode.isBlank c.toNat).length

namespace TextBuffer

/-- The column a range starts at: the one asked for, else the first behind the indentation. -/
def startColumn (b : TextBuffer) (line : Nat) (column : Value) : Except RangeError Nat :=
  match usable? column with
  | some c => .ok c
  | none => ((b.lineForRow line).map indentation).mapError .row

/-- The range in a row that starts at a column. Without a usable length it goes to the end. -/
def rangeFrom (b : TextBuffer) (line column : Nat) (length : Value) :
    Except RangeError TextRange :=
  match b.lineLengthForRow line with
  | .error e => .error (.row e)
  | .ok size =>
    if size < (column : Int) then .error (.told .columnTooLarge column size)
    else
      let span := (usable? length).getD (size - column).toNat
      .ok ⟨⟨line, column⟩, ⟨line, column + span⟩⟩

/-- The range at a row and a column. An unusable row is the first one. -/
def rangeAt (b : TextBuffer) (line column length : Value) : Except RangeError TextRange :=
  let row := (usable? line).getD 0
  let last := b.lineCount - 1
  if last < (row : Int) then .error (.told .lineTooLarge row last)
  else
    match b.startColumn row column with
    | .error e => .error e
    | .ok start => b.rangeFrom row start length

end TextBuffer

/-- The range in what may be a buffer. -/
def rangeIn (buffer : Option TextBuffer) (line column length : Value) :
    Except RangeError TextRange :=
  match buffer with
  | none => .error .noBuffer
  | some b => b.rangeAt line column length

end Linting
