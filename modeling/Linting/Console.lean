import Linting.Diagnostic
import Linting.Terminal.Markup
import Linting.Terminal.Table
import Linting.Text.Lower

/-! What is shown to a person: status lines, and diagnostics as a table. Styles are used on a
terminal only, and there unless colour is turned off. No table comes about if a position has too
many digits to be written, or if a place or a message is no markup. -/

namespace Linting.Console
set_option autoImplicit false

open Terminal

/-! ## The terminal -/

/-- What the standard output is. -/
inductive Output where
  | terminal
  | stream
  | closed
  | absent
deriving DecidableEq, Repr

def Output.isTerminal (o : Output) : Bool := o = .terminal

/-- The cells of a line. -/
def width : Nat := 80

/-- Whether styles are used, given what was asked for. -/
def usesStyles (onTerminal : Bool) (colour : Option Bool) : Bool :=
  onTerminal && colour.getD onTerminal

def foreground (name : String) (number : Nat) : Style :=
  { colour := some ⟨name, .palette number⟩ }

/-! ## Status lines -/

inductive Status where
  | info
  | ok
  | warn
  | fail
deriving DecidableEq, Repr

namespace Status

def style : Status → Style
  | info => foreground "cyan" 6
  | ok => foreground "green" 2
  | warn => foreground "yellow" 3
  | fail => foreground "red" 1

def icon : Status → List Char
  | info => [Char.ofNat 0x2139, selector]
  | ok => [Char.ofNat 0x2705]
  | warn => [Char.ofNat 0x26A0, selector]
  | fail => [Char.ofNat 0x274C]

/-- A message as it is written. It is neither wrapped nor read as markup. -/
def line (s : Status) (message : String) (emoji coloured : Bool) : String :=
  let text := Styled.ofList ((if emoji then s.icon ++ [' '] else []) ++ message.toList) {}
  let spans := if text.chars.isEmpty then [] else [⟨0, text.length, s.style, none⟩]
  let lines := ({ text with spans } : Styled).lines.map Styled.expandTabs
  written coloured (lines.map Styled.segments)

end Status

/-! ## Diagnostics -/

def severityStyles : List (String × Style) :=
  [("error", { attributes := [(.bold, true)], colour := some ⟨"red", .palette 1⟩ }),
    ("warning", foreground "yellow" 3), ("info", foreground "cyan" 6),
    ("note", foreground "cyan" 6)]

/-- The style of a severity; its case does not matter. -/
def severityStyle (severity : String) : Style :=
  (severityStyles.lookup (String.ofList (Text.lowerText severity.toList))).getD {}

/-- Why diagnostics are not shown. -/
inductive RenderError where
  | unwritable
  | markup (error : MarkupError)
deriving DecidableEq, Repr

def RenderError.message : RenderError → String
  | unwritable => Text.unwritableMessage
  | markup error => error.message

/-- The place of a diagnostic: file, line and column, both counted from one. -/
def location (d : Diagnostic) : Option String := do
  let file := d.filePath.getD ""
  let line ← Text.written? (d.start.line + 1 : Nat)
  let column ← Text.written? (d.start.column + 1 : Nat)
  return (if file.isEmpty then "-" else file) ++ ":" ++ line ++ ":" ++ column

def locate (d : Diagnostic) : Except RenderError String :=
  (location d).elim (.error .unwritable) .ok

/-- The types of diagnostics, each in the style of its severity. -/
def typeCells (coloured : Bool) (diagnostics : List Diagnostic) : List Styled :=
  diagnostics.map fun d =>
    let severity := d.type.getD ""
    Styled.ofList severity.toList (if coloured then severityStyle severity else {})

def layout (coloured : Bool) (locations types messages : List Styled) : Table where
  columns := [⟨"Location", false, locations⟩, ⟨"Type", false, types⟩, ⟨"Message", true, messages⟩]
  headerStyle := if coloured then { attributes := [(.bold, true)] } else {}

/-- The cell of a text with markup. -/
def cell (literal : LiteralReader) (text : String) : Except RenderError Styled :=
  (Markup.read literal text).mapError .markup

/-- The table of diagnostics. Places and messages are read as markup, severities are not. All places
have their texts before the first of them is read. -/
def table (literal : LiteralReader) (coloured : Bool) (diagnostics : List Diagnostic) :
    Except RenderError Table := do
  let places ← diagnostics.mapM locate
  let locations ← places.mapM (cell literal)
  let messages ← (diagnostics.map fun d => d.text.getD "").mapM (cell literal)
  return layout coloured locations (typeCells coloured diagnostics) messages

/-- The diagnostics as they are written. Styles that cannot be read are found out only now. -/
def render (literal : LiteralReader) (coloured : Bool) (diagnostics : List Diagnostic) :
    Except RenderError String := do
  let t ← table literal coloured diagnostics
  match t.faults width with
  | fault :: _ => throw (.markup (.colour fault))
  | [] => return written coloured (t.lines width)

end Linting.Console
