import Linting.Terminal.Styled

/-! Tables without rules: a header and rows, with one space around every cell. Columns are as wide
as their widest cell. If the table is too wide, the columns that wrap give way first, and then all
of them evenly. -/

namespace Linting.Terminal
set_option autoImplicit false

structure Column where
  header : String
  wraps : Bool
  cells : List Styled
deriving DecidableEq, Repr

structure Table where
  columns : List Column
  headerStyle : Style := {}
deriving DecidableEq, Repr

namespace Column

/-- The spaces around a cell. -/
def padding : Nat := 2

/-- The characters that end a line when a text is measured. -/
def endsLine (c : Char) : Bool :=
  [0xA, 0x1C, 0x1D, 0x1E, 0x85, 0x2028, 0x2029].contains c.toNat

def headerCell (c : Column) : Styled := .ofList c.header.toList {}

/-- The width of a column where some cells of a terminal are left for it. -/
def measure (c : Column) (room : Nat) : Nat :=
  if room ≤ padding then room
  else
    let widths := (c.headerCell :: c.cells).map fun t =>
      min (min (widest endsLine t.chars) room + padding) room
    widths.foldl max 0

end Column

/-! ## Widths -/

def total (widths : List Nat) : Nat := widths.foldr (· + ·) 0

/-- Takes an amount from values in equal shares, but from none more than it allows. -/
def reduceEvenly (amount : Nat) : List (Nat × Nat) → Nat → List Nat
  | [], _ => []
  | (value, most) :: rest, sharers =>
    if most = 0 ∨ sharers = 0 then value :: reduceEvenly amount rest sharers
    else
      let share := min most (Colour.roundHalfEven amount sharers)
      (value - share) :: reduceEvenly (amount - share) rest (sharers - 1)

/-- Narrows the widest columns that wrap down to the next narrower ones, until the widths fit. -/
def collapse (room : Nat) (columns : List (Nat × Bool)) : Nat → List (Nat × Bool)
  | 0 => columns
  | rounds + 1 =>
    let excess : Nat := total (columns.map (·.1)) - room
    let wrapping : List Nat := (columns.filter (·.2)).map (·.1)
    let most : Nat := wrapping.foldl max 0
    let second : Nat := (wrapping.filter (· ≠ most)).foldl max 0
    if excess = 0 ∨ most = second then columns
    else
      let allowed := columns.map fun (width, wraps) =>
        (width, if wraps && width = most then min excess (most - second) else 0)
      let narrowed := reduceEvenly excess allowed (allowed.filter (·.2 ≠ 0)).length
      collapse room (List.zip narrowed (columns.map (·.2))) rounds

namespace Table

/-- The widths of the columns on a terminal. -/
def widths (t : Table) (room : Nat) : List Nat :=
  let wanted := t.columns.map fun c => max 1 (c.measure room)
  if total wanted ≤ room then wanted
  else
    let columns := List.zip wanted (t.columns.map (·.wraps))
    let narrowed := (collapse room columns columns.length).map (·.1)
    let excess := total narrowed - room
    let final :=
      if excess = 0 then narrowed
      else reduceEvenly excess (List.zip narrowed narrowed) (narrowed.filter (· ≠ 0)).length
    (List.zip t.columns final).map fun (c, width) => c.measure width

/-! ## Lines -/

/-- The lines of a cell without the spaces around them. There are none if it has no room. -/
def cellTexts (wraps : Bool) (width : Nat) (text : Styled) : List Styled :=
  if width ≤ Column.padding then [] else text.column wraps (width - Column.padding)

/-- The lines of a cell, with the spaces around them. -/
def cellLines (style : Style) (wraps : Bool) (width : Nat) (text : Styled) : List (List Segment) :=
  (cellTexts wraps width text).map fun line =>
    let inner := line.segments.map fun s => { s with style := style.under s.style }
    let pad : Segment := ⟨[' '], style⟩
    pad :: inner ++ [pad]

/-- The lines of a row. Cells of fewer lines than others are followed by blank lines, and in the
header they come after them. -/
def rowLines (isHeader : Bool) (style : Style) (cells : List (Nat × List (List Segment))) :
    List (List Segment) :=
  let height := (cells.map (·.2.length)).foldl max 1
  let full := cells.map fun (width, lines) =>
    let blank := List.replicate (height - lines.length) [(⟨spaces width, style⟩ : Segment)]
    if isHeader then blank ++ lines else lines ++ blank
  (List.range height).map fun i => full.flatMap fun lines => (lines[i]?).getD []

def row (t : Table) (widths : List Nat) (isHeader : Bool) (cellOf : Column → Styled) :
    List (List Segment) :=
  let style := if isHeader then t.headerStyle else {}
  let cells := (List.zip widths t.columns).map fun (width, c) =>
    (width, cellLines style c.wraps width (cellOf c))
  rowLines isHeader style cells

def rowCount (t : Table) : Nat := (t.columns.map (·.cells.length)).foldl max 0

/-- A cell of a column; below the last one there is nothing in it. -/
def cellAt (i : Nat) (c : Column) : Styled := (c.cells[i]?).getD { chars := [] }

def lines (t : Table) (room : Nat) : List (List Segment) :=
  let widths := t.widths room
  t.row widths true Column.headerCell
    ++ (List.range t.rowCount).flatMap fun i => t.row widths false (cellAt i)

/-- The faults of the styles that are left when the cells have been cut to their lines, row by
row. -/
def faults (t : Table) (room : Nat) : List PartFault :=
  (List.range t.rowCount).flatMap fun i =>
    (List.zip (t.widths room) t.columns).flatMap fun (width, c) =>
      (cellTexts c.wraps width (cellAt i c)).flatMap Styled.faults

end Table

/-- Lines as they are written, each followed by a newline. -/
def written (coloured : Bool) (lines : List (List Segment)) : String :=
  String.ofList (lines.flatMap fun line => paintLine coloured line ++ ['\n'])

end Linting.Terminal
