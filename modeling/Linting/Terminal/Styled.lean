import Linting.Terminal.Style

/-! Styled text: characters, a style for all of them, and styles for stretches. Cutting a text into
pieces keeps the styles of what is left. -/

namespace Linting.Terminal
set_option autoImplicit false

/-- A stretch of a text and its style. A style that cannot be read is plain, and its fault is told
when the text is written. -/
structure Span where
  start : Nat
  stop : Nat
  style : Style
  fault : Option PartFault := none
deriving DecidableEq, Repr

structure Styled where
  chars : List Char
  spans : List Span := []
  base : Style := {}
deriving DecidableEq, Repr

structure Segment where
  chars : List Char
  style : Style := {}
deriving DecidableEq, Repr

/-- Bell, backspace, vertical tab, form feed and carriage return. -/
def isDropped (c : Char) : Bool := [7, 8, 11, 12, 13].contains c.toNat

namespace Span

/-- A span seen from a piece of the text, if any of it is there. -/
def clip? (span : Span) (start stop : Nat) : Option Span :=
  let first := max span.start start
  let last := min span.stop stop
  if first < last then some { span with start := first - start, stop := last - start } else none

def shift (span : Span) (count : Nat) : Span :=
  { span with start := span.start + count, stop := span.stop + count }

def upTo? (span : Span) (stop : Nat) : Option Span :=
  if span.start < stop then some { span with stop := min span.stop stop } else none

end Span

namespace Styled

/-- A text without the control characters that are dropped. -/
def ofList (chars : List Char) (base : Style) : Styled :=
  { chars := chars.filter fun c => !isDropped c, base }

def length (t : Styled) : Nat := t.chars.length

def faults (t : Styled) : List PartFault := t.spans.filterMap (·.fault)

def baseSpans (t : Styled) : List Span :=
  if t.base.isPlain then [] else [⟨0, t.length, t.base, none⟩]

/-! ## Pieces -/

def piece (t : Styled) (start stop : Nat) : Styled :=
  { t with
    chars := (t.chars.take stop).drop start
    spans := t.spans.filterMap (·.clip? start stop) }

def divide (t : Styled) (places : List Nat) : List Styled :=
  if places.isEmpty then [t]
  else (List.zip (0 :: places) (places ++ [t.length])).map fun (start, stop) => t.piece start stop

def placesOf (c : Char) (t : Styled) : List Nat :=
  (t.chars.zipIdx.filter (·.1 = c)).map (·.2)

def lines (t : Styled) : List Styled :=
  let newlines := t.placesOf '\n'
  if newlines.isEmpty then [t]
  else
    (List.zip (0 :: newlines.map (· + 1)) (newlines ++ [t.length])).map fun (start, stop) =>
      t.piece start stop

/-- Texts one after the other; each keeps its base style as a span. -/
def concat (pieces : List Styled) : Styled :=
  pieces.foldl
    (fun whole p =>
      { whole with
        chars := whole.chars ++ p.chars
        spans := whole.spans ++ (p.baseSpans ++ p.spans).map (·.shift whole.length) })
    { chars := [] }

/-! ## Tabs -/

def tabWidth : Nat := 8

/-- A piece that ends with a tab, with spaces in its place up to the next tab stop. Spans that reach
the end reach over the spaces. -/
def fillTab (p : Styled) (column : Nat) : Styled × Nat :=
  let chars := p.chars.dropLast ++ [' ']
  let reached := column + cells chars
  let missing := (tabWidth - reached % tabWidth) % tabWidth
  let stop := chars.length
  ({ p with
    chars := chars ++ spaces missing
    spans := p.spans.map fun span =>
      if stop ≤ span.stop then { span with stop := span.stop + missing } else span },
    reached + missing)

def fillTabs : List Styled → Nat → List Styled
  | [], _ => []
  | p :: rest, column =>
    if p.chars.getLast? = some '\t' then
      let (filled, reached) := p.fillTab column
      filled :: fillTabs rest reached
    else p :: fillTabs rest (column + cells p.chars)

def expandTabs (t : Styled) : Styled :=
  let tabs := t.placesOf '\t'
  if tabs.isEmpty then t
  else
    let pieces := t.divide (tabs.map (· + 1))
    let pieces := if t.chars.getLast? = some '\t' then pieces.dropLast else pieces
    { concat (fillTabs pieces 0) with base := t.base }

/-! ## Fitting into a width -/

/-- Drops white space at the end, as far as the text has more characters than the width. -/
def dropExcess (t : Styled) (width : Nat) : Styled :=
  let blanks := (t.chars.reverse.takeWhile isBlank).length
  let stop := t.length - min blanks (t.length - width)
  if stop < t.length then
    { t with chars := t.chars.take stop, spans := t.spans.filterMap (·.upTo? stop) }
  else t

def ellipsis : Char := Char.ofNat 0x2026

def truncate (t : Styled) (width : Nat) : Styled :=
  if cells t.chars ≤ width then t
  else
    let chars := fit t.chars (width - 1) ++ [ellipsis]
    if chars.length < t.length then
      { t with chars, spans := t.spans.filterMap (·.upTo? chars.length) }
    else { t with chars }

def fill (t : Styled) (width : Nat) : Styled :=
  { t with chars := t.chars ++ spaces (width - cells t.chars) }

/-- The lines of a text in a column. White space beyond the width is dropped, longer lines are cut,
shorter ones filled. -/
def column (t : Styled) (wraps : Bool) (width : Nat) : List Styled :=
  t.lines.flatMap fun line =>
    let line := line.expandTabs
    let parts := if wraps then line.divide (breaks width line.chars) else [line]
    parts.map fun p => ((p.dropExcess width).truncate width).fill width

/-! ## Segments -/

/-- The style at a stretch that no span starts or ends within. -/
def styleAt (spans : List Span) (start stop : Nat) : Style :=
  let around := spans.filter fun s => s.start ≤ start && stop ≤ s.stop
  around.foldl (fun style s => style.under s.style) {}

/-- The pieces of a line between the starts and the ends of its spans. -/
def segments (t : Styled) : List Segment :=
  let spans := t.baseSpans ++ t.spans
  let places := (spans.flatMap fun s => [s.start, s.stop]).filter (· < t.length)
  let cuts := ((0 :: places).mergeSort (· ≤ ·)).eraseReps
  (List.zip cuts (cuts.drop 1 ++ [t.length])).map fun (start, stop) =>
    ⟨(t.chars.take stop).drop start, styleAt spans start stop⟩

end Styled

/-- The text of a line, with or without its styles. -/
def paintLine (coloured : Bool) (line : List Segment) : List Char :=
  line.flatMap fun s => if coloured then s.style.paint s.chars else s.chars

end Linting.Terminal
