import Linting.Regex.CharTest
import Linting.Regex.Reader
import Linting.Regex.Start

/-! Matching by backtracking. A node is run at a cursor with the rest of the expression as its
continuation; the first way through is the match, and what a failed way captured is forgotten. -/

namespace Linting.Regex
set_option autoImplicit false

/-! ## Cursors -/

/-- A place in the text, and the two marks of each group: where it was last entered and where it
was last left. -/
structure Cursor where
  position : Nat
  marks : Array (Option Nat)

namespace Cursor

def enter (s : Cursor) (group : Nat) : Cursor :=
  { s with marks := s.marks.setIfInBounds (2 * group - 2) (some s.position) }

def leave (s : Cursor) (group : Nat) : Cursor :=
  { s with marks := s.marks.setIfInBounds (2 * group - 1) (some s.position) }

def moveTo (s : Cursor) (position : Nat) : Cursor := { s with position }

/-- The span of a group that has been entered and left. -/
def span? (s : Cursor) (group : Nat) : Option (Nat × Nat) :=
  match s.marks.getD (2 * group - 2) none, s.marks.getD (2 * group - 1) none with
  | some start, some stop => if start ≤ stop then some (start, stop) else none
  | _, _ => none

end Cursor

abbrev Continuation := Cursor → Option Cursor

/-! ## Tests of one position -/

def charAt? (text : Array Char) (position : Nat) : Option Nat :=
  text[position]?.map Char.toNat

def wordAt (text : Array Char) (unicode : Bool) (position : Nat) : Bool :=
  (charAt? text position).any (isWord unicode)

def isBoundary (text : Array Char) (unicode : Bool) (position : Nat) : Bool :=
  (0 < position && wordAt text unicode (position - 1)) != wordAt text unicode position

def Anchor.holds (text : Array Char) (flags : Flags) (position : Nat) : Anchor → Bool
  | lineStart => position = 0 || (flags.multiline && text[position - 1]? = some '\n')
  | textStart => position = 0
  | lineEnd =>
    position = text.size
      || (text[position]? = some '\n' && (flags.multiline || position + 1 = text.size))
  | textEnd => position = text.size
  | boundary => !text.isEmpty && isBoundary text flags.unicode position
  | notBoundary => !text.isEmpty && !isBoundary text flags.unicode position

/-- Passes one character that the test accepts. -/
def passOne (text : Array Char) (test : Nat → Bool) (s : Cursor) (k : Continuation) :
    Option Cursor :=
  match charAt? text s.position with
  | some c => if test c then k (s.moveTo (s.position + 1)) else none
  | none => none

/-- Passes the text between two places once more. -/
def passAgain (text : Array Char) (flags : Flags) (start stop : Nat) (s : Cursor)
    (k : Continuation) : Option Cursor :=
  let size := stop - start
  let same := (List.range size).all fun i =>
    match charAt? text (start + i), charAt? text (s.position + i) with
    | some a, some b =>
      if flags.ignoreCase then fold flags.unicode a = fold flags.unicode b else a = b
    | _, _ => false
  if same then k (s.moveTo (s.position + size)) else none

/-! ## Repetitions -/

section
variable (body : Cursor → Continuation → Option Cursor) (least : Nat) (most : Option Nat)

/-- Whether a further repetition may be tried: there are fewer than the most, and the last one
beyond the least has moved. -/
def mayRepeat (count : Nat) (last : Option Nat) (s : Cursor) : Bool :=
  most.all (count < ·) && last ≠ some s.position

def greedyLoop : Nat → Nat → Option Nat → Cursor → Continuation → Option Cursor
  | 0, _, _, _, _ => none
  | bound + 1, count, last, s, k =>
    if count < least then body s fun t => greedyLoop bound (count + 1) last t k
    else if mayRepeat most count last s then
      match body s fun t => greedyLoop bound (count + 1) (some s.position) t k with
      | some t => some t
      | none => k s
    else k s

def reluctantLoop : Nat → Nat → Option Nat → Cursor → Continuation → Option Cursor
  | 0, _, _, _, _ => none
  | bound + 1, count, last, s, k =>
    if count < least then body s fun t => reluctantLoop bound (count + 1) last t k
    else
      match k s with
      | some t => some t
      | none =>
        if mayRepeat most count last s then
          body s fun t => reluctantLoop bound (count + 1) (some s.position) t k
        else none

/-- Repeats as often as possible and never gives a repetition back. -/
def possessiveLoop : Nat → Nat → Option Nat → Cursor → Option Cursor
  | 0, _, _, _ => none
  | bound + 1, count, last, s =>
    if count < least then
      match body s some with
      | some t => possessiveLoop bound (count + 1) last t
      | none => none
    else if mayRepeat most count last s then
      match body s some with
      | some t => possessiveLoop bound (count + 1) (some s.position) t
      | none => some s
    else some s

end

/-! ## Nodes -/

namespace Node

/-- Runs a node at a cursor; the result is that of the continuation. A repetition moves with every
round beyond its least but one, so the bound of its loop is never used up. -/
def run (text : Array Char) : Node → Flags → Cursor → Continuation → Option Cursor
  | empty, _, s, k => k s
  | char c, flags, s, k => passOne text (charHolds flags c) s k
  | notChar c, flags, s, k => passOne text (fun d => !charHolds flags c d) s k
  | any, flags, s, k => passOne text (fun d => flags.dotAll || d ≠ 0x0A) s k
  | set members, flags, s, k => passOne text (members.holds flags) s k
  | anchor a, flags, s, k => if a.holds text flags s.position then k s else none
  | seq a b, flags, s, k => run text a flags s fun t => run text b flags t k
  | choice a b, flags, s, k =>
    match run text a flags s k with
    | some t => some t
    | none => run text b flags s k
  | capture group body, flags, s, k =>
    run text body flags (s.enter group) fun t => k (t.leave group)
  | switched on off body, flags, s, k => run text body (flags.inside on off) s k
  | atomic body, flags, s, k =>
    match run text body flags s some with
    | some t => k t
    | none => none
  | ahead negated body, flags, s, k =>
    match run text body flags s some with
    | some t => if negated then none else k (t.moveTo s.position)
    | none => if negated then k s else none
  | behind negated width body, flags, s, k =>
    let found :=
      if s.position < width.min then none
      else run text body flags (s.moveTo (s.position - width.min)) some
    match found with
    | some t => if negated then none else k (t.moveTo s.position)
    | none => if negated then k s else none
  | loop greed least most body, flags, s, k =>
    let bound := least + (text.size - s.position) + 2
    let round := fun t next => run text body flags t next
    match greed with
    | .greedy => greedyLoop round least most bound 0 none s k
    | .reluctant => reluctantLoop round least most bound 0 none s k
    | .possessive =>
      match possessiveLoop round least most bound 0 none s with
      | some t => k t
      | none => none
  | backref group _, flags, s, k =>
    match s.span? group with
    | some (start, stop) => passAgain text flags start stop s k
    | none => none
  | ifGroup group yes no, flags, s, k =>
    match s.span? group with
    | some _ => run text yes flags s k
    | none => run text no flags s k

end Node

/-! ## Matches -/

/-- A match: its span, and the span of each group. -/
structure Match where
  start : Nat
  stop : Nat
  groups : List (Option (Nat × Nat))
deriving DecidableEq, Repr

namespace Expression

def freshCursor (e : Expression) (position : Nat) : Cursor :=
  ⟨position, Array.replicate (2 * e.groups) none⟩

/-- The match that begins exactly at a position. -/
def matchAt? (e : Expression) (text : Array Char) (position : Nat) : Option Match :=
  match e.root.run text e.flags (e.freshCursor position) some with
  | some t => some ⟨position, t.position, (List.range e.groups).map fun i => t.span? (i + 1)⟩
  | none => none

/-- The match at the first of the given number of positions that may be tried and has one. -/
def searchFrom (e : Expression) (text : Array Char) (startSet : Option CharSet) :
    Nat → Nat → Option Match
  | 0, _ => none
  | count + 1, position =>
    let found :=
      if (charAt? text position).all (mayStart startSet e.flags) then e.matchAt? text position
      else none
    match found with
    | some m => some m
    | none => searchFrom e text startSet count (position + 1)

/-- The first match at or behind a position. -/
def search? (e : Expression) (text : Array Char) (position : Nat) : Option Match :=
  e.searchFrom text (e.root.startSet? e.flags) (text.size + 1 - position) position

end Expression

end Linting.Regex
