import Linting.Regex.Flags

/-! Regular expressions as trees, and the widths of the texts they match. -/

namespace Linting.Regex
set_option autoImplicit false

/-! ## Characters and positions -/

inductive Category where
  | digit
  | blank
  | word
deriving DecidableEq, Repr

inductive SetItem where
  | single (c : Nat)
  | range (lo hi : Nat)
  | category (kind : Category) (negated : Bool)
deriving DecidableEq, Repr

structure CharSet where
  negated : Bool
  items : List SetItem
deriving DecidableEq, Repr

inductive Anchor where
  | lineStart
  | textStart
  | lineEnd
  | textEnd
  | boundary
  | notBoundary
deriving DecidableEq, Repr

inductive Greed where
  | greedy
  | reluctant
  | possessive
deriving DecidableEq, Repr

/-! ## Widths -/

/-- The least and the greatest length of a match; every count from `Width.limit` on is the same. -/
structure Width where
  min : Nat
  max : Nat
deriving DecidableEq, Repr

namespace Width

def limit : Nat := Nat.pow 2 64

def zero : Width := ⟨0, 0⟩

def one : Width := ⟨1, 1⟩

def clamp (w : Width) : Width := ⟨Nat.min w.min limit, Nat.min w.max limit⟩

def add (v w : Width) : Width := clamp ⟨v.min + w.min, v.max + w.max⟩

def or (v w : Width) : Width := ⟨Nat.min v.min w.min, Nat.max v.max w.max⟩

def times (w : Width) (least : Nat) : Option Nat → Width
  | some most => clamp ⟨w.min * least, w.max * most⟩
  | none => clamp ⟨w.min * least, if w.max = 0 then 0 else limit⟩

end Width

/-! ## Trees -/

/-- A regular expression. Groups are numbered from 1. A reference keeps the width of its group and
a look-behind the width of its body, both known when they are read. -/
inductive Node where
  | empty
  | char (c : Nat)
  | notChar (c : Nat)
  | any
  | set (s : CharSet)
  | anchor (a : Anchor)
  | seq (first rest : Node)
  | choice (left right : Node)
  | capture (group : Nat) (body : Node)
  | switched (on off : Flags) (body : Node)
  | atomic (body : Node)
  | ahead (negated : Bool) (body : Node)
  | behind (negated : Bool) (width : Width) (body : Node)
  | loop (greed : Greed) (least : Nat) (most : Option Nat) (body : Node)
  | backref (group : Nat) (width : Width)
  | ifGroup (group : Nat) (yes no : Node)
deriving DecidableEq, Repr

namespace Node

def width : Node → Width
  | empty => .zero
  | char _ => .one
  | notChar _ => .one
  | any => .one
  | set _ => .one
  | anchor _ => .zero
  | seq a b => a.width.add b.width
  | choice a b => a.width.or b.width
  | capture _ body => body.width
  | switched _ _ body => body.width
  | atomic body => body.width
  | ahead _ _ => .zero
  | behind _ _ _ => .zero
  | loop _ least most body => body.width.times least most
  | backref _ w => w
  | ifGroup _ yes no => yes.width.or no.width

/-! ## Sequences and alternatives -/

/-- The items of a sequence, those of plain groups among them. -/
def items : Node → List Node
  | empty => []
  | seq a b => a.items ++ b.items
  | switched on off body => if on = .none ∧ off = .none then body.items else [switched on off body]
  | node => [node]

def ofItems : List Node → Node
  | [] => empty
  | [node] => node
  | node :: rest => seq node (ofItems rest)

/-- Whether two nodes are one and the same test of a single position. -/
def sameTest : Node → Node → Bool
  | char a, char b => a = b
  | notChar a, notChar b => a = b
  | any, any => true
  | set a, set b => a = b
  | anchor a, anchor b => a = b
  | backref a _, backref b _ => a = b
  | _, _ => false

/-- The first test of every alternative, if all have the same, and what follows it. -/
def sharedHead? : List (List Node) → Option (Node × List (List Node))
  | [] => none
  | [] :: _ => none
  | (node :: rest) :: others =>
    let tails := others.map fun
      | [] => none
      | other :: tail => if node.sameTest other then some tail else none
    if tails.all Option.isSome then some (node, rest :: tails.filterMap id) else none

/-- Splits off the longest run of tests that all alternatives begin with. The first number bounds
the length of the run. -/
def splitShared : Nat → List (List Node) → List Node × List (List Node)
  | 0, alternatives => ([], alternatives)
  | bound + 1, alternatives =>
    match sharedHead? alternatives with
    | none => ([], alternatives)
    | some (node, tails) =>
      let (run, rest) := splitShared bound tails
      (node :: run, rest)

/-- The set items of an alternative that is one character or one set without negation. -/
def setItems? : List Node → Option (List SetItem)
  | [char c] => some [.single c]
  | [set s] => if s.negated then none else some s.items
  | _ => none

def ofAlternatives : List (List Node) → Node
  | [] => empty
  | [alternative] => ofItems alternative
  | alternative :: others => choice (ofItems alternative) (ofAlternatives others)

/-- The items that stand for several alternatives: what they share in front, and then one set if
each of them is left with one character, else the choice. -/
def joinAlternatives : List (List Node) → List Node
  | [alternative] => alternative
  | alternatives =>
    let bound := (alternatives.head?.getD []).length
    let (run, tails) := splitShared bound alternatives
    let sets := tails.map setItems?
    if sets.all Option.isSome then
      run ++ [set ⟨false, (sets.filterMap id).flatten.eraseDups⟩]
    else run ++ [ofAlternatives tails]

end Node

end Linting.Regex
