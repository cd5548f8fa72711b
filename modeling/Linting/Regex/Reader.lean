import Linting.Regex.Bracket
import Linting.Regex.GroupHead

/-! Reading a regular expression: alternatives, sequences, repetitions and groups.

Every call of the two mutual functions reads a token or follows one that did, so a bound of twice
the number of tokens is never used up. -/

namespace Linting.Regex
set_option autoImplicit false

namespace Read

/-! ## Repetitions -/

def repeatLimit : Nat := 4294967295

def boundOf (digits : List Char) : Read Nat := do
  if Text.digitLimit < digits.length then throw (.tooManyDigits digits.length)
  let n := numberOf 10 digits
  if repeatLimit ≤ n then throw .repeatTooLarge
  return n

/-- The digits of two bounds with a comma between them, or of one that is both, and whether the
closing brace follows. -/
def boundsText : Read (List Char × List Char × Bool) := do
  let lo ← allCharsOf isAsciiDigit
  let hi ← if ← skip ',' then allCharsOf isAsciiDigit else pure lo
  return (lo, hi, ← skip '\x7d')

def boundIn (digits : List Char) : Read (Option Nat) := do
  if digits.isEmpty then return none
  return some (← boundOf digits)

def boundsOf (place : Nat) (lo hi : List Char) : Read (Nat × Option Nat) := do
  let least := (← boundIn lo).getD 0
  let most ← boundIn hi
  if most.any (· < least) then failAt .boundsReversed place
  return (least, most)

/-- The bounds whose text has been read from the given state on. If it is not closed, they are none
and the reader goes back. -/
def boundsOrBack (start : Source) : List Char × List Char × Bool → Read (Option (Nat × Option Nat))
  | (lo, hi, true) => return some (← boundsOf start.position lo hi)
  | (_, _, false) => do
    set start
    return none

/-- The bounds behind an opening brace. If what follows are no bounds, nothing is read. -/
def bounds? : Read (Option (Nat × Option Nat)) := do
  let start ← get
  if (← peek) = some (.plain '\x7d') then return none
  boundsOrBack start (← boundsText)

def quantifier? : Token → Read (Option (Nat × Option Nat))
  | .plain '?' => return some (0, some 1)
  | .plain '*' => return some (0, none)
  | .plain '+' => return some (1, none)
  | .plain '\x7b' => bounds?
  | _ => return none

def greedOf : Read Greed := do
  if ← skip '?' then return .reluctant
  if ← skip '+' then return .possessive
  return .greedy

/-- What a repetition repeats: a plain group is its body. -/
def repeatable (place : Nat) : Option Node → Read Node
  | none => failAt .nothingToRepeat place
  | some (.anchor _) => failAt .nothingToRepeat place
  | some (.loop ..) => failAt .multipleRepeat place
  | some (.switched on off body) =>
    return if on = .none ∧ off = .none then body else .switched on off body
  | some node => return node

/-! ## Blanks and comments of the verbose mode -/

def isVerboseBlank (c : Char) : Bool :=
  c = ' ' || c = '\t' || c = '\n' || c = '\r' || c = '\x0b' || c = '\x0c'

/-- Tells whether a token means nothing; a comment that it starts is skipped. -/
def skipVerbose (t : Token) : Read Bool := do
  if t.isPlain isVerboseBlank then return true
  if t = .plain '#' then
    let _ ← upTo '\n'
    return true
  return false

/-! ## Single items -/

def item : Token → Read Node
  | .escaped c => escape c
  | .plain '[' => bracket
  | .plain '.' => return .any
  | .plain '^' => return .anchor .lineStart
  | .plain '$' => return .anchor .lineEnd
  | .plain c => return .char c.toNat

def closeParenthesis (start : Nat) : Read Unit := do
  if !(← skip ')') then failAt .unterminatedGroup start

/-! ## Groups -/

/-- A condition whose first branch has been read; a bar starts the other one. -/
def orElse (branch : Read (List Node)) (group : Nat) (yes : Node) (bar : Bool) : Read Node := do
  if bar then
    let no := Node.ofItems (← branch)
    if (← peek) = some (.plain '|') then fail .tooManyBranches 0
    return .ifGroup group yes no
  return .ifGroup group yes .empty

def branches (branch : Read (List Node)) (group : Nat) : Read Node := do
  let yes := Node.ofItems (← branch)
  orElse branch group yes (← skip '|')

/-- What follows the head of a group, given how to read alternatives and how to read one branch of
a condition: whether the verbose mode holds behind the group, and the items read so far. -/
def afterHead (inside : Bool → Read (List Node)) (branch : Read (List Node)) (verbose first : Bool)
    (done : List Node) (start : Nat) : GroupHead → Read (Bool × List Node)
  | .comment => return (verbose, done)
  | .globalFlags => do
    if !first || !done.isEmpty then failAt .flagsNotAtStart start
    return ((← get).flags.verbose, done)
  | .reference node => return (verbose, node :: done)
  | .capture name => do
    let group ← openGroup name
    let body := Node.ofItems (← inside verbose)
    closeParenthesis start
    closeGroup group body.width
    return (verbose, .capture group body :: done)
  | .switched on off => do
    let body := Node.ofItems (← inside ((verbose || on.verbose) && !off.verbose))
    closeParenthesis start
    return (verbose, .switched on off body :: done)
  | .atomic => do
    let body := Node.ofItems (← inside verbose)
    closeParenthesis start
    return (verbose, .atomic body :: done)
  | .ahead negated => do
    let body := Node.ofItems (← inside verbose)
    closeParenthesis start
    return (verbose, .ahead negated body :: done)
  | .behind negated => do
    let outer ← enterLookbehind
    let body := Node.ofItems (← inside verbose)
    leaveLookbehind outer
    closeParenthesis start
    return (verbose, .behind negated body.width body :: done)
  | .condition group => do
    let node ← branches branch group
    closeParenthesis start
    return (verbose, node :: done)

/-! ## Sequences and alternatives -/

def itemOrLoop (done : List Node) (start : Nat) (t : Token) : Read (List Node) := do
  match (← quantifier? t) with
  | some (least, most) =>
    let body ← repeatable start done.head?
    let greed ← greedOf
    return .loop greed least most body :: done.tail
  | none => return (← item t) :: done

/-- What a token that has been read starts: nothing in the verbose mode, or a group, an item or a
repetition. Gives whether the verbose mode holds from there on, and the items read so far. -/
def turn (inside : Bool → Read (List Node)) (branch : Read (List Node)) (verbose first : Bool)
    (done : List Node) (start : Nat) (t : Token) : Read (Bool × List Node) := do
  if ← (if verbose then skipVerbose t else pure false) then
    return (verbose, done)
  else if t = .plain '(' then
    afterHead inside branch verbose first done start (← groupHead start)
  else
    return (verbose, ← itemOrLoop done start t)

/-- What follows a branch, given how to read the alternatives behind a bar: modes set for the whole
expression in the branch go on to hold there. -/
def orMore (more : Bool → Read (List Node)) (verbose top : Bool) (read : List (List Node))
    (bar : Bool) : Read (List Node) := do
  if bar then
    let s ← get
    more (if top then s.flags.verbose else verbose)
  else return Node.joinAlternatives read

mutual

def alternatives : Nat → Bool → Bool → List (List Node) → Read (List Node)
  | 0, _, _, _ => fail .unexpectedEnd 0
  | bound + 1, verbose, top, done => do
    let read := done ++ [← sequence bound verbose (top && done.isEmpty) []]
    orMore (fun verbose => alternatives bound verbose top read) verbose top read (← skip '|')

/-- The items up to a bar, a closing parenthesis or the end; `done` holds those read, last first.
Flags for the whole expression may stand only where `first` holds and nothing has been read. -/
def sequence : Nat → Bool → Bool → List Node → Read (List Node)
  | 0, _, _, _ => fail .unexpectedEnd 0
  | bound + 1, verbose, first, done => do
    let start := (← get).position
    match (← peek) with
    | none => return done.reverse.flatMap Node.items
    | some t =>
      if t = .plain '|' || t = .plain ')' then return done.reverse.flatMap Node.items
      let _ ← next
      let (verbose, done) ← turn (fun inner => alternatives bound inner false [])
        (sequence bound verbose false []) verbose first done start t
      sequence bound verbose first done

end

end Read

/-! ## Whole expressions -/

structure Expression where
  root : Node
  flags : Flags
  groups : Nat
  names : List (String × Nat)
deriving DecidableEq, Repr

/-- One alphabet holds: the one asked for, else the whole of Unicode. -/
def settleAlphabet (flags : Flags) : Except Failure Flags :=
  if !flags.ascii then .ok { flags with unicode := true }
  else if flags.unicode then .error .alphabetsIncompatible
  else .ok flags

/-- The first use of a group number as a condition that no group has got. -/
def Source.missingGroup? (s : Source) : Option (Nat × Nat) :=
  s.conditions.find? fun (group, _) => s.groupCount ≤ group

def finish (root : Node) : Read Expression := do
  let s ← get
  let flags ← settleAlphabet s.flags
  unless s.rest.isEmpty do Read.fail .unbalancedParenthesis 0
  match s.missingGroup? with
  | some (group, position) => Read.failAt (.noSuchGroup group) position
  | none => return ⟨root, flags, s.groupCount - 1, s.names⟩

def readAll (bound : Nat) (flags : Flags) : Read Expression := do
  Read.moveTo (← get).rest 0
  finish (Node.ofItems (← Read.alternatives bound flags.verbose true []))

def Expression.read (text : List Char) (flags : Flags) : Except Failure Expression :=
  let (ts, lone) := tokens text
  let start : Source := ⟨ts, lone, 0, flags, [], [], none, []⟩
  ((readAll (2 * ts.length + 2) flags).run start).map Prod.fst

end Linting.Regex
