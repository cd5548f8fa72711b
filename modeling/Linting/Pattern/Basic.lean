import Linting.Pattern.Flags
import Linting.Pattern.Spelling
import Linting.Regex.Compile
import Linting.Regex.Match

/-! Patterns: a regular expression with its flags, ready to be matched against texts. -/

namespace Linting
set_option autoImplicit false

/-- A compiled pattern. A sticky pattern matches only where the previous match ended. -/
structure Pattern where
  source : String
  flags : String
  expression : Regex.Expression
  sticky : Bool
deriving DecidableEq, Repr

namespace Pattern

/-! ## Compiling -/

/-- What is wrong with a pattern that is refused. -/
inductive Invalid where
  | flag (fault : FlagFault)
  | expression (cause : Regex.Cause) (position : Option Nat)
deriving DecidableEq, Repr

/-- Why no pattern came about: the pattern or its flags are refused, or the expression asks for
something that cannot be built. -/
inductive CompileError where
  | invalid (reason : Invalid) (pattern flags : String)
  | alphabetsIncompatible
  | repeatTooLarge
  | codePointTooLarge
  | tooManyDigits (digits : Nat)
deriving DecidableEq, Repr

namespace CompileError

def message : CompileError → String
  | invalid (.flag fault) _ flags => fault.message flags
  | invalid (.expression cause position) pattern _ =>
    "Invalid pattern " ++ Text.quoted pattern ++ ": "
      ++ Regex.syntaxMessage (respell pattern).toList cause position
  | alphabetsIncompatible => "ASCII and UNICODE flags are incompatible"
  | repeatTooLarge => "the repetition number is too large"
  | codePointTooLarge => "Python int too large to convert to C int"
  | tooManyDigits digits => Text.digitsMessage digits

def ofFailure (pattern flags : String) : Regex.Failure → CompileError
  | .badSyntax cause position => invalid (.expression cause position) pattern flags
  | .alphabetsIncompatible => alphabetsIncompatible
  | .repeatTooLarge => repeatTooLarge
  | .codePointTooLarge => codePointTooLarge
  | .tooManyDigits digits => tooManyDigits digits

end CompileError

/-- Compiles a pattern. Flags are checked first and reported with `g` supplied. -/
def compile (source flags : String) : Except CompileError Pattern :=
  let normalized := normalizeFlags flags
  match flagFault? [] normalized.toList with
  | some fault => .error (.invalid (.flag fault) source normalized)
  | none =>
    match Regex.Expression.compile (respell source).toList (switches normalized.toList) with
    | .error failure => .error (.ofFailure source flags failure)
    | .ok expression => .ok ⟨source, normalized, expression, isSticky normalized.toList⟩

/-- The named groups in the order of their declaration. -/
def groupNames (p : Pattern) : List String := p.expression.names.map Prod.fst

/-! ## Matching -/

def textOf (data : String) : Array Char := data.toList.toArray

/-- The first match at or behind a position; of a sticky pattern, the match at the position. -/
def findAt? (p : Pattern) (text : Array Char) (position : Nat) : Option Regex.Match :=
  if p.sticky then p.expression.matchAt? text position
  else p.expression.search? text position

/-- A position in a text; one before the text is its start, one behind it its end. -/
def clampPosition (text : Array Char) (position : Int) : Nat :=
  Nat.min position.toNat text.size

def findNext? (p : Pattern) (data : String) (position : Int) : Option Regex.Match :=
  let text := textOf data
  p.findAt? text (clampPosition text position)

end Pattern

namespace Regex.Match

/-- Where the search for the next match starts: an empty match is followed by a step. -/
def after (m : Match) : Nat := if m.start = m.stop then m.stop + 1 else m.stop

/-- The texts captured by the named groups. -/
def captures (m : Match) (names : List (String × Nat)) (text : Array Char) :
    List (String × Option String) :=
  names.map fun (name, group) =>
    (name, (m.groups.getD (group - 1) none).map fun (start, stop) =>
      String.ofList (text.extract start stop).toList)

end Regex.Match

namespace Pattern

/-- A walk over the matches of a text: where it goes on, or nowhere once it has reported its end. -/
structure Walk where
  pattern : Pattern
  text : Array Char
  position : Option Nat

namespace Walk

def start (p : Pattern) (data : String) : Walk := ⟨p, textOf data, some 0⟩

/-- The next match, and the walk from there. -/
def next (w : Walk) : Option Regex.Match × Walk :=
  match w.position with
  | none => (none, w)
  | some position =>
    if position ≤ w.text.size then
      match w.pattern.findAt? w.text position with
      | some m => (some m, { w with position := some m.after })
      | none => (none, { w with position := none })
    else (none, { w with position := none })

end Walk

/-- The matches from a position on, at most the given number of them. -/
def matchesFrom (p : Pattern) (text : Array Char) : Nat → Nat → List Regex.Match
  | 0, _ => []
  | bound + 1, position =>
    if position ≤ text.size then
      match p.findAt? text position with
      | some m => m :: matchesFrom p text bound m.after
      | none => []
    else []

/-- All matches from left to right. The start of the next one is always further right, so there
is at most one for each position, the end included. -/
def matchesIn (p : Pattern) (text : Array Char) : List Regex.Match :=
  p.matchesFrom text (text.size + 1) 0

end Pattern

end Linting
