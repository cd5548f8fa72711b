import Linting.Text.Integer

/-! Whole numbers in texts that people write: with white space around, a plus sign, leading
zeros, single underscores inside, or a fraction of zeros. -/

namespace Linting.Number
set_option autoImplicit false

/-! ## Plain numbers -/

inductive WholeError where
  | unreadable
  | tooLarge
deriving DecidableEq, Repr

def isPlainDigit (c : Char) : Bool := '0' ≤ c && c ≤ '9'

def plainValue (digits : List Char) : Nat :=
  digits.foldl (fun n c => 10 * n + (c.toNat - 0x30)) 0

/-- Digits without leading zeros, at most 4300 of them. -/
def readDigits : List Char → Except WholeError Nat
  | [] => .error .unreadable
  | ['0'] => .ok 0
  | '0' :: _ => .error .unreadable
  | digits =>
    if !digits.all isPlainDigit then .error .unreadable
    else if Text.digitLimit < digits.length then .error .tooLarge
    else .ok (plainValue digits)

def readPlain : List Char → Except WholeError Int
  | '-' :: digits => (readDigits digits).map fun n => -(n : Int)
  | digits => (readDigits digits).map fun n => (n : Int)

/-! ## Allowances -/

/-- Drops a plus sign; a minus sign may not follow it. -/
def dropPlus? : List Char → Option (List Char)
  | '+' :: '-' :: _ => none
  | '+' :: rest => some rest
  | text => some text

/-- What is left behind leading zeros, with underscores between them. The last zero stays where
nothing or a fraction follows. -/
def afterZeros? : Char → List Char → Option (List Char)
  | last, [] => some [last]
  | last, c :: rest =>
    if c = '0' || c = '_' then afterZeros? c rest
    else if isPlainDigit c then some (c :: rest)
    else if c = '.' then some (last :: c :: rest)
    else none

def dropZeros? : List Char → Option (List Char)
  | '0' :: rest => afterZeros? '0' rest
  | c :: rest => if isPlainDigit c || c = '-' then some (c :: rest) else none
  | [] => none

/-- Drops a fraction that holds zeros only. -/
def dropFraction (text : List Char) : List Char :=
  let fraction := text.dropWhile (· ≠ '.')
  if !fraction.isEmpty && fraction.tail.all (· = '0') then text.takeWhile (· ≠ '.') else text

def hasDouble : List Char → Bool
  | '_' :: '_' :: _ => true
  | _ :: rest => hasDouble rest
  | [] => false

/-- Drops underscores that stand singly inside. -/
def dropInner (text : List Char) : List Char :=
  if text.head? = some '_' || text.getLast? = some '_' || hasDouble text then text
  else text.filter (· ≠ '_')

def cleaned? (text : List Char) : Option (List Char) :=
  ((dropPlus? (Text.trimNumber text)).bind dropZeros?).map fun t => dropInner (dropFraction t)

def readWhole (text : List Char) : Except WholeError Int :=
  match readPlain text with
  | .ok n => .ok n
  | .error .tooLarge => .error .tooLarge
  | .error .unreadable =>
    match (cleaned? text).map readPlain with
    | some (.ok n) => .ok n
    | _ => .error .unreadable

end Linting.Number
