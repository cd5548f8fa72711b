import Linting.Regex.Error
import Linting.Regex.Node

/-! The text of a regular expression while it is read: what is left of it as tokens, and what is
known of the groups met so far. A backslash and the character after it are one token. -/

namespace Linting.Regex
set_option autoImplicit false

/-! ## Tokens -/

inductive Token where
  | plain (c : Char)
  | escaped (c : Char)
deriving DecidableEq, Repr

namespace Token

def text : Token → List Char
  | plain c => [c]
  | escaped c => ['\\', c]

def string (t : Token) : String := String.ofList t.text

def size : Token → Nat
  | plain _ => 1
  | escaped _ => 2

def char? : Token → Option Char
  | plain c => some c
  | escaped _ => none

def isPlain (t : Token) (p : Char → Bool) : Bool := t.char?.any p

def total (tokens : List Token) : Nat := tokens.foldr (·.size + ·) 0

end Token

/-- The tokens of a text, and whether a lone backslash ends it. -/
def tokens : List Char → List Token × Bool
  | [] => ([], false)
  | ['\\'] => ([], true)
  | '\\' :: c :: rest => let (ts, lone) := tokens rest; (.escaped c :: ts, lone)
  | c :: rest => let (ts, lone) := tokens rest; (.plain c :: ts, lone)

/-! ## Reading state -/

/-- What is left to read, and what is known: the modes set for the whole expression, the named
groups in order, the width of each group (none while it is open), the number of groups before the
outermost look-behind being read, and where group numbers were used as conditions. -/
structure Source where
  rest : List Token
  lone : Bool
  position : Nat
  flags : Flags
  names : List (String × Nat)
  widths : List (Option Width)
  groupsBeforeLookbehind : Option Nat
  conditions : List (Nat × Nat)

abbrev Read := StateT Source (Except Failure)

namespace Source

def groupCount (s : Source) : Nat := s.widths.length + 1

/-- The width of a group that has been closed. -/
def closedWidth? (s : Source) (group : Nat) : Option Width :=
  if group = 0 then none else (s.widths[group - 1]?).join

end Source

namespace Read
variable {α : Type}

def fail (cause : Cause) (back : Nat) : Read α := do
  throw (.badSyntax cause (some ((← get).position - back)))

def failAt (cause : Cause) (position : Nat) : Read α :=
  throw (.badSyntax cause (some position))

def peek : Read (Option Token) := return (← get).rest.head?

/-- Moves to the given rest. A lone backslash is refused as soon as it is next. -/
def moveTo (rest : List Token) (position : Nat) : Read Unit := do
  let s ← get
  if rest.isEmpty && s.lone then failAt .danglingBackslash position
  set { s with rest, position }

def next : Read (Option Token) := do
  let s ← get
  match s.rest with
  | [] => return none
  | t :: rest =>
    moveTo rest (s.position + t.size)
    return some t

def skip (c : Char) : Read Bool := do
  if (← peek) = some (.plain c) then
    let _ ← next
    return true
  return false

def charsOf (p : Char → Bool) : Nat → Read (List Char)
  | 0 => return []
  | count + 1 => do
    match (← peek) with
    | some (.plain c) =>
      if p c then
        let _ ← next
        return c :: (← charsOf p count)
      return []
    | _ => return []

def allCharsOf (p : Char → Bool) : Read (List Char) := do
  charsOf p (← get).rest.length

/-- The text of the tokens in front of a character, the tokens behind it, and their size. -/
def splitAtChar (stop : Char) : List Token → Option (List Char × List Token × Nat)
  | [] => none
  | t :: rest =>
    if t = .plain stop then some ([], rest, 1)
    else
      (splitAtChar stop rest).map fun (text, behind, size) =>
        (t.text ++ text, behind, size + t.size)

def upTo (stop : Char) : Read (Option (List Char)) := do
  let s ← get
  match splitAtChar stop s.rest with
  | some (text, behind, size) =>
    moveTo behind (s.position + size)
    return some text
  | none =>
    moveTo [] (s.position + Token.total s.rest)
    return none

def name (terminator : Char) (what : String) : Read String := do
  let s ← get
  match (← upTo terminator) with
  | some [] => fail (.missingName what) 1
  | some text => return String.ofList text
  | none =>
    let size := Token.total s.rest
    if size = 0 then fail (.missingName what) 0
    else fail (.unterminatedName terminator) size

/-! ## Groups -/

/-- Inside a look-behind only groups closed before it may be referred to. -/
def checkLookbehind (group : Nat) : Read Unit := do
  let s ← get
  match s.groupsBeforeLookbehind with
  | none => return
  | some before =>
    if (s.closedWidth? group).isNone then fail .openGroup 0
    if before ≤ group then fail .groupOfSameLookbehind 0

/-- Notes the groups in front of a look-behind unless it is inside another one; gives what had been
noted. -/
def enterLookbehind : Read (Option Nat) := do
  let s ← get
  set { s with groupsBeforeLookbehind := some (s.groupsBeforeLookbehind.getD s.groupCount) }
  return s.groupsBeforeLookbehind

def leaveLookbehind (outer : Option Nat) : Read Unit :=
  modify fun s => { s with groupsBeforeLookbehind := outer }

/-- A reference to a closed group. The error stands the given number of characters back. -/
def reference (group back : Nat) : Read Node := do
  match (← get).closedWidth? group with
  | none => fail .openGroup back
  | some width =>
    checkLookbehind group
    return .backref group width

def openGroup (name : Option String) : Read Nat := do
  let s ← get
  let group := s.groupCount
  match name with
  | none => set { s with widths := s.widths ++ [none] }
  | some n =>
    match s.names.lookup n with
    | some earlier => fail (.repeatedGroupName n group earlier) (n.length + 1)
    | none => set { s with widths := s.widths ++ [none], names := s.names ++ [(n, group)] }
  return group

def closeGroup (group : Nat) (width : Width) : Read Unit :=
  modify fun s => { s with widths := s.widths.set (group - 1) (some width) }

end Read

end Linting.Regex
