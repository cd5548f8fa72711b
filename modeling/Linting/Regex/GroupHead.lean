import Linting.Regex.Escape
import Linting.Text.Integer
import Linting.Unicode.Identifier
import Linting.Unicode.Letter

/-! What follows an opening parenthesis and says what kind of group it opens. -/

namespace Linting.Regex
set_option autoImplicit false

inductive GroupHead where
  | capture (name : Option String)
  | switched (on off : Flags)
  | atomic
  | ahead (negated : Bool)
  | behind (negated : Bool)
  | condition (group : Nat)
  | reference (node : Node)
  | comment
  | globalFlags
deriving Repr

namespace Read
variable {α : Type}

/-! ## Names and numbers of groups -/

def groupName (terminator : Char) : Read String := do
  let text ← name terminator "group name"
  unless Unicode.isIdentifier text.toList do fail (.badGroupName text) (text.length + 1)
  return text

/-- The largest number a condition may name. -/
def groupNumberLimit : Nat := 1073741823

def conditionNumber (text : String) : Read Nat := do
  match Text.readInteger? text.toList with
  | some (.ofNat 0) => fail .badGroupNumber (text.length + 1)
  | some (.ofNat (group + 1)) =>
    if groupNumberLimit ≤ group + 1 then fail (.noSuchGroup (group + 1)) (text.length + 1)
    modify fun s =>
      if (s.conditions.lookup (group + 1)).isSome then s
      else { s with conditions := s.conditions ++ [(group + 1, s.position - text.length - 1)] }
    return group + 1
  | _ => fail (.badGroupName text) (text.length + 1)

/-- The group that a name or a number stands for in a condition. -/
def namedOrNumbered (text : String) : Read Nat := do
  if Unicode.isIdentifier text.toList then
    match (← get).names.lookup text with
    | some group => return group
    | none => fail (.unknownGroupName text) (text.length + 1)
  else conditionNumber text

/-- The group a condition is about, by name or by number. -/
def conditionGroup : Read Nat := do
  let text ← name ')' "group name"
  let group ← namedOrNumbered text
  checkLookbehind group
  return group

/-! ## Inline flags -/

def isAlphabetFlag (flag : Flags) : Bool := flag.ascii || flag.unicode

/-- What is said of a token that is no flag. -/
def failFlag (t : Token) (otherwise : Cause) : Read α :=
  fail (if t.isPlain fun c => Unicode.isLetter c.toNat then .unknownFlag else otherwise) t.size

/-- Reads the token behind a flag, and returns it with the flags. -/
def withNext (ending : Cause) (flags : Flags) : Read (Flags × Token) := do
  match (← next) with
  | none => fail ending 0
  | some t => return (flags, t)

/-- Adds the flag of a letter to those turned on, and reads the token behind the letter. -/
def addFlag (t : Token) (on : Flags) : Read (Flags × Token) := do
  if t = .plain 'L' then fail .localeFlag 0
  match t.char?.bind inlineFlag? with
  | none => failFlag t .missingFlagsEnd
  | some flag =>
    let on := on.union flag
    if isAlphabetFlag flag && on.ascii && on.unicode then fail .alphabetsClash 0
    withNext .missingFlagsEnd on

/-- Adds the flag of a letter to those turned off, and reads the token behind the letter. -/
def dropFlag (t : Token) (off : Flags) : Read (Flags × Token) := do
  if t = .plain 'L' then fail .alphabetOff 0
  match t.char?.bind inlineFlag? with
  | none => failFlag t (if off = .none then .missingFlag else .missingColon)
  | some flag =>
    if isAlphabetFlag flag then fail .alphabetOff 0
    withNext .missingColon (off.union flag)

/-- Adds the flags of letters, the first one given, up to a token that ends them, and returns it
with them. The number bounds the letters. -/
def flagLoop (add : Token → Flags → Read (Flags × Token)) (ends : Token → Bool) (ending : Cause) :
    Nat → Token → Flags → Read (Flags × Token)
  | 0, _, _ => fail ending 0
  | bound + 1, t, flags => do
    let (flags, u) ← add t flags
    if ends u then return (flags, u)
    flagLoop add ends ending bound u flags

def flagRun (add : Token → Flags → Read (Flags × Token)) (ends : Token → Bool) (ending : Cause)
    (t : Token) : Read (Flags × Token) := do
  flagLoop add ends ending ((← get).rest.length + 1) t .none

def endsFlags (t : Token) : Bool := t = .plain ')' || t = .plain '-' || t = .plain ':'

/-- The flags a group turns on, and the token that ends them. -/
def flagsOn (t : Token) : Read (Flags × Token) :=
  if t = .plain '-' then return (.none, t) else flagRun addFlag endsFlags .missingFlagsEnd t

/-- The flags a group turns off, if a hyphen has ended those turned on. -/
def flagsOff (stop : Token) : Read Flags := do
  if stop ≠ .plain '-' then return .none
  match (← next) with
  | none => fail .missingFlag 0
  | some t => return (← flagRun dropFlag (· = .plain ':') .missingColon t).1

/-- The flags in front of a colon or a closing parenthesis. In the second case they hold for the
whole expression. -/
def flagsHead (first : Token) : Read GroupHead := do
  let (on, stop) ← flagsOn first
  if stop = .plain ')' then
    modify fun s => { s with flags := s.flags.union on }
    return .globalFlags
  if on.template then fail .globalFlagOn 1
  let off ← flagsOff stop
  if off.template then fail .globalFlagOff 1
  if on.meets off then fail .flagOnAndOff 1
  return .switched on off

/-! ## Heads -/

def namedHead : Read GroupHead := do
  if ← skip '<' then return .capture (some (← groupName '>'))
  if ← skip '=' then
    let text ← groupName ')'
    match (← get).names.lookup text with
    | none => fail (.unknownGroupName text) (text.length + 1)
    | some group => return .reference (← reference group (text.length + 1))
  match (← next) with
  | none => fail .unexpectedEnd 0
  | some t => fail (.unknownExtension ("P" ++ t.string)) (t.size + 2)

def behindHead : Read GroupHead := do
  match (← next) with
  | none => fail .unexpectedEnd 0
  | some t =>
    if t = .plain '=' then return .behind false
    if t = .plain '!' then return .behind true
    fail (.unknownExtension ("<" ++ t.string)) (t.size + 2)

/-- The head of a group, its parenthesis read; `start` is the place of the parenthesis. -/
def groupHead (start : Nat) : Read GroupHead := do
  if !(← skip '?') then return .capture none
  match (← next) with
  | none => fail .unexpectedEnd 0
  | some t =>
    match t.char? with
    | some 'P' => namedHead
    | some ':' => return .switched .none .none
    | some '#' =>
      if (← upTo ')').isNone then failAt .unterminatedComment start
      return .comment
    | some '=' => return .ahead false
    | some '!' => return .ahead true
    | some '<' => behindHead
    | some '(' => return .condition (← conditionGroup)
    | some '>' => return .atomic
    | some c =>
      if c = '-' || c = 'L' || (inlineFlag? c).isSome then flagsHead t
      else fail (.unknownExtension t.string) (t.size + 1)
    | none => fail (.unknownExtension t.string) (t.size + 1)

end Read

end Linting.Regex
