import Linting.Text.Quoted

/-! Why a regular expression is refused, and the message for each reason. -/

namespace Linting.Regex
set_option autoImplicit false

/-! ## Reasons -/

inductive Cause where
  | danglingBackslash
  | badEscape (escape : String)
  | incompleteEscape (escape : String)
  | octalTooLarge (escape : String)
  | missingBrace
  | unknownCharacterName (name : String)
  | missingName (what : String)
  | unterminatedName (terminator : Char)
  | badGroupName (name : String)
  | unknownGroupName (name : String)
  | repeatedGroupName (name : String) (group earlier : Nat)
  | badGroupNumber
  | noSuchGroup (group : Nat)
  | openGroup
  | groupOfSameLookbehind
  | unterminatedSet
  | badRange (lo hi : String)
  | boundsReversed
  | nothingToRepeat
  | multipleRepeat
  | unexpectedEnd
  | unknownExtension (text : String)
  | unterminatedComment
  | unterminatedGroup
  | unbalancedParenthesis
  | tooManyBranches
  | flagsNotAtStart
  | localeFlag
  | alphabetsClash
  | missingFlagsEnd
  | unknownFlag
  | globalFlagOn
  | missingFlag
  | alphabetOff
  | missingColon
  | globalFlagOff
  | flagOnAndOff
  | lookbehindTooWide
  | lookbehindNotFixed
  | repeatInTemplate (operator : String)
deriving DecidableEq, Repr

namespace Cause

def message : Cause → String
  | danglingBackslash => "bad escape (end of pattern)"
  | badEscape escape => "bad escape " ++ escape
  | incompleteEscape escape => "incomplete escape " ++ escape
  | octalTooLarge escape => "octal escape value " ++ escape ++ " outside of range 0-0o377"
  | missingBrace => "missing \x7b"
  | unknownCharacterName name => "undefined character name " ++ Text.quoted name
  | missingName what => "missing " ++ what
  | unterminatedName terminator => "missing " ++ terminator.toString ++ ", unterminated name"
  | badGroupName name => "bad character in group name " ++ Text.quoted name
  | unknownGroupName name => "unknown group name " ++ Text.quoted name
  | repeatedGroupName name group earlier =>
    "redefinition of group name " ++ Text.quoted name ++ " as group " ++ toString group
      ++ "; was group " ++ toString earlier
  | badGroupNumber => "bad group number"
  | noSuchGroup group => "invalid group reference " ++ toString group
  | openGroup => "cannot refer to an open group"
  | groupOfSameLookbehind => "cannot refer to group defined in the same lookbehind subpattern"
  | unterminatedSet => "unterminated character set"
  | badRange lo hi => "bad character range " ++ lo ++ "-" ++ hi
  | boundsReversed => "min repeat greater than max repeat"
  | nothingToRepeat => "nothing to repeat"
  | multipleRepeat => "multiple repeat"
  | unexpectedEnd => "unexpected end of pattern"
  | unknownExtension text => "unknown extension ?" ++ text
  | unterminatedComment => "missing ), unterminated comment"
  | unterminatedGroup => "missing ), unterminated subpattern"
  | unbalancedParenthesis => "unbalanced parenthesis"
  | tooManyBranches => "conditional backref with more than two branches"
  | flagsNotAtStart => "global flags not at the start of the expression"
  | localeFlag => "bad inline flags: cannot use 'L' flag with a str pattern"
  | alphabetsClash => "bad inline flags: flags 'a', 'u' and 'L' are incompatible"
  | missingFlagsEnd => "missing -, : or )"
  | unknownFlag => "unknown flag"
  | globalFlagOn => "bad inline flags: cannot turn on global flag"
  | missingFlag => "missing flag"
  | alphabetOff => "bad inline flags: cannot turn off flags 'a', 'u' and 'L'"
  | missingColon => "missing :"
  | globalFlagOff => "bad inline flags: cannot turn off global flag"
  | flagOnAndOff => "bad inline flags: flag turned on and off"
  | lookbehindTooWide => "looks too much behind"
  | lookbehindNotFixed => "look-behind requires fixed-width pattern"
  | repeatInTemplate operator => "internal: unsupported template operator " ++ operator

end Cause

/-- Why a text is no regular expression. The syntax errors know their place; the others say that
the text asks for something that cannot be built. -/
inductive Failure where
  | badSyntax (cause : Cause) (position : Option Nat)
  | alphabetsIncompatible
  | repeatTooLarge
  | codePointTooLarge
  | tooManyDigits (digits : Nat)
deriving DecidableEq, Repr

/-! ## Messages -/

/-- The line, from 1, and the column, from 1, of a position in a text. -/
def lineAndColumn (text : List Char) (position : Nat) : Nat × Nat :=
  let before := text.take position
  (before.count '\n' + 1, (before.reverse.takeWhile (· ≠ '\n')).length + 1)

/-- The place of a syntax error; the line is told only if the text has several. -/
def placeText (text : List Char) (position : Nat) : String :=
  let place := " at position " ++ toString position
  if text.contains '\n' then
    let (line, column) := lineAndColumn text position
    place ++ " (line " ++ toString line ++ ", column " ++ toString column ++ ")"
  else place

def syntaxMessage (text : List Char) (cause : Cause) : Option Nat → String
  | none => cause.message
  | some position => cause.message ++ placeText text position

end Linting.Regex
