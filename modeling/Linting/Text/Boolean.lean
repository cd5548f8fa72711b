import Linting.Text.Lower
import Linting.Text.Quoted
import Linting.Unicode.Blank

/-! Words for true and false, in any case and with white space around. -/

namespace Linting.Text
set_option autoImplicit false

def trueWords : List String := ["1", "true", "yes", "on"]

def falseWords : List String := ["0", "false", "no", "off"]

def readBoolean? (text : String) : Option Bool :=
  let word := String.ofList (lowerText (Unicode.trim text.toList))
  if trueWords.contains word then some true
  else if falseWords.contains word then some false
  else none

def booleanMessage (text : String) : String := "Unsupported boolean literal: " ++ quoted text

end Linting.Text
