import Linting.Regex.Reader

/-! What is checked of an expression once it has been read: look-behinds have one width, and
nothing is repeated in template mode. The first fault from the left is reported, a group's own
before those inside it. -/

namespace Linting.Regex
set_option autoImplicit false

/-- The largest width of a look-behind. -/
def lookbehindLimit : Nat := 4294967295

def Greed.operator : Greed → String
  | .greedy => "MAX_REPEAT"
  | .reluctant => "MIN_REPEAT"
  | .possessive => "POSSESSIVE_REPEAT"

def Node.fault? (template : Bool) : Node → Option Cause
  | .seq a b => (a.fault? template).or (b.fault? template)
  | .choice a b => (a.fault? template).or (b.fault? template)
  | .capture _ body => body.fault? template
  | .switched _ _ body => body.fault? template
  | .atomic body => body.fault? template
  | .ahead _ body => body.fault? template
  | .behind _ width body =>
    if lookbehindLimit < width.min then some .lookbehindTooWide
    else if width.min ≠ width.max then some .lookbehindNotFixed
    else body.fault? template
  | .loop greed _ _ body =>
    if template then some (.repeatInTemplate greed.operator) else body.fault? template
  | .ifGroup _ yes no => (yes.fault? template).or (no.fault? template)
  | _ => none

/-- The expression a text stands for under the given modes. -/
def Expression.compile (text : List Char) (flags : Flags) : Except Failure Expression := do
  let expression ← Expression.read text flags
  match expression.root.fault? expression.flags.template with
  | some cause => .error (.badSyntax cause none)
  | none => .ok expression

end Linting.Regex
