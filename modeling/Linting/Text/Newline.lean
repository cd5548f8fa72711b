/-! Line ends. A carriage return, alone or before a line feed, may stand for a line feed. -/

namespace Linting.Text
set_option autoImplicit false

/-- A text with every carriage return, and the line feed after it if there is one, replaced by a
line feed. -/
def unifyNewlines : List Char → List Char
  | '\r' :: '\n' :: rest => '\n' :: unifyNewlines rest
  | '\r' :: rest => '\n' :: unifyNewlines rest
  | c :: rest => c :: unifyNewlines rest
  | [] => []

end Linting.Text
