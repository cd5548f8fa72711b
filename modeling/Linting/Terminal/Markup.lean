import Linting.Regex.CharTest
import Linting.Terminal.Styled
import Linting.Text.Quoted

/-! Markup: text in which tags in square brackets start and end styles. A tag starts with a small
letter or one of the characters #, / and @. A backslash before a tag makes it plain text, and two
backslashes before it stand for one. Tags that start with @ name handlers, whose parameters are
literals of the language that handlers are written in. -/

namespace Linting.Terminal.Markup
set_option autoImplicit false

/-! ## Tokens -/

inductive Token where
  | plain (chars : List Char)
  | tag (position : Nat) (body : List Char)
deriving DecidableEq, Repr

def startsTag (c : Char) : Bool := ('a' ≤ c && c ≤ 'z') || c = '#' || c = '/' || c = '@'

def bodyAt? : List Char → Option (List Char)
  | '[' :: c :: rest =>
    let body := (c :: rest).takeWhile fun c => c ≠ '[' && c ≠ ']'
    if startsTag c && (c :: rest)[body.length]? = some ']' then some body else none
  | _ => none

/-- The number of backslashes in front of a tag that the text starts with, and the tag. -/
def tagAt? (text : List Char) : Option (Nat × List Char) :=
  let slashes := (text.takeWhile (· = '\\')).length
  (bodyAt? (text.drop slashes)).map (slashes, ·)

/-- A backslash before an opening bracket is dropped. -/
def unescape : List Char → List Char
  | '\\' :: '[' :: rest => '[' :: unescape rest
  | c :: rest => c :: unescape rest
  | [] => []

def plainToken (chars : List Char) : List Token :=
  if chars.isEmpty then [] else [.plain (unescape chars)]

/-- The tokens of a tag behind a number of backslashes. -/
def tagTokens (position slashes : Nat) (body : List Char) : List Token :=
  let kept := plainToken (List.replicate (slashes / 2) '\\')
  if slashes % 2 = 1 then kept ++ plainToken ('[' :: body ++ [']'])
  else kept ++ [.tag (position + slashes) body]

/-- The tokens of a text, after plain characters read so far, the last of them first. -/
def tokensFrom (position : Nat) (plain : List Char) (text : List Char) : List Token :=
  match text with
  | [] => plainToken plain.reverse
  | c :: rest =>
    match tagAt? (c :: rest) with
    | none => tokensFrom (position + 1) (c :: plain) rest
    | some (slashes, body) =>
      let size := slashes + body.length + 1
      plainToken plain.reverse ++ tagTokens position slashes body
        ++ tokensFrom (position + size + 1) [] (rest.drop size)
termination_by text.length

def tokens (text : List Char) : List Token := tokensFrom 0 [] text

/-! ## Tags -/

structure Tag where
  name : String
  parameters : Option String
deriving DecidableEq, Repr

def Tag.ofBody (body : List Char) : Tag where
  name := String.ofList (body.takeWhile (· ≠ '='))
  parameters :=
    if body.contains '=' then some (String.ofList ((body.dropWhile (· ≠ '=')).drop 1)) else none

def Tag.written (t : Tag) : String :=
  "[" ++ t.name ++ (t.parameters.map ("=" ++ ·)).getD "" ++ "]"

/-- The definition of the style that a tag asks for. -/
def Tag.definition (t : Tag) : String := t.name ++ (t.parameters.map (" " ++ ·)).getD ""

def trimmed (text : List Char) : List Char := ((trimEnd text).dropWhile isBlank)

/-- The name under which a tag is remembered: two definitions of one style have one name. -/
def regularName (name : String) : Except PartFault String :=
  (Style.read name).map fun
    | some style => style.definition
    | none => String.ofList (Text.lowerText (trimmed name.toList))

end Markup

/-- Why a text is no literal: it cannot be read, or it stands for nothing. -/
inductive LiteralFault where
  | badSyntax (reason : String)
  | badValue (reason : String)
deriving DecidableEq, Repr

/-- A reader of literals. Their values have no part in what is shown. -/
abbrev LiteralReader := String → Except LiteralFault Unit

/-- Why a text with markup is not shown: a closing tag closes nothing, or a handler whose parameters
are no literal; or a tag asks for a mixture of colours that cannot be read. -/
inductive MarkupError where
  | unmatched (tag : String) (position : Nat)
  | nothingOpen (position : Nat)
  | handler (given read : String) (fault : LiteralFault)
  | colour (fault : PartFault)
deriving DecidableEq, Repr

def MarkupError.message : MarkupError → String
  | unmatched tag position =>
    "closing tag '" ++ tag ++ "' at position " ++ toString position ++ " doesn't match any open tag"
  | nothingOpen position =>
    "closing tag '[/]' at position " ++ toString position ++ " has nothing to close"
  | handler given read (.badSyntax reason) =>
    "error parsing " ++ Text.quoted read ++ " in " ++ Text.quoted given ++ "; " ++ reason
  | handler given _ (.badValue reason) => "error parsing " ++ Text.quoted given ++ "; " ++ reason
  | colour fault => fault.message

namespace Markup

/-! ## Handlers -/

def isHandlerChar (c : Char) : Bool := c = '.' || Regex.isWord true c.toNat

/-- What is read as a literal of the parameters of a handler: the parentheses behind the name of a
function, which may be left out, and otherwise the whole text. -/
def literalOf (parameters : List Char) : List Char :=
  let rest := parameters.dropWhile isHandlerChar
  if rest.isEmpty then ['(', ')']
  else if rest.head? = some '(' && rest.getLast? = some ')' && !rest.contains '\n' then rest
  else parameters

/-- Looks at the parameters of a tag that is closed, if it names a handler. -/
def Tag.check (literal : LiteralReader) (t : Tag) : Except MarkupError Unit :=
  let given := t.parameters.getD ""
  if t.name.startsWith "@" && !given.isEmpty then
    let text := String.ofList (literalOf (trimmed given.toList))
    (literal text).mapError (.handler given text)
  else .ok ()

/-! ## Reading -/

/-- What has been read: the text, the open tags with the places where they start, the last of them
first, and the spans that are complete, the last of them first. -/
structure State where
  chars : List Char := []
  opened : List (Nat × Tag) := []
  spans : List Span := []

def Tag.span (t : Tag) (start stop : Nat) : Span :=
  match Style.resolve t.definition with
  | .ok style => { start, stop, style }
  | .error fault => { start, stop, style := {}, fault := some fault }

def State.close (s : State) (start : Nat) (tag : Tag) : State :=
  { s with spans := tag.span start s.chars.length :: s.spans }

/-- The open tags without the last of a name, and that one. -/
def takeOpen (name : String) : List (Nat × Tag) → Option ((Nat × Tag) × List (Nat × Tag))
  | [] => none
  | (start, tag) :: rest =>
    if tag.name = name then some ((start, tag), rest)
    else (takeOpen name rest).map fun (found, left) => (found, (start, tag) :: left)

/-- The open tag that a closing tag closes, and those left open. -/
def takeClosed (s : State) (tag : Tag) (name : List Char) (position : Nat) :
    Except MarkupError ((Nat × Tag) × List (Nat × Tag)) :=
  if name.isEmpty then
    match s.opened with
    | found :: rest => .ok (found, rest)
    | [] => .error (.nothingOpen position)
  else do
    let name ← (regularName (String.ofList name)).mapError .colour
    match takeOpen name s.opened with
    | some found => return found
    | none => throw (.unmatched tag.written position)

def step (literal : LiteralReader) (s : State) : Token → Except MarkupError State
  | .plain chars => .ok { s with chars := s.chars ++ chars.filter fun c => !isDropped c }
  | .tag position body =>
    let tag := Tag.ofBody body
    match tag.name.toList with
    | '/' :: name => do
      let ((start, closed), opened) ← takeClosed s tag (trimmed name) position
      closed.check literal
      return { s with opened }.close start closed
    | _ => do
      let name ← (regularName tag.name).mapError .colour
      return { s with opened := (s.chars.length, { tag with name }) :: s.opened }

/-- Reads a text with markup. Tags that are never closed reach to the end. -/
def read (literal : LiteralReader) (text : String) : Except MarkupError Styled := do
  let s ← (tokens text.toList).foldlM (step literal) {}
  let s := s.opened.foldl (fun s (start, tag) => s.close start tag) s
  return { chars := s.chars, spans := s.spans.mergeSort fun a b => a.start ≤ b.start }

end Markup

end Linting.Terminal
