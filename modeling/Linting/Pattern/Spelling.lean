/-! The two spellings of a named group. An opener may be written with or without the letter `P`
before the angle bracket; only the spelling with the letter is a regular expression, so the other
one is respelled.

A pattern is cut into pieces: a backslash with the character after it, a closed bracket class, an
opener without the letter, or any other single character. Main facts: the pieces of a text make up
the text, and respelling changes the openers alone. -/

namespace Linting.Pattern
set_option autoImplicit false

/-! ## Pieces -/

inductive Piece where
  | escape (c : Char)
  | bracket (body : List Char)
  | opener
  | char (c : Char)
deriving DecidableEq, Repr

namespace Piece

/-- The text a piece was cut from. -/
def text : Piece → List Char
  | escape c => ['\\', c]
  | bracket body => '[' :: body
  | opener => ['(', '?', '<']
  | char c => [c]

def respelled : Piece → List Char
  | opener => ['(', '?', 'P', '<']
  | piece => piece.text

end Piece

/-! ## Cutting -/

/-- The text up to and with the next closing bracket that is not escaped. -/
def throughBracket? : List Char → Option (List Char)
  | [] => none
  | ']' :: _ => some [']']
  | ['\\'] => none
  | '\\' :: c :: rest => (throughBracket? rest).map ('\\' :: c :: ·)
  | c :: rest => (throughBracket? rest).map (c :: ·)

/-- What a class holds after its first characters. A closing bracket that comes first is a member
of the class, unless no other one closes it. -/
def afterCaret? : List Char → Option (List Char)
  | ']' :: rest => some (']' :: (throughBracket? rest).getD [])
  | rest => throughBracket? rest

/-- The rest of a class whose opening bracket has been read, if the class is closed. -/
def classBody? : List Char → Option (List Char)
  | '^' :: rest => (afterCaret? rest).map ('^' :: ·)
  | rest => afterCaret? rest

/-- Whether what follows the angle bracket makes it a look-behind. -/
def isLookbehind : List Char → Bool
  | '=' :: _ => true
  | '!' :: _ => true
  | _ => false

/-- The piece that starts with the given character and goes on in the given text. -/
def firstPiece (c : Char) (rest : List Char) : Piece :=
  match c, rest with
  | '\\', d :: _ => .escape d
  | '[', rest =>
    match classBody? rest with
    | some body => .bracket body
    | none => .char '['
  | '(', '?' :: '<' :: after => if isLookbehind after then .char '(' else .opener
  | c, _ => .char c

def pieces : List Char → List Piece
  | [] => []
  | c :: rest =>
    let piece := firstPiece c rest
    piece :: pieces (rest.drop (piece.text.length - 1))
termination_by text => text.length
decreasing_by simp only [List.length_drop, List.length_cons]; omega

/-! ## Respelling -/

/-- A pattern with the letter in every opener. -/
def respell (pattern : String) : String :=
  String.ofList ((pieces pattern.toList).flatMap Piece.respelled)

end Linting.Pattern
