import Linting.Terminal.Cells
import Linting.Terminal.Colour

/-! Styles of text on a terminal, the words that define them, and the codes that switch them on. -/

namespace Linting.Terminal
set_option autoImplicit false

inductive Attribute where
  | bold
  | dim
  | italic
  | underline
  | blink
  | blink2
  | reverse
  | conceal
  | strike
  | underline2
  | frame
  | encircle
  | overline
deriving DecidableEq, Repr

namespace Attribute

/-- All attributes with their words and codes, in the order of the codes. -/
def table : List (Attribute × String × Nat) :=
  [(bold, "bold", 1), (dim, "dim", 2), (italic, "italic", 3), (underline, "underline", 4),
    (blink, "blink", 5), (blink2, "blink2", 6), (reverse, "reverse", 7), (conceal, "conceal", 8),
    (strike, "strike", 9), (underline2, "underline2", 21), (frame, "frame", 51),
    (encircle, "encircle", 52), (overline, "overline", 53)]

def abbreviations : List (String × Attribute) :=
  [("b", bold), ("d", dim), ("i", italic), ("u", underline), ("r", reverse), ("c", conceal),
    ("s", strike), ("uu", underline2), ("o", overline)]

def read? (word : String) : Option Attribute :=
  ((table.find? fun (_, name, _) => name = word).map (·.1)).or (abbreviations.lookup word)

end Attribute

/-- Attributes that are set to on or off, in the order of the table, and colours. -/
structure Style where
  attributes : List (Attribute × Bool) := []
  colour : Option Colour := none
  background : Option Colour := none
  link : Option String := none
deriving DecidableEq, Repr

namespace Style

def isPlain (s : Style) : Bool := s = {}

def setting? (s : Style) (a : Attribute) : Option Bool := s.attributes.lookup a

/-- One style under another: what the one above sets prevails. -/
def under (below above : Style) : Style where
  attributes := Attribute.table.filterMap fun (a, _) =>
    ((above.setting? a).or (below.setting? a)).map (a, ·)
  colour := above.colour.or below.colour
  background := above.background.or below.background
  link := above.link.or below.link

def set (s : Style) (a : Attribute) (on : Bool) : Style := s.under { attributes := [(a, on)] }

/-! ## Definitions -/

/-- The words of a definition of a style. -/
def wordsOf (text : List Char) : List String :=
  ((text.splitBy fun a b => isBlank a = isBlank b).filter fun w => !w.all isBlank).map String.ofList

/-- Reads words on top of a style; attributes and the words on, not and link are recognised first,
and any other word is a colour. There is no style if a word is not known, but a mixture of colours
that cannot be read is a fault. -/
def readWords (s : Style) : List String → Except PartFault (Option Style)
  | [] => .ok (some s)
  | spelled :: rest =>
    let word := String.ofList (Text.lowerText spelled.toList)
    match word, rest with
    | "on", colour :: rest => do
      let some c ← Colour.read colour | return none
      readWords { s with background := some c } rest
    | "on", [] => .ok none
    | "not", name :: rest =>
      match Attribute.read? name with
      | some a => readWords (s.set a false) rest
      | none => .ok none
    | "not", [] => .ok none
    | "link", target :: rest => readWords { s with link := some target } rest
    | "link", [] => .ok none
    | word, rest =>
      match Attribute.read? word with
      | some a => readWords (s.set a true) rest
      | none => do
        let some c ← Colour.read word | return none
        readWords { s with colour := some c } rest

def read (definition : String) : Except PartFault (Option Style) :=
  match wordsOf definition.toList with
  | ["none"] => .ok (some {})
  | words => readWords {} words

/-- The definition of a style in its regular form. -/
def definition (s : Style) : String :=
  let attributes := Attribute.table.filterMap fun (a, name, _) =>
    (s.setting? a).map fun on => if on then name else "not " ++ name
  let words := attributes ++ (s.colour.map (·.name)).toList
    ++ (s.background.map ("on " ++ ·.name)).toList ++ (s.link.map ("link " ++ ·)).toList
  if words.isEmpty then "none" else " ".intercalate words

/-- Definitions of the styles that have a name of their own and are not plain. -/
def named : List (String × String) :=
  [
    ("reset", "not bold not dim not italic not underline not blink not blink2 not reverse " ++
      "not conceal not strike default on default"),
    ("bright", "not dim"), ("strong", "bold"), ("code", "bold reverse"), ("emphasize", "italic"),
    ("inspect.attr", "italic yellow"), ("inspect.attr.dunder", "dim italic yellow"),
    ("inspect.callable", "bold red"), ("inspect.async_def", "italic bright_cyan"),
    ("inspect.def", "italic bright_cyan"), ("inspect.class", "italic bright_cyan"),
    ("inspect.error", "bold red"), ("inspect.help", "cyan"), ("inspect.doc", "dim"),
    ("inspect.value.border", "green"), ("live.ellipsis", "bold red"),
    ("layout.tree.row", "not dim red"), ("layout.tree.column", "not dim blue"),
    ("logging.keyword", "bold yellow"), ("logging.level.notset", "dim"),
    ("logging.level.debug", "green"), ("logging.level.info", "blue"),
    ("logging.level.warning", "red"), ("logging.level.error", "bold red"),
    ("logging.level.critical", "bold reverse red"), ("log.time", "dim cyan"), ("log.path", "dim"),
    ("repr.ellipsis", "yellow"), ("repr.indent", "dim green"), ("repr.error", "bold red"),
    ("repr.str", "not bold not italic green"), ("repr.brace", "bold"), ("repr.comma", "bold"),
    ("repr.ipv4", "bold bright_green"), ("repr.ipv6", "bold bright_green"),
    ("repr.eui48", "bold bright_green"), ("repr.eui64", "bold bright_green"),
    ("repr.tag_start", "bold"), ("repr.tag_name", "bold bright_magenta"),
    ("repr.tag_contents", "default"), ("repr.tag_end", "bold"),
    ("repr.attrib_name", "not italic yellow"), ("repr.attrib_equal", "bold"),
    ("repr.attrib_value", "not italic magenta"), ("repr.number", "bold not italic cyan"),
    ("repr.number_complex", "bold not italic cyan"), ("repr.bool_true", "italic bright_green"),
    ("repr.bool_false", "italic bright_red"), ("repr.none", "italic magenta"),
    ("repr.url", "not bold not italic underline bright_blue"),
    ("repr.uuid", "not bold bright_yellow"), ("repr.call", "bold magenta"),
    ("repr.path", "magenta"), ("repr.filename", "bright_magenta"), ("rule.line", "bright_green"),
    ("json.brace", "bold"), ("json.bool_true", "italic bright_green"),
    ("json.bool_false", "italic bright_red"), ("json.null", "italic magenta"),
    ("json.number", "bold not italic cyan"), ("json.str", "not bold not italic green"),
    ("json.key", "bold blue"), ("prompt.choices", "bold magenta"), ("prompt.default", "bold cyan"),
    ("prompt.invalid", "red"), ("prompt.invalid.choice", "red"), ("scope.border", "blue"),
    ("scope.key", "italic yellow"), ("scope.key.special", "dim italic yellow"),
    ("scope.equals", "red"), ("table.header", "bold"), ("table.footer", "bold"),
    ("table.title", "italic"), ("table.caption", "dim italic"), ("traceback.error", "italic red"),
    ("traceback.border.syntax_error", "bright_red"), ("traceback.border", "red"),
    ("traceback.title", "bold red"), ("traceback.exc_type", "bold bright_red"),
    ("traceback.offset", "bold bright_red"), ("bar.back", "grey23"),
    ("bar.complete", "rgb(249,38,114)"), ("bar.finished", "rgb(114,156,31)"),
    ("bar.pulse", "rgb(249,38,114)"), ("progress.filesize", "green"),
    ("progress.filesize.total", "green"), ("progress.download", "green"),
    ("progress.elapsed", "yellow"), ("progress.percentage", "magenta"),
    ("progress.remaining", "cyan"), ("progress.data.speed", "red"), ("progress.spinner", "green"),
    ("status.spinner", "green"), ("markdown.em", "italic"), ("markdown.emph", "italic"),
    ("markdown.strong", "bold"), ("markdown.code", "bold cyan on black"),
    ("markdown.code_block", "cyan on black"), ("markdown.block_quote", "magenta"),
    ("markdown.list", "cyan"), ("markdown.item.bullet", "bold yellow"),
    ("markdown.item.number", "bold yellow"), ("markdown.hr", "yellow"), ("markdown.h1", "bold"),
    ("markdown.h2", "bold underline"), ("markdown.h3", "bold"), ("markdown.h4", "bold dim"),
    ("markdown.h5", "underline"), ("markdown.h6", "italic"), ("markdown.h7", "dim italic"),
    ("markdown.link", "bright_blue"), ("markdown.link_url", "underline blue"),
    ("markdown.s", "strike"), ("iso8601.date", "blue"), ("iso8601.time", "magenta"),
    ("iso8601.timezone", "yellow")]

/-- The style that a name or a definition stands for; one that is not known is plain. -/
def resolve (text : String) : Except PartFault Style :=
  (read ((named.lookup text).getD text)).map (·.getD {})

/-! ## Painting -/

/-- The parameters that switch a style on. -/
def codes (s : Style) : List Nat :=
  (Attribute.table.filterMap fun (a, _, code) =>
    if s.setting? a = some true then some code else none)
    ++ (s.colour.map (·.codes false)).getD [] ++ (s.background.map (·.codes true)).getD []

def escape : Char := Char.ofNat 0x1B

/-- A text between the codes that switch its style on and off again. -/
def paint (s : Style) (text : List Char) : List Char :=
  if text.isEmpty || s.codes.isEmpty then text
  else
    let on := ";".intercalate (s.codes.map toString)
    escape :: '[' :: on.toList ++ 'm' :: text ++ [escape, '[', '0', 'm']

end Style

end Linting.Terminal
