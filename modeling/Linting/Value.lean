import Linting.Number.Shortest
import Linting.Path
import Linting.Text.Integer
import Linting.Text.Quoted

/-! Loose values: what a caller may hand in where a value of one kind is expected. -/

namespace Linting
set_option autoImplicit false

/-- The options of a parse: flag letters, and the file of diagnostics that name none. -/
structure ParseOptions where
  flags : String := ""
  filePath : Option String := none
deriving DecidableEq, Repr

/-- The name, inside a scratch directory, and the text of a file. -/
structure FileSpec where
  name : String
  contents : String
deriving DecidableEq, Repr

inductive Value where
  | null
  | bool (b : Bool)
  | int (n : Int)
  | float (x : Number.Binary64)
  | text (s : String)
  | bytes (bs : List UInt8)
  | list (items : List Value)
  | tuple (items : List Value)
  | record (fields : List (String × Value))
  | path (p : Path)
  | options (o : ParseOptions)
  | fileSpec (f : FileSpec)
deriving Repr, Inhabited

namespace Value

/-! ## Looking at a value -/

def text? : Value → Option String
  | text s => some s
  | _ => none

/-- The items of a value that is a sequence; texts and bytes are not counted as one. -/
def items? : Value → Option (List Value)
  | list items => some items
  | tuple items => some items
  | _ => none

/-- The texts of a sequence that holds nothing else. -/
def texts? (items : List Value) : Option (List String) := items.mapM text?

/-- The word for the kind of a value. -/
def kind : Value → String
  | null => "NoneType"
  | bool _ => "bool"
  | int _ => "int"
  | float _ => "float"
  | text _ => "str"
  | bytes _ => "bytes"
  | list _ => "list"
  | tuple _ => "tuple"
  | record _ => "dict"
  | path _ => "PurePosixPath"
  | options _ => "ParseOptions"
  | fileSpec _ => "TempFileSpec"

end Value

/-! ## Keys -/

/-- A part of a value, by its kind, that keeps it from being a key or an element of a set. -/
structure Unhashable where
  kind : String
deriving DecidableEq, Repr

def Unhashable.message (part : Unhashable) : String := "unhashable type: " ++ Text.quoted part.kind

namespace Value

mutual

/-- The first such part: a list or a record; a tuple has one if an item of it has. -/
def unhashable? : Value → Option Unhashable
  | list _ => some ⟨"list"⟩
  | record _ => some ⟨"dict"⟩
  | tuple items => firstUnhashable? items
  | _ => none

def firstUnhashable? : List Value → Option Unhashable
  | [] => none
  | v :: rest =>
    match unhashable? v with
    | some part => some part
    | none => firstUnhashable? rest

end

/-! ## Showing a value in a message -/

mutual

/-- Whether a value can be shown: no whole number in it has too many digits to be written. -/
def isShowable : Value → Bool
  | int n => Text.isWritable n
  | list items | tuple items => areShowable items
  | record fields => fieldsShowable fields
  | _ => true

def areShowable : List Value → Bool
  | [] => true
  | v :: rest => isShowable v && areShowable rest

def fieldsShowable : List (String × Value) → Bool
  | [] => true
  | (_, v) :: rest => isShowable v && fieldsShowable rest

end

def shownByte (quote : Char) (b : UInt8) : List Char :=
  let c := Char.ofNat b.toNat
  if c = quote ∨ c = '\\' then ['\\', c]
  else if c = '\n' then ['\\', 'n']
  else if c = '\r' then ['\\', 'r']
  else if c = '\t' then ['\\', 't']
  else if 0x20 ≤ b.toNat ∧ b.toNat < 0x7F then [c]
  else '\\' :: 'x' :: Text.hexDigits 2 b.toNat

def shownBytes (bs : List UInt8) : String :=
  let quote := Text.quoteFor (bs.map fun b => Char.ofNat b.toNat)
  String.ofList ('b' :: quote :: bs.flatMap (shownByte quote) ++ [quote])

def shownOption : Option String → String
  | some s => Text.quoted s
  | none => "None"

def separated (parts : List String) : String := ", ".intercalate parts

mutual

def shown : Value → String
  | null => "None"
  | bool b => if b then "True" else "False"
  | int n => toString n
  | float x => x.shortest
  | text s => Text.quoted s
  | bytes bs => shownBytes bs
  | list items => "[" ++ separated (shownAll items) ++ "]"
  | tuple items =>
    match shownAll items with
    | [one] => "(" ++ one ++ ",)"
    | parts => "(" ++ separated parts ++ ")"
  | record fields => "\x7b" ++ separated (shownFields fields) ++ "\x7d"
  | path p => "PurePosixPath(" ++ Text.quoted p.toString ++ ")"
  | options o =>
    "ParseOptions(flags=" ++ Text.quoted o.flags ++ ", file_path=" ++ shownOption o.filePath ++ ")"
  | fileSpec f =>
    "TempFileSpec(name=" ++ Text.quoted f.name ++ ", contents=" ++ Text.quoted f.contents ++ ")"

def shownAll : List Value → List String
  | [] => []
  | v :: rest => shown v :: shownAll rest

def shownFields : List (String × Value) → List String
  | [] => []
  | (name, v) :: rest => (Text.quoted name ++ ": " ++ shown v) :: shownFields rest

end

end Value

end Linting
