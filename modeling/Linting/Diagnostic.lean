import Linting.Fault
import Linting.Number.Lenient
import Linting.Text.Utf8
import Linting.Value

/-! Diagnostics: what a tool found at a place of a file. Lines and columns count from zero.

A diagnostic may be read from a loosely typed record, and its own record reads back as itself. -/

namespace Linting
set_option autoImplicit false

/-! ## Places -/

structure Point where
  line : Nat
  column : Nat
deriving DecidableEq, Repr

structure TextRange where
  start : Point
  stop : Point
deriving DecidableEq, Repr

def Point.zero : Point := ⟨0, 0⟩

def TextRange.zero : TextRange := ⟨.zero, .zero⟩

/-! ## Diagnostics -/

structure Diagnostic where
  type : Option String := none
  text : Option String := none
  filePath : Option String := none
  range : TextRange := .zero
deriving DecidableEq, Repr

namespace Diagnostic

def start (d : Diagnostic) : Point := d.range.start

def stop (d : Diagnostic) : Point := d.range.stop

/-! ## The record of a diagnostic -/

def ofText : Option String → Value
  | some s => .text s
  | none => .null

def ofPoint (p : Point) : Value := .list [.int p.line, .int p.column]

def toFields (d : Diagnostic) : List (String × Value) :=
  [("type", ofText d.type), ("text", ofText d.text), ("filePath", ofText d.filePath),
    ("range", .list [ofPoint d.range.start, ofPoint d.range.stop])]

end Diagnostic

/-! ## Reading fields -/

namespace Value

/-- A result with the faults of a field told under its place. -/
def under {α : Type} (step : Step) (result : Except (List Fault) α) : Except (List Fault) α :=
  result.mapError fun faults => faults.map (Fault.under step)

def refuse {α : Type} (kind : FaultKind) : Except (List Fault) α := .error [.here kind]

/-- Two results together; if both have faults, all of them. -/
def both {α β : Type} (a : Except (List Fault) α) (b : Except (List Fault) β) :
    Except (List Fault) (α × β) :=
  match a, b with
  | .ok x, .ok y => .ok (x, y)
  | .error e, .ok _ => .error e
  | .ok _, .error f => .error f
  | .error e, .error f => .error (e ++ f)

def readText : Value → Except (List Fault) (Option String)
  | null => .ok none
  | text s => .ok (some s)
  | bytes bs =>
    match Text.decode? bs with
    | some s => .ok (some s)
    | none => refuse .notUnicode
  | _ => refuse .notText

def ofWhole : Except Number.WholeError Int → Except FaultKind Int
  | .ok n => .ok n
  | .error .tooLarge => .error .integerTooLarge
  | .error .unreadable => .error .unreadableInteger

/-- From here on, and up to its negative, whole numbers of floating point are too large. -/
def wholeLimit : Nat := Nat.pow 2 63

def readFloat (x : Number.Binary64) : Except FaultKind Int :=
  if !x.isFinite then .error .notFinite
  else if !x.isWhole then .error .fractional
  else if wholeLimit ≤ x.wholePart then .error .integerTooLarge
  else .ok x.truncate

def readInteger : Value → Except FaultKind Int
  | int n => .ok n
  | bool b => .ok (if b then 1 else 0)
  | float x => readFloat x
  | text s => ofWhole (Number.readWhole s.toList)
  | bytes bs =>
    match Text.decode? bs with
    | some s => ofWhole (Number.readWhole s.toList)
    | none => .error .unreadableInteger
  | _ => .error .notInteger

def readCoordinate (v : Value) : Except (List Fault) Nat :=
  match v.readInteger with
  | .ok (.ofNat n) => .ok n
  | .ok (.negSucc _) => refuse .negative
  | .error kind => refuse kind

/-- Reads a sequence of two items. -/
def readPair {α : Type} (read : Value → Except (List Fault) α) (v : Value) :
    Except (List Fault) (α × α) :=
  let item := fun i (item : Option Value) =>
    under (.index i) (match item with | some w => read w | none => refuse .missing)
  match v.items? with
  | none => refuse .notTuple
  | some items =>
    if 2 < items.length then refuse (.tooLong items.length)
    else both (item 0 items[0]?) (item 1 items[1]?)

def readPoint (v : Value) : Except (List Fault) Point :=
  (readPair readCoordinate v).map fun (line, column) => ⟨line, column⟩

def readRange (v : Value) : Except (List Fault) TextRange :=
  (readPair readPoint v).map fun (start, stop) => ⟨start, stop⟩

end Value

/-- The key under which a record gives the file: the first of the two that is there. -/
def filePathKey (fields : List (String × Value)) : String :=
  if (fields.lookup "filePath").isSome then "filePath" else "file_path"

namespace Diagnostic

def readField {α : Type} (fields : List (String × Value)) (key : String) (absent : α)
    (read : Value → Except (List Fault) α) : Except (List Fault) α :=
  match fields.lookup key with
  | some v => Value.under (.key key) (read v)
  | none => .ok absent

/-- Reads a diagnostic; fields that are absent have their defaults, unknown ones do not matter. -/
def ofFields (fields : List (String × Value)) : Except (List Fault) Diagnostic :=
  let type := readField fields "type" none Value.readText
  let text := readField fields "text" none Value.readText
  let file := readField fields (filePathKey fields) none Value.readText
  let range := readField fields "range" .zero Value.readRange
  (Value.both type (Value.both text (Value.both file range))).map
    fun (type, text, filePath, range) => { type, text, filePath, range }

end Diagnostic

end Linting
