import Linting.Fault
import Linting.Value

/-! The files of a scratch directory: a name that stays inside the directory, and a text. -/

namespace Linting.FileSpec
set_option autoImplicit false

/-- Whether a name leads to a place strictly inside the directory. -/
def staysInside (name : String) : Bool :=
  let p := Path.ofString name
  !p.isAbsolute && !p.names.isEmpty && !p.names.contains ".."

def outsideMessage (name : String) : String :=
  "file name " ++ Text.quoted name ++ " must be a relative path inside the temp directory"

def nameFault? : Option Value → Option FaultKind
  | some (.text name) =>
    if name.isEmpty then some .emptyText
    else if staysInside name then none
    else some (.refused (outsideMessage name))
  | some _ => some .notText
  | none => some .missing

def contentsFault? : Option Value → Option FaultKind
  | some (.text _) => none
  | some _ => some .notText
  | none => some .missing

def textOf (v : Option Value) : String := (v.bind Value.text?).getD ""

/-- Reads a file from a record with a name and contents, both texts. -/
def ofFields (fields : List (String × Value)) : Except (List Fault) FileSpec :=
  let name := fields.lookup "name"
  let contents := fields.lookup "contents"
  let fault := fun (key : String) (kind : FaultKind) => (⟨[.key key], kind⟩ : Fault)
  let faults :=
    ((nameFault? name).map (fault "name")).toList
      ++ ((contentsFault? contents).map (fault "contents")).toList
  if faults.isEmpty then .ok ⟨textOf name, textOf contents⟩ else .error faults

def ofValue : Value → Except (List Fault) FileSpec
  | .fileSpec f => .ok f
  | .record fields => ofFields fields
  | _ => .error [.here (.notRecord "TempFileSpec")]

end Linting.FileSpec
