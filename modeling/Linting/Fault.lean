/-! What is wrong with a field of a loosely typed record, and where. -/

namespace Linting
set_option autoImplicit false

/-- One step of the way to a faulty value: a key of a record or an index of a list. -/
inductive Step where
  | key (name : String)
  | index (i : Nat)
deriving DecidableEq, Repr

inductive FaultKind where
  | notText
  | notUnicode
  | notTuple
  | missing
  | tooLong (size : Nat)
  | notInteger
  | unreadableInteger
  | fractional
  | notFinite
  | integerTooLarge
  | negative
  | emptyText
  | notRecord (model : String)
  | refused (reason : String)
deriving DecidableEq, Repr

structure Fault where
  place : List Step
  kind : FaultKind
deriving DecidableEq, Repr

namespace Fault

def under (step : Step) (fault : Fault) : Fault := { fault with place := step :: fault.place }

def here (kind : FaultKind) : Fault := ⟨[], kind⟩

/-- The number of faults of a model, in words. -/
def summary (faults : List Fault) (model : String) : String :=
  toString faults.length ++ " validation error" ++ (if faults.length = 1 then "" else "s")
    ++ " for " ++ model

end Fault

end Linting
