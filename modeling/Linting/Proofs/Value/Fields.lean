import Linting.Diagnostic
import Linting.Proofs.Fallible

/-! Fields of loose records. A field is read on its own, whatever else the record holds, and what is
wrong with several fields is told together, in their order. -/

namespace Linting
set_option autoImplicit false

variable {α β : Type}

/-- The key that the file of a record stands under, and its entry: the first of the two keys that is
there counts, whatever its value is. -/
def fileEntry (fields : List (String × Value)) : String × Option Value :=
  match fields.lookup "filePath" with
  | some v => ("filePath", some v)
  | none => ("file_path", fields.lookup "file_path")

theorem fileEntry_eq (fields : List (String × Value)) :
    fileEntry fields = (filePathKey fields, fields.lookup (filePathKey fields)) := by
  unfold fileEntry filePathKey
  cases hfile : fields.lookup "filePath" with
  | none => rfl
  | some v =>
    dsimp only [Option.isSome]
    rw [if_pos rfl, hfile]

namespace Value

/-! ## Results that come together -/

/-- What is wrong, if anything is. -/
def faultsOf : Except (List Fault) α → List Fault
  | .ok _ => []
  | .error faults => faults

theorem both_eq_ok_iff {x : Except (List Fault) α} {y : Except (List Fault) β} {p : α × β} :
    both x y = .ok p ↔ x = .ok p.1 ∧ y = .ok p.2 := by
  unfold both
  cases x <;> cases y <;> simp [Prod.ext_iff]

/-- If two results do not come together, all that is wrong with either is told. -/
theorem faultsOf_both (x : Except (List Fault) α) (y : Except (List Fault) β) :
    faultsOf (both x y) = faultsOf x ++ faultsOf y := by
  unfold both
  cases x <;> cases y <;> simp [faultsOf]

theorem faultsOf_map (f : α → β) (x : Except (List Fault) α) : faultsOf (x.map f) = faultsOf x := by
  cases x <;> rfl

/-! ## Entries that may be missing -/

/-- What an entry gives: a default if it is missing, or what its value is read as. -/
inductive Given (default : α) (reads : Value → α → Prop) : Option Value → α → Prop where
  | absent : Given default reads none default
  | present {v : Value} {a : α} (h : reads v a) : Given default reads (some v) a

section
variable {default a : α} {reads : Value → α → Prop} {read : Value → Except (List Fault) α}
  {fields : List (String × Value)} {key : String} {kind : FaultKind}

theorem given_some_iff {v : Value} : Given default reads (some v) a ↔ reads v a := by
  constructor
  · rintro ⟨⟩
    assumption
  · exact .present

theorem readField_eq_ok_iff (hread : ∀ v a, read v = .ok a ↔ reads v a) :
    Diagnostic.readField fields key default read = .ok a ↔
      Given default reads (fields.lookup key) a := by
  unfold Diagnostic.readField
  cases fields.lookup key with
  | none =>
    constructor
    · rintro ⟨⟩
      exact .absent
    · rintro ⟨⟩
      rfl
  | some v =>
    dsimp only
    rw [under, mapError_eq_ok_iff, hread, given_some_iff]

/-- Reading a value decides whether it may be read. -/
def decidableReads (hread : ∀ v a, read v = .ok a ↔ reads v a) (v : Value) :
    Decidable (∃ a, reads v a) :=
  match h : read v with
  | .ok a => .isTrue ⟨a, (hread v a).mp h⟩
  | .error _ => .isFalse fun ⟨a, ha⟩ => nomatch h.symm.trans ((hread v a).mpr ha)

instance [∀ v, Decidable (∃ a, reads v a)] (entry : Option Value) :
    Decidable (∃ a, Given default reads entry a) :=
  match entry with
  | none => .isTrue ⟨default, .absent⟩
  | some v => decidable_of_iff (∃ a, reads v a) (exists_congr fun _ => given_some_iff.symm)

/-- A field that cannot be read is told under its key. -/
theorem faultsOf_readField [∀ v, Decidable (∃ a, reads v a)]
    (hread : ∀ v a, read v = .ok a ↔ reads v a)
    (hrefuse : ∀ v faults, read v = .error faults → faults = [.here kind]) :
    faultsOf (Diagnostic.readField fields key default read) =
      if ∃ a, Given default reads (fields.lookup key) a then [] else [⟨[.key key], kind⟩] := by
  have hok (a : α) : Diagnostic.readField fields key default read = .ok a ↔
      Given default reads (fields.lookup key) a := readField_eq_ok_iff hread
  cases hfield : Diagnostic.readField fields key default read with
  | ok a => rw [if_pos ⟨a, (hok a).mp hfield⟩, faultsOf]
  | error faults =>
    rw [if_neg]
    · unfold Diagnostic.readField at hfield
      split at hfield
      · obtain ⟨bare, hbare, rfl⟩ := mapError_eq_error_iff.mp hfield
        rw [hrefuse _ bare hbare]
        rfl
      · cases hfield
    · rintro ⟨a, ha⟩
      cases hfield.symm.trans ((hok a).mpr ha)

end

end Value

end Linting
