import Linting.CommandLine.Run
import Linting.Proofs.Fallible

/-! The status of a command that reads diagnostics is that of what was read: whether the diagnostics
can be presented has no part in it. -/

namespace Linting.CommandLine
set_option autoImplicit false

/-- The status for what reading a text gives. -/
def statusFor : Except CollectError (List Diagnostic) → Nat
  | .error (.compile (.invalid _ _ _)) => 2
  | .error _ => 1
  | .ok ds => if ds = [] then 0 else 1

namespace ParseCommand

variable {s : Surroundings} {c : ParseCommand} {ds : List Diagnostic} {failure : Failure}

/-- Only diagnostics can fail to be presented, and no list without any. -/
theorem present_eq_error (h : c.present s ds = .error failure) :
    ds ≠ [] ∧ ∃ e, failure = .render e := by
  rw [present] at h
  split at h
  · split at h
    · cases h
    · next hnone =>
      refine ⟨?_, _, (Except.error.inj h).symm⟩
      rintro rfl
      cases hnone
  · split at h
    · cases h
    · next hsome =>
      obtain ⟨e, -, rfl⟩ := mapError_eq_error_iff.mp h
      exact ⟨mt List.isEmpty_iff.mpr hsome, e, rfl⟩

theorem outcomeFor_status (s : Surroundings) (c : ParseCommand) (data : String) :
    (c.outcomeFor s data).status =
      statusFor (parse data c.pattern { flags := c.flags, filePath := c.filePath }) := by
  rw [outcomeFor]
  split
  · next hparse =>
    rw [hparse]
    rfl
  · next e hother hparse =>
    rw [hparse]
    cases e with
    | compile e =>
      cases e with
      | invalid reason pattern flags => exact absurd rfl (hother reason pattern flags)
      | _ => rfl
    | _ => rfl
  · next ds hparse =>
    rw [hparse]
    split
    · next hpresent =>
      obtain ⟨hsome, e, rfl⟩ := present_eq_error hpresent
      exact (if_neg hsome).symm
    · simp only [statusOf, statusFor, List.isEmpty_iff]

end ParseCommand

end Linting.CommandLine
