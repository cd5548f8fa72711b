import Linting.Proofs.CommandLine.InvalidPatterns
import Linting.Proofs.CommandLine.Report
import Linting.Proofs.Diagnostic.Defaults

/-! The status of a command that reads diagnostics. It tells how the reading ended and nothing else:
how the diagnostics are presented has no part in it, nor has whether they can be. -/

namespace Linting
set_option autoImplicit false

/-! ## Other defaults of the file -/

section
variable {data source : String} {options options' : ParseOptions}

end

namespace CommandLine

/-! ## The status of a result -/

namespace ParseCommand

end ParseCommand

/-! ## Long options -/

section
variable {σ : Type} (table : OptionTable σ) {choices : σ} {rest : List String}

/-- An argument that is a long option and has no value of its own. -/
def IsLong (arg : String) : Prop :=
  arg ≠ "--" ∧ isOption arg = true ∧ arg.startsWith "--" = true ∧ splitValue arg = (arg, none)

instance decidableIsLong (arg : String) : Decidable (IsLong arg) :=
  inferInstanceAs (Decidable (_ ∧ _ ∧ _ ∧ _))

end

/-! ## Choices of presentation -/

namespace Choice

end Choice

end CommandLine

end Linting
