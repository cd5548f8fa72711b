import Linting.Proofs.Pattern.FlagSet

/-! What an error records of the request that it refuses. The pattern is always the one that was
given, and so are the flags, except that `g` is supplied to flags that are themselves at fault. -/

namespace Linting.Pattern
set_option autoImplicit false

variable {source flags pattern told : String} {reason : Invalid}

/-- The flags that an error records, by what is wrong: faulty flags as they were read, and all other
flags as they were given. -/
def recordedFlags (flags : String) : Invalid → String
  | .flag _ => normalizeFlags flags
  | .expression _ _ => flags

theorem ofFailure_eq_invalid {failure : Regex.Failure}
    (h : CompileError.ofFailure source flags failure = .invalid reason pattern told) :
    (∃ cause place, reason = .expression cause place) ∧ pattern = source ∧ told = flags := by
  cases failure with
  | badSyntax cause place =>
    cases h
    exact ⟨⟨cause, place, rfl⟩, rfl, rfl⟩
  | _ => cases h

/-- What is wrong is in the expression exactly if the flags are accepted. -/
theorem reason_of_compile (h : compile source flags = .error (.invalid reason pattern told)) :
    (AreFlags flags.toList ↔ ∃ cause place, reason = .expression cause place) ∧
      pattern = source ∧ told = recordedFlags flags reason := by
  by_cases haccepted : AreFlags flags.toList
  · rw [compile_of_areFlags haccepted, outcome] at h
    split at h
    · obtain ⟨⟨cause, place, rfl⟩, hpattern, htold⟩ := ofFailure_eq_invalid (Except.error.inj h)
      exact ⟨iff_of_true haccepted ⟨cause, place, rfl⟩, hpattern, htold⟩
    · cases h
  · obtain ⟨fault, hfault⟩ := exists_firstFault_iff.mpr haccepted
    rw [compile_of_flagFault? (flagFault?_eq_some_iff.mpr hfault)] at h
    cases h
    refine ⟨iff_of_false haccepted ?_, rfl, rfl⟩
    rintro ⟨cause, place, hreason⟩
    cases hreason

theorem normalizeFlags_of_missing (h : 'g' ∉ flags.toList) : normalizeFlags flags = flags ++ "g" :=
  if_neg (mt List.contains_iff_mem.mp h)

theorem normalizeFlags_eq_self_iff : normalizeFlags flags = flags ↔ 'g' ∈ flags.toList := by
  constructor
  · intro h
    exact h ▸ mem_normalizeFlags flags
  · intro h
    exact if_pos (List.contains_iff_mem.mpr h)

/-- An error records the pattern as it was given. It records the flags as they were given exactly
if `g` is among them or they are accepted; else their leftmost fault is told, and `g` is recorded
behind them. Flags that are not accepted always end in such an error. -/
theorem invalid_records_request (source flags : String) :
    (∀ reason pattern told, compile source flags = .error (.invalid reason pattern told) →
      pattern = source ∧
      (told = flags ↔ 'g' ∈ flags.toList ∨ AreFlags flags.toList) ∧
      (told ≠ flags → told = flags ++ "g" ∧
        ∃ fault, reason = .flag fault ∧ FirstFault flags.toList fault) ∧
      (AreFlags flags.toList ↔ ∃ cause place, reason = .expression cause place)) ∧
    (¬ AreFlags flags.toList → ∃ fault told, FirstFault flags.toList fault ∧
      compile source flags = .error (.invalid (.flag fault) source told)) := by
  refine ⟨fun reason pattern told h => ?_, fun hfaulty => ?_⟩
  · obtain ⟨hreason, rfl, rfl⟩ := reason_of_compile h
    refine ⟨rfl, ?_, ?_, hreason⟩
    · cases reason with
      | flag fault =>
        have hfaulty : ¬ AreFlags flags.toList := mt hreason.mp nofun
        rw [or_iff_left hfaulty]
        exact normalizeFlags_eq_self_iff
      | expression cause place => exact iff_of_true rfl (.inr (hreason.mpr ⟨cause, place, rfl⟩))
    · intro hother
      cases reason with
      | flag fault =>
        obtain ⟨hfault, -, -⟩ := compile_eq_flagFault_iff.mp h
        refine ⟨normalizeFlags_of_missing fun hmem => hother ?_, fault, rfl, hfault⟩
        exact normalizeFlags_eq_self_iff.mpr hmem
      | expression cause place => exact absurd rfl hother
  · obtain ⟨fault, hfault⟩ := exists_firstFault_iff.mpr hfaulty
    exact ⟨fault, _, hfault, compile_of_flagFault? (flagFault?_eq_some_iff.mpr hfault)⟩

/-- A flag that is repeated, with a pattern that would not compile either. -/
theorem invalid_records_request_repeated :
    compile "(" "mim" = .error (.invalid (.flag (.repeated 'm')) "(" "mimg") ∧
      FirstFault "mim".toList (.repeated 'm') ∧ ¬ AreFlags "mim".toList := by
  have hcompile : compile "(" "mim" = .error (.invalid (.flag (.repeated 'm')) "(" "mimg") := by
    decide +kernel
  obtain ⟨-, -, htold, hreason⟩ := (invalid_records_request "(" "mim").1 _ _ _ hcompile
  obtain ⟨-, fault, hfault, hfirst⟩ := htold (by decide)
  cases hfault
  exact ⟨hcompile, hfirst, mt hreason.mp nofun⟩

/-- Flags with an unknown letter are recorded with the letter `g`, which was not given. -/
theorem unknown_flag_records_more :
    compile "a" "q" = .error (.invalid (.flag (.unknown 'q')) "a" "qg") ∧ "qg" ≠ "q" := by
  decide +kernel

end Linting.Pattern
