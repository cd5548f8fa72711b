import Linting.Proofs.Fallible
import Linting.Tool.Run

/-! What a request gets once its tool has ended. How the tool ended decides that alone: by a status,
by an error text or by the time it took, and only for who asked for the output. -/

namespace Linting.Tool
set_option autoImplicit false

/-! ## Requests -/

namespace Stream

def name : Stream → String
  | output => "stdout"
  | error => "stderr"
  | both => "both"

theorem ofName?_eq_some_iff {given : String} {stream : Stream} :
    ofName? given = some stream ↔ given = stream.name := by
  constructor
  · intro h
    rw [ofName?, named] at h
    simp only [List.lookup_cons, List.lookup_nil] at h
    split at h
    · next heq =>
      obtain rfl := Option.some.inj h
      exact eq_of_beq heq
    · split at h
      · next heq =>
        obtain rfl := Option.some.inj h
        exact eq_of_beq heq
      · split at h
        · next heq =>
          obtain rfl := Option.some.inj h
          exact eq_of_beq heq
        · cases h
  · rintro rfl
    cases stream <;> decide

end Stream

namespace Request

variable {command args wanted : Value} {r : Request}

theorem checkCommand_eq_ok_iff {name : String} :
    checkCommand command = .ok name ↔ command = .text name ∧ name ≠ "" := by
  constructor
  · intro h
    cases command with
    | text s =>
      rw [checkCommand] at h
      split at h
      · cases h
      · next hfull =>
        obtain rfl := Except.ok.inj h
        exact ⟨rfl, fun hempty => hfull (String.isEmpty_iff.mpr hempty)⟩
    | _ => cases h
  · rintro ⟨rfl, hfull⟩
    exact if_neg (mt String.isEmpty_iff.mp hfull)

theorem checkItems_eq_ok_iff {items : List Value} :
    checkItems args = .ok items ↔ args.items? = some items := by
  rw [checkItems]
  cases args.items? <;> simp

theorem checkEntries_eq_ok_iff {items : List Value} {texts : List String} :
    checkEntries items = .ok texts ↔ Value.texts? items = some texts := by
  rw [checkEntries]
  cases Value.texts? items <;> simp

theorem checkStream_eq_ok_iff {stream : Stream} :
    checkStream wanted = .ok stream ↔ wanted = .text stream.name := by
  constructor
  · intro h
    rw [checkStream] at h
    split at h
    · cases h
    · next hname =>
      obtain rfl := Except.ok.inj h
      cases wanted with
      | text given => rw [Stream.ofName?_eq_some_iff.mp hname]
      | _ => cases hname
    · cases h
  · rintro rfl
    simp only [checkStream, Value.unhashable?, Value.text?, Option.bind_some,
      Stream.ofName?_eq_some_iff.mpr rfl]

theorem check_eq_ok_iff :
    check command args wanted = .ok r ↔
      (command = .text r.command ∧ r.command ≠ "") ∧
      (∃ items, args.items? = some items ∧ Value.texts? items = some r.args) ∧
      wanted = .text r.stream.name := by
  constructor
  · intro h
    obtain ⟨name, hname, h⟩ := bind_eq_ok_iff.mp h
    obtain ⟨items, hitems, h⟩ := bind_eq_ok_iff.mp h
    obtain ⟨texts, htexts, h⟩ := bind_eq_ok_iff.mp h
    obtain ⟨stream, hstream, h⟩ := bind_eq_ok_iff.mp h
    obtain rfl := Except.ok.inj h
    exact ⟨checkCommand_eq_ok_iff.mp (mapError_eq_ok_iff.mp hname),
      ⟨items, checkItems_eq_ok_iff.mp (mapError_eq_ok_iff.mp hitems),
        checkEntries_eq_ok_iff.mp (mapError_eq_ok_iff.mp htexts)⟩,
      checkStream_eq_ok_iff.mp hstream⟩
  · rintro ⟨hcommand, ⟨items, hitems, htexts⟩, hstream⟩
    refine bind_eq_ok_iff.mpr
      ⟨r.command, mapError_eq_ok_iff.mpr (checkCommand_eq_ok_iff.mpr hcommand), ?_⟩
    refine bind_eq_ok_iff.mpr
      ⟨items, mapError_eq_ok_iff.mpr (checkItems_eq_ok_iff.mpr hitems), ?_⟩
    refine bind_eq_ok_iff.mpr
      ⟨r.args, mapError_eq_ok_iff.mpr (checkEntries_eq_ok_iff.mpr htexts), ?_⟩
    exact bind_eq_ok_iff.mpr ⟨r.stream, checkStream_eq_ok_iff.mpr hstream, rfl⟩

end Request

/-! ## Failing -/

namespace Ended

end Ended

section
variable {σ : Type} {start : Launch → σ → Except LaunchError Ended × σ}
  {executable : String → Bool} {env : Environment} {kept kept' : Settings.Kept} {state state' : σ}
  {request : Except RequestError Request} {options : Options} {stream : Stream} {launch : Launch}
  {ended : Ended}

end

end Linting.Tool
