import Linting.Proofs.Text.Newline
import Linting.Tool.Outcome

/-! What is told of the streams of a tool, whether it finished or ran out of time. The same bytes
read alike either way but for their line ends, which only a tool that finished has unified; so a
carriage return, and nothing else, makes a difference. -/

namespace Linting.Tool.Ended
open Text
set_option autoImplicit false

/-- A finished tool's text is that of the bytes exactly if there is no carriage return in them. -/
theorem finishedText_eq_iff {bytes : List UInt8} :
    decodeLoosely bytes = finishedText bytes ↔ 0x0D ∉ bytes := by
  rw [finishedText, ← String.toList_inj, String.toList_ofList, eq_comm, unifyNewlines_eq_self_iff,
    return_mem_decodeLoosely_iff]

theorem withNotice_toList (text notice : String) :
    (withNotice text notice).toList =
      (if text = "" then [] else text.toList ++ ['\n']) ++ notice.toList := by
  rw [withNotice]
  by_cases h : text = ""
  · rw [if_pos h, if_pos (String.isEmpty_iff.mpr h), List.nil_append]
  · rw [if_neg h, if_neg (mt String.isEmpty_iff.mp h), String.toList_append, String.toList_append]
    rfl

/-- The notice hides nothing of the text before it. -/
theorem withNotice_inj {text other notice : String} :
    withNotice text notice = withNotice other notice ↔ text = other := by
  constructor
  · intro h
    have hfront := congrArg String.toList h
    rw [withNotice_toList, withNotice_toList] at hfront
    have hlines := List.append_cancel_right hfront
    split at hlines <;> split at hlines
    · next htext hother => rw [htext, hother]
    · exact absurd hlines.symm (List.concat_ne_nil _ _)
    · exact absurd hlines (List.concat_ne_nil _ _)
    · exact String.toList_inj.mp (List.append_cancel_right hlines)
  · rintro rfl
    rfl

/-- A tool that finished and one that was stopped after writing the same bytes: their output reads
alike exactly if it holds no carriage return, and so does their error output, with the notice behind
the text of the one that was stopped. Line ends are all that may differ. -/
theorem timedOut_agrees_iff (limit : Number.Binary64) (status : Int) (captured : Captured) :
    let complete := (finished status captured).outcome
    let stopped := (timedOut limit captured).outcome
    (complete.output.toList = unifyNewlines stopped.output.toList ∧
      ∃ text, complete.error.toList = unifyNewlines text.toList ∧
        stopped.error = withNotice text (timeoutNotice limit)) ∧
    (stopped.output = complete.output ↔ 0x0D ∉ captured.output) ∧
    (stopped.error = withNotice complete.error (timeoutNotice limit) ↔
      0x0D ∉ captured.error) := by
  intro complete stopped
  refine ⟨⟨?_, decodeLoosely captured.error, ?_, rfl⟩, finishedText_eq_iff, ?_⟩
  · exact String.toList_ofList
  · exact String.toList_ofList
  · exact withNotice_inj.trans finishedText_eq_iff

/-- Two tools write a line that ends with a return and a feed, and an error that ends with a return.
One finishes, the other one is stopped after a second. -/
theorem timedOut_ne_finished_return :
    let captured : Captured := ⟨[0x70, 0x0D, 0x0A], [0x71, 0x0D]⟩
    let limit : Number.Binary64 := .finite false Number.Binary64.unitsPerOne
    (finished 0 captured).outcome.output = "p\n" ∧
      (timedOut limit captured).outcome.output = "p\r\n" ∧
      (timedOut limit captured).outcome.error = "q\r\nCommand timed out after 1.0s" ∧
      (timedOut limit captured).outcome.error ≠
        withNotice (finished 0 captured).outcome.error (timeoutNotice limit) := by
  decide +kernel

end Linting.Tool.Ended
