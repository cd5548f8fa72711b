import Mathlib.Data.List.TakeWhile

/-! Stretches at the front of a list, and what they are cut off from. -/

namespace Linting
set_option autoImplicit false

variable {α : Type} {p : α → Bool} {w rest ts : List α} {t : α}

theorem takeWhile_stretch (hw : ∀ t ∈ w, p t = true)
    (hend : ∀ t, rest.head? = some t → p t = false) :
    (w ++ rest).takeWhile p = w ∧ (w ++ rest).dropWhile p = rest := by
  rw [List.takeWhile_append_of_pos hw, List.dropWhile_append_of_pos hw]
  cases rest with
  | nil => exact ⟨by simp, rfl⟩
  | cons t rest =>
    have ht : ¬ p t = true := by simp [hend t rfl]
    rw [List.takeWhile_cons_of_neg ht, List.dropWhile_cons_of_neg ht, List.append_nil]
    exact ⟨rfl, rfl⟩

/-- A stretch without an element and with the element, if any, behind it. -/
theorem takeWhile_ne_stretch [BEq α] [LawfulBEq α] {stop : α} (hw : stop ∉ w)
    (hend : ∀ t, rest.head? = some t → t = stop) :
    (w ++ rest).takeWhile (· != stop) = w ∧ (w ++ rest).dropWhile (· != stop) = rest := by
  refine takeWhile_stretch ?_ ?_
  · intro t ht
    rw [bne_iff_ne]
    rintro rfl
    exact hw ht
  · intro t ht
    rw [hend t ht]
    exact bne_self_eq_false stop

theorem head?_dropWhile (h : (ts.dropWhile p).head? = some t) : p t = false := by
  have hnot := List.head?_dropWhile_not p ts
  rw [h] at hnot
  simpa using hnot

theorem head?_takeWhile (h : (ts.takeWhile p).head? = some t) :
    ts.head? = some t ∧ p t = true := by
  cases ts with
  | nil => cases h
  | cons u ts =>
    cases hu : p u with
    | false =>
      rw [List.takeWhile_cons_of_neg (by simp [hu])] at h
      cases h
    | true =>
      rw [List.takeWhile_cons_of_pos hu] at h
      obtain rfl : u = t := by simpa using h
      exact ⟨rfl, hu⟩

end Linting
