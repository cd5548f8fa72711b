import Mathlib.Data.List.Basic

/-! Association lists: what is looked up after entries are taken out, or one is put in front of
those of other keys. -/

namespace Linting
set_option autoImplicit false

variable {α β : Type} [BEq α] [LawfulBEq α]

theorem lookup_filter (stays : α → Bool) (key : α) (entries : List (α × β)) :
    (entries.filter fun entry => stays entry.1).lookup key =
      if stays key then entries.lookup key else none := by
  induction entries with
  | nil => simp
  | cons entry rest ih =>
    obtain ⟨k, v⟩ := entry
    rw [List.filter_cons, List.lookup_cons]
    cases hkey : key == k with
    | true =>
      obtain rfl := eq_of_beq hkey
      cases hstays : stays key with
      | true => simp
      | false => rw [if_neg Bool.false_ne_true, ih, hstays]; rfl
    | false =>
      cases hstays : stays k with
      | true => rw [if_pos rfl, List.lookup_cons, hkey, ih]
      | false => rw [if_neg Bool.false_ne_true, ih]

/-- An entry takes the place of all of its key. -/
theorem lookup_put [DecidableEq α] (key other : α) (v : β) (entries : List (α × β)) :
    ((key, v) :: entries.filter (·.1 ≠ key)).lookup other =
      if other = key then some v else entries.lookup other := by
  rw [List.lookup_cons]
  cases hkey : other == key with
  | true => rw [if_pos (eq_of_beq hkey)]
  | false =>
    have hne : other ≠ key := fun h => Bool.false_ne_true (hkey.symm.trans (beq_iff_eq.mpr h))
    rw [if_neg hne, lookup_filter (fun k => decide (k ≠ key)), if_pos (decide_eq_true hne)]

end Linting
