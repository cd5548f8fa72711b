import Mathlib.Algebra.Order.Field.Rat
import Mathlib.Algebra.Order.Field.Basic
import Mathlib.Data.Nat.Digits.Lemmas
import Linting.Number.Binary64
import Linting.Text.Integer

/-! The rational numbers that floating-point numbers are, and which of these are at or above
zero. Of a whole number, whether it may be written is a matter of how many digits it has. -/

namespace Linting
set_option autoImplicit false

theorem Text.isWritable_iff {n : Int} :
    isWritable n = true ↔ (Nat.digits 10 n.natAbs).length ≤ digitLimit := by
  rw [isWritable, decide_eq_true_iff, Nat.pow_eq, Nat.digits_length_le_iff (by decide)]

theorem Text.isWritable_natCast_iff {n : Nat} :
    isWritable n = true ↔ (Nat.digits 10 n).length ≤ digitLimit := by
  rw [isWritable_iff, Int.natAbs_natCast]

theorem Text.written?_natCast_eq_some_iff {n : Nat} {text : String} :
    written? n = some text ↔ (Nat.digits 10 n).length ≤ digitLimit ∧ text = toString n := by
  rw [written?, Option.ite_none_right_eq_some, isWritable_natCast_iff, Option.some.injEq]
  exact and_congr_right fun _ => eq_comm

theorem Text.written?_of_length {n : Nat} (h : (toString n).length ≤ digitLimit) :
    written? n = some (toString n) := by
  rw [Nat.toString_eq_repr, Nat.length_repr_le_iff (by decide)] at h
  exact written?_natCast_eq_some_iff.mpr ⟨(Nat.digits_length_le_iff (by decide) n).mpr h, rfl⟩

namespace Number

/-- The rational number that a floating-point number is, if it is finite. -/
def Binary64.exact? : Binary64 → Option ℚ
  | .finite negative units =>
    let magnitude : ℚ := units / unitsPerOne
    some (if negative then -magnitude else magnitude)
  | _ => none

theorem unitsPerOne_pos : (0 : ℚ) < Binary64.unitsPerOne := Nat.cast_pos.mpr (by decide +kernel)

theorem exact_finite (negative : Bool) (units : Nat) :
    Binary64.exact? (.finite negative units) =
      some (if negative then -(units / Binary64.unitsPerOne : ℚ)
        else units / Binary64.unitsPerOne) := rfl

theorem exact_whole (n : Nat) :
    Binary64.exact? (.finite false (n * Binary64.unitsPerOne)) = some (n : ℚ) := by
  rw [exact_finite, if_neg Bool.false_ne_true, Nat.cast_mul,
    mul_div_cancel_right₀ _ unitsPerOne_pos.ne']

/-- A magnitude below zero is none of a zero. -/
theorem nonneg_neg_magnitude_iff {units : Nat} :
    (0 : ℚ) ≤ -(units / Binary64.unitsPerOne) ↔ units = 0 := by
  have hnonneg : (0 : ℚ) ≤ units / Binary64.unitsPerOne :=
    div_nonneg units.cast_nonneg unitsPerOne_pos.le
  rw [neg_nonneg]
  constructor
  · intro h
    rcases div_eq_zero_iff.mp (le_antisymm h hnonneg) with h | h
    · exact Nat.cast_eq_zero.mp h
    · exact absurd h unitsPerOne_pos.ne'
  · rintro rfl
    rw [Nat.cast_zero, zero_div]

/-- A number at or above zero: a finite one, with zero of either sign, or infinity. -/
def Binary64.AtLeastZero (x : Binary64) : Prop :=
  x = .infinite false ∨ ∃ q, x.exact? = some q ∧ 0 ≤ q

theorem atLeastZero_finite_iff {negative : Bool} {units : Nat} :
    (Binary64.finite negative units).AtLeastZero ↔ (negative = true → units = 0) := by
  have hnonneg : (0 : ℚ) ≤ units / Binary64.unitsPerOne :=
    div_nonneg units.cast_nonneg unitsPerOne_pos.le
  cases negative with
  | false => exact iff_of_true (.inr ⟨_, rfl, hnonneg⟩) nofun
  | true =>
    rw [← nonneg_neg_magnitude_iff, forall_prop_of_true rfl]
    constructor
    · rintro (h | ⟨q, hq, h⟩)
      · cases h
      · obtain rfl := Option.some.inj hq
        exact h
    · exact fun h => .inr ⟨_, rfl, h⟩

theorem isNonnegative_iff {x : Binary64} : x.isNonnegative = true ↔ x.AtLeastZero := by
  cases x with
  | nan =>
    refine iff_of_false nofun ?_
    rintro (h | ⟨q, hq, -⟩)
    · cases h
    · cases hq
  | infinite negative =>
    cases negative with
    | false => exact iff_of_true rfl (.inl rfl)
    | true =>
      refine iff_of_false nofun ?_
      rintro (h | ⟨q, hq, -⟩)
      · cases h
      · cases hq
  | finite negative units =>
    rw [atLeastZero_finite_iff]
    cases negative <;> simp [Binary64.isNonnegative]

end Number

end Linting
