import Linting.Proofs.Json.Written
import Linting.Proofs.Number.Exact
import Linting.Proofs.Value.Fields
import Mathlib.Algebra.Order.Ring.Nat

/-! Coordinates in loose values: which values count as a natural number, and sequences of two. -/

namespace Linting
set_option autoImplicit false

/-! ## Numerals -/

namespace Number

/-- The decimal digits of a number are read as it, unless they are too many. -/
theorem readWhole_toString {n : Nat} (h : (Nat.digits 10 n).length ≤ Text.digitLimit) :
    readWhole (toString n).toList = .ok n := by
  have hdigits : (toString n).toList = Nat.toDigits 10 n := Nat.toList_repr
  have hwhole := Json.isWhole_toDigits n
  have hplain : (Nat.toDigits 10 n).all isPlainDigit = true :=
    List.all_eq_true.mpr fun c hc => hwhole.digit c hc
  have hlength : (Nat.toDigits 10 n).length ≤ Text.digitLimit := by
    rw [Nat.digits_length_le_iff (by decide)] at h
    exact Nat.toDigits_length 10 n _ (by decide) h
  have hvalue : plainValue (Nat.toDigits 10 n) = n :=
    Nat.ofDigitChars_toDigits (by decide) (by decide)
  have hread : readDigits (Nat.toDigits 10 n) = .ok n := by
    unfold readDigits
    split
    · next heq => exact absurd heq hwhole.nonempty
    · next heq =>
      rw [heq] at hvalue
      exact congrArg _ hvalue
    · next rest hlone heq =>
      have hlead := hwhole.lead (by rw [heq]; rfl)
      rw [heq] at hlead
      exact absurd hlead (by simpa using hlone)
    · rw [hplain, hvalue]
      simp only [Bool.not_true, Bool.false_eq_true, if_false, if_neg (Nat.not_lt.mpr hlength)]
  have hsigned : readPlain (Nat.toDigits 10 n) = .ok n := by
    unfold readPlain
    split
    · next digits heq =>
      have hminus := hwhole.digit '-' (by simp [heq])
      cases hminus
    · rw [hread]
      rfl
  rw [hdigits, readWhole, hsigned]

end Number

namespace Value

variable {v : Value} {n : Nat}

/-! ## Floating-point numbers -/

theorem div_eq_natCast_iff {units one : Nat} (hone : 0 < one) :
    (units / one : ℚ) = n ↔ units % one = 0 ∧ units / one = n := by
  rw [div_eq_iff (Nat.cast_ne_zero.mpr hone.ne'), ← Nat.cast_mul, Nat.cast_inj]
  constructor
  · rintro rfl
    exact ⟨Nat.mul_mod_left n one, Nat.mul_div_cancel n hone⟩
  · rintro ⟨hwhole, rfl⟩
    exact (Nat.div_mul_cancel (Nat.dvd_of_mod_eq_zero hwhole)).symm

theorem neg_magnitude_eq_natCast_iff {units : Nat} :
    -(units / Number.Binary64.unitsPerOne : ℚ) = n ↔ units = 0 ∧ n = 0 := by
  constructor
  · intro h
    have hnonneg : (0 : ℚ) ≤ -(units / Number.Binary64.unitsPerOne) := by
      rw [h]
      exact n.cast_nonneg
    have hunits : units = 0 := Number.nonneg_neg_magnitude_iff.mp hnonneg
    rw [hunits, Nat.cast_zero, zero_div, neg_zero] at h
    exact ⟨hunits, Nat.cast_eq_zero.mp h.symm⟩
  · rintro ⟨rfl, rfl⟩
    rw [Nat.cast_zero, zero_div, neg_zero]

theorem readFloat_eq_ok_iff {x : Number.Binary64} {m : Int} : readFloat x = .ok m ↔
    x.isFinite = true ∧ x.isWhole = true ∧ x.wholePart < wholeLimit ∧ x.truncate = m := by
  unfold readFloat
  rw [← Nat.not_le]
  by_cases hlimit : wholeLimit ≤ x.wholePart
  · cases x.isFinite <;> cases x.isWhole <;> simp [hlimit]
  · cases x.isFinite <;> cases x.isWhole <;> simp [hlimit]

/-- A floating-point number is read as a natural number if it is one and below the limit. -/
theorem readFloat_eq_natCast_iff {x : Number.Binary64} :
    readFloat x = .ok (n : Int) ↔ x.exact? = some (n : ℚ) ∧ n < wholeLimit := by
  cases x with
  | nan => exact iff_of_false nofun nofun
  | infinite negative => exact iff_of_false nofun nofun
  | finite negative units =>
    have hone : 0 < Number.Binary64.unitsPerOne := Nat.cast_pos.mp Number.unitsPerOne_pos
    have hwhole : (Number.Binary64.finite negative units).isWhole = true ↔
        units % Number.Binary64.unitsPerOne = 0 := decide_eq_true_iff
    have hpart : (Number.Binary64.finite negative units).wholePart =
        units / Number.Binary64.unitsPerOne := rfl
    rw [readFloat_eq_ok_iff, hwhole, hpart]
    cases negative with
    | false =>
      have hexact : Number.Binary64.exact? (.finite false units) = some (n : ℚ) ↔
          units % Number.Binary64.unitsPerOne = 0 ∧ units / Number.Binary64.unitsPerOne = n := by
        rw [Number.exact_finite, if_neg Bool.false_ne_true, Option.some.injEq,
          div_eq_natCast_iff hone]
      have htruncate : (Number.Binary64.finite false units).truncate = (n : Int) ↔
          units / Number.Binary64.unitsPerOne = n := Nat.cast_inj
      rw [hexact, htruncate]
      constructor
      · rintro ⟨-, hmod, hsmall, rfl⟩
        exact ⟨⟨hmod, rfl⟩, hsmall⟩
      · rintro ⟨⟨hmod, rfl⟩, hsmall⟩
        exact ⟨rfl, hmod, hsmall, rfl⟩
    | true =>
      have hexact : Number.Binary64.exact? (.finite true units) = some (n : ℚ) ↔
          units = 0 ∧ n = 0 := by
        rw [Number.exact_finite, if_pos rfl, Option.some.injEq, neg_magnitude_eq_natCast_iff]
      have htruncate : (Number.Binary64.finite true units).truncate = (n : Int) ↔
          units / Number.Binary64.unitsPerOne = 0 ∧ n = 0 := by
        rw [Number.Binary64.truncate]
        omega
      rw [hexact, htruncate]
      constructor
      · rintro ⟨-, hmod, -, hzero, rfl⟩
        rw [← Nat.div_add_mod units Number.Binary64.unitsPerOne, hzero, hmod, Nat.mul_zero]
        exact ⟨⟨rfl, rfl⟩, by decide⟩
      · rintro ⟨⟨rfl, rfl⟩, hsmall⟩
        rw [Nat.zero_mod, Nat.zero_div]
        exact ⟨rfl, rfl, hsmall, rfl, rfl⟩

/-! ## Coordinates -/

/-- What counts as a coordinate: a natural number, a truth value, a floating-point number that is a
natural number and not too large, and a text or its bytes if a natural number is read of it. -/
inductive ReadsCoordinate : Value → Nat → Prop where
  | int (n : Nat) : ReadsCoordinate (.int n) n
  | bool (b : Bool) : ReadsCoordinate (.bool b) b.toNat
  | float {x : Number.Binary64} {n : Nat} (exact : x.exact? = some (n : ℚ))
    (small : n < wholeLimit) : ReadsCoordinate (.float x) n
  | text {s : String} {n : Nat} (numeral : Number.readWhole s.toList = .ok (n : Int)) :
    ReadsCoordinate (.text s) n
  | bytes {bs : List UInt8} {s : String} {n : Nat} (decoded : Text.decode? bs = some s)
    (numeral : Number.readWhole s.toList = .ok (n : Int)) : ReadsCoordinate (.bytes bs) n

theorem readsCoordinate_toString (h : (Nat.digits 10 n).length ≤ Text.digitLimit) :
    ReadsCoordinate (.text (toString n)) n :=
  .text (Number.readWhole_toString h)

theorem ofWhole_eq_ok_iff {x : Except Number.WholeError Int} {m : Int} :
    ofWhole x = .ok m ↔ x = .ok m := by
  cases x with
  | ok k => rw [ofWhole, Except.ok.injEq, Except.ok.injEq]
  | error e => cases e <;> exact iff_of_false nofun nofun

theorem readInteger_eq_natCast_iff : v.readInteger = .ok (n : Int) ↔ ReadsCoordinate v n := by
  cases v with
  | int m =>
    constructor
    · intro h
      obtain rfl := Except.ok.inj h
      exact .int n
    · rintro ⟨⟩
      rfl
  | bool b =>
    constructor
    · intro h
      have hn : b.toNat = n := by
        have hb := Except.ok.inj h
        cases b <;> exact Int.ofNat_inj.mp hb
      exact hn ▸ .bool b
    · rintro ⟨⟩
      cases b <;> rfl
  | float x =>
    rw [readInteger, readFloat_eq_natCast_iff]
    constructor
    · rintro ⟨hexact, hsmall⟩
      exact .float hexact hsmall
    · rintro ⟨⟩
      constructor <;> assumption
  | text s =>
    rw [readInteger, ofWhole_eq_ok_iff]
    constructor
    · exact .text
    · rintro ⟨⟩
      assumption
  | bytes bs =>
    rw [readInteger]
    cases hdecode : Text.decode? bs with
    | none =>
      refine iff_of_false nofun ?_
      rintro (_ | _ | _ | _ | ⟨hsome, -⟩)
      cases hdecode.symm.trans hsome
    | some s =>
      dsimp only
      rw [ofWhole_eq_ok_iff]
      constructor
      · exact .bytes hdecode
      · rintro (_ | _ | _ | _ | ⟨hsome, hnumeral⟩)
        obtain rfl := Option.some.inj (hdecode.symm.trans hsome)
        exact hnumeral
  | _ => exact iff_of_false nofun nofun

theorem readCoordinate_eq_ok_iff : v.readCoordinate = .ok n ↔ ReadsCoordinate v n := by
  rw [← readInteger_eq_natCast_iff]
  unfold readCoordinate
  split
  · next m hm =>
    rw [hm]
    simp
  · next m hm =>
    rw [hm]
    exact iff_of_false nofun nofun
  · next kind hkind =>
    rw [hkind]
    exact iff_of_false nofun nofun

/-! ## Sequences of two -/

section
variable {α : Type} {reads : Value → α → Prop} {read : Value → Except (List Fault) α} {a b : α}

/-- A list or a tuple of two items. -/
inductive Pair (reads : Value → α → Prop) : Value → α → α → Prop where
  | list {v w : Value} {a b : α} (first : reads v a) (second : reads w b) :
    Pair reads (.list [v, w]) a b
  | tuple {v w : Value} {a b : α} (first : reads v a) (second : reads w b) :
    Pair reads (.tuple [v, w]) a b

theorem pair_iff : Pair reads v a b ↔
    ∃ first second, v.items? = some [first, second] ∧ reads first a ∧ reads second b := by
  constructor
  · rintro (⟨hfirst, hsecond⟩ | ⟨hfirst, hsecond⟩)
    · exact ⟨_, _, rfl, hfirst, hsecond⟩
    · exact ⟨_, _, rfl, hfirst, hsecond⟩
  · rintro ⟨first, second, hitems, hfirst, hsecond⟩
    cases v with
    | list items =>
      obtain rfl := Option.some.inj hitems
      exact .list hfirst hsecond
    | tuple items =>
      obtain rfl := Option.some.inj hitems
      exact .tuple hfirst hsecond
    | _ => cases hitems

theorem readPair_eq_ok_iff (hread : ∀ v a, read v = .ok a ↔ reads v a) :
    readPair read v = .ok (a, b) ↔ Pair reads v a b := by
  rw [pair_iff]
  unfold readPair
  cases v.items? with
  | none => simp [refuse]
  | some items =>
    dsimp only
    match items with
    | [] => simp [both_eq_ok_iff, under, mapError_eq_ok_iff, refuse]
    | [first] => simp [both_eq_ok_iff, under, mapError_eq_ok_iff, refuse]
    | [first, second] => simp [both_eq_ok_iff, under, mapError_eq_ok_iff, hread]
    | first :: second :: third :: rest => simp [refuse]

end

end Value

end Linting
