import Mathlib.Data.Int.Order.Basic
import Linting.Console
import Linting.Proofs.Diagnostic.Numeral
import Linting.Proofs.Number.Exact

/-! Coordinates of every kind of value. A whole number counts from zero as one less, and so does a
numeral; a numeral with too many digits, or with white space around it that numbers may not have, is
refused; all else counts as zero. So the number that a text spells is what the table shows. -/

namespace Linting.Coordinate
set_option autoImplicit false

/-! ## Numerals that are refused -/

/-- Whether a numeral has too many digits, or one of the separators U+001C to U+001F around it. -/
def Numeral.Refused (n : Numeral) : Prop :=
  Text.digitLimit < n.digits.length ∨
    ∃ c ∈ n.before ++ n.after, 0x1C ≤ c.toNat ∧ c.toNat ≤ 0x1F

theorem Numeral.isBlank_around (n : Numeral) {c : Char} (h : c ∈ n.before ++ n.after) :
    Unicode.isBlank c.toNat = true :=
  (List.mem_append.mp h).elim (n.before_blank c) (n.after_blank c)

theorem isNumberBlank_iff {c : Char} (h : Unicode.isBlank c.toNat = true) :
    Text.isNumberBlank c = true ↔ ¬ (0x1C ≤ c.toNat ∧ c.toNat ≤ 0x1F) := by
  rw [Text.isNumberBlank, h, Bool.true_and, Bool.not_eq_true', Bool.and_eq_false_iff,
    decide_eq_false_iff_not, decide_eq_false_iff_not, Decidable.not_and_iff_or_not]

theorem Numeral.not_refused_iff {n : Numeral} : ¬ n.Refused ↔ n.Admissible := by
  rw [Refused, not_or, Nat.not_lt, Admissible]
  apply and_congr_right
  intro hlength
  constructor
  · intro h c hc
    rw [isNumberBlank_iff (n.isBlank_around hc)]
    exact fun hseparator => h ⟨c, hc, hseparator⟩
  · rintro h ⟨c, hc, hseparator⟩
    exact (isNumberBlank_iff (n.isBlank_around hc)).mp (h c hc) hseparator

theorem Numeral.refused_iff {n : Numeral} : n.Refused ↔ ¬ n.Admissible := by
  rw [← not_refused_iff, not_not]

/-! ## Values -/

theorem toInt_fromZero (n : Int) : (fromZero (some n) : Int) = max 0 (n - 1) := by
  rw [fromZero, Int.toNat_eq_max, max_comm]

theorem normalize_other {raw : Value} (hint : ∀ n, raw ≠ .int n) (htext : ∀ s, raw ≠ .text s) :
    normalize raw = .ok 0 := by
  cases raw with
  | int n => exact absurd rfl (hint n)
  | text s => exact absurd rfl (htext s)
  | _ => rfl

theorem normalize_word {s : String} (h : ∀ n : Numeral, n.text ≠ s.toList) :
    normalize (.text s) = .ok 0 := by
  rcases readText_cases s with ⟨-, hread⟩ | ⟨n, hn, -⟩ | ⟨n, _, hn, -⟩
  · rw [normalize_text, hread]
    rfl
  · exact absurd hn (h n)
  · exact absurd hn (h n)

theorem normalize_numeral {s : String} {n : Numeral} (htext : n.text = s.toList)
    (h : ¬ n.Refused) : normalize (.text s) = .ok (fromZero (some n.value)) := by
  rw [normalize_text, readText_of_admissible htext (Numeral.not_refused_iff.mp h)]
  rfl

/-- A value is refused exactly if it is the text of a numeral that is. -/
theorem exists_normalize_error_iff {raw : Value} :
    (∃ e, normalize raw = .error e) ↔
      ∃ (s : String) (n : Numeral), raw = .text s ∧ n.text = s.toList ∧ n.Refused := by
  constructor
  · rintro ⟨e, he⟩
    cases raw with
    | text s =>
      have hcapture : normalize (Diagnostic.ofText (some s)) = .error e := he
      obtain ⟨s', n, hs, hn, hrefused, -⟩ := refused_of_normalize hcapture
      cases hs
      exact ⟨s, n, rfl, hn, Numeral.refused_iff.mpr hrefused⟩
    | _ => cases he
  · rintro ⟨s, n, rfl, hn, hrefused⟩
    rw [normalize_text]
    rcases readText_of_not_admissible hn (Numeral.refused_iff.mp hrefused) with h | h
    · exact ⟨_, by rw [h]; rfl⟩
    · exact ⟨_, by rw [h]; rfl⟩

/-! ## Numbers spelled out -/

/-- Whether a text spells a number: its digits, perhaps behind zeros, with white space around that
numbers may have, and not more digits than may be read. -/
def Spells (s : String) (number : Nat) : Prop :=
  ∃ (before after : List Char) (zeros : Nat),
    s.toList = before ++ (List.replicate zeros '0' ++ (toString number).toList ++ after) ∧
    zeros + (toString number).length ≤ Text.digitLimit ∧
    ∀ c ∈ before ++ after, Text.isNumberBlank c = true

theorem isDigit_of_mem_toString {number : Nat} {c : Char} (h : c ∈ (toString number).toList) :
    isDigit c = true := by
  rw [Nat.toString_eq_repr, Nat.toList_repr] at h
  have hdigit : c.isDigit = true := Nat.isDigit_of_mem_toDigits (by decide) (by decide) h
  rw [Char.isDigit, Bool.and_eq_true] at hdigit
  rw [isDigit, Bool.and_eq_true]
  exact hdigit

theorem ofDigits_spelled (zeros number : Nat) :
    Text.ofDigits ((List.replicate zeros '0' ++ (toString number).toList).map
      fun c => c.toNat - 0x30) = number := by
  have hfold : ∀ digits : List Char,
      Text.ofDigits (digits.map fun c => c.toNat - 0x30) = Nat.ofDigitChars 10 digits 0 :=
    fun digits => List.foldl_map
  rw [hfold, Nat.ofDigitChars_append, Nat.ofDigitChars_replicate_zero, Nat.mul_zero,
    Nat.toString_eq_repr, Nat.toList_repr, Nat.ofDigitChars_ten_toDigits]

/-- A text that spells a number is a numeral of that value. -/
theorem Spells.exists_numeral {s : String} {number : Nat} (h : Spells s number) :
    ∃ n : Numeral, n.text = s.toList ∧ ¬ n.Refused ∧ n.value = number := by
  obtain ⟨before, after, zeros, hs, hlength, hblank⟩ := h
  have hisBlank : ∀ c ∈ before ++ after, Unicode.isBlank c.toNat = true := by
    intro c hc
    exact (Bool.and_eq_true .. |>.mp (hblank c hc)).1
  let n : Numeral :=
    { before, sign := .none, digits := List.replicate zeros '0' ++ (toString number).toList, after
      before_blank := fun c hc => hisBlank c (List.mem_append_left _ hc)
      digits_ne_nil := by simp [Nat.toString_eq_repr, Nat.toList_repr, Nat.toDigits_ne_nil]
      digits_decimal := by
        intro c hc
        rcases List.mem_append.mp hc with hc | hc
        · rw [List.eq_of_mem_replicate hc]
          rfl
        · exact isDigit_of_mem_toString hc
      after_blank := fun c hc => hisBlank c (List.mem_append_right _ hc) }
  refine ⟨n, hs.symm, Numeral.not_refused_iff.mpr ⟨?_, hblank⟩, ?_⟩
  · rw [List.length_append, List.length_replicate, String.length_toList]
    exact hlength
  · change ((n.magnitude : Nat) : Int) = number
    rw [← ofDigits_eq_magnitude, ofDigits_spelled]

theorem Spells.written? {s : String} {number : Nat} (h : Spells s number) :
    Text.written? number = some (toString number) := by
  obtain ⟨-, -, zeros, -, hlength, -⟩ := h
  exact Text.written?_of_length ((Nat.le_add_left ..).trans hlength)

theorem normalize_spelled {s : String} {number : Nat} (h : Spells s number)
    (hpositive : 1 ≤ number) : ∃ k, normalize (.text s) = .ok k ∧ k + 1 = number := by
  obtain ⟨n, hn, hadmitted, hvalue⟩ := h.exists_numeral
  refine ⟨_, normalize_numeral hn hadmitted, ?_⟩
  rw [hvalue, fromZero]
  omega

/-- Coordinates are converted exactly. A whole number and the value of a numeral lose one, where
they are positive, and count as zero otherwise; every other value counts as zero. Only numerals with
too many digits or with separators around them are refused. The line and the column that two texts
spell are the ones that the table shows. -/
theorem normalize_exact :
    (∀ raw : Value, (∀ n, raw ≠ .int n) → (∀ s, raw ≠ .text s) → normalize raw = .ok 0) ∧
    (∀ n : Int, ∃ k : Nat, normalize (.int n) = .ok k ∧ (k : Int) = max 0 (n - 1)) ∧
    (∀ s : String, (∀ n : Numeral, n.text ≠ s.toList) → normalize (.text s) = .ok 0) ∧
    (∀ (s : String) (n : Numeral), n.text = s.toList → ¬ n.Refused →
      ∃ k : Nat, normalize (.text s) = .ok k ∧ (k : Int) = max 0 (n.value - 1)) ∧
    (∀ raw : Value, (∃ e, normalize raw = .error e) ↔
      ∃ (s : String) (n : Numeral), raw = .text s ∧ n.text = s.toList ∧ n.Refused) ∧
    ∀ (lineText columnText : String) (line column : Nat), 1 ≤ line → 1 ≤ column →
      Spells lineText line → Spells columnText column →
      ∃ place : Point, normalize (.text lineText) = .ok place.line ∧
        normalize (.text columnText) = .ok place.column ∧
        place.line + 1 = line ∧ place.column + 1 = column ∧
        ∀ d : Diagnostic, d.start = place → Console.location d =
          some ((if (d.filePath.getD "").isEmpty then "-" else d.filePath.getD "") ++ ":"
            ++ toString line ++ ":" ++ toString column) := by
  refine ⟨fun raw => normalize_other, fun n => ⟨_, rfl, toInt_fromZero n⟩,
    fun s => normalize_word, fun s n hn hadmitted => ?_, fun raw => exists_normalize_error_iff, ?_⟩
  · exact ⟨_, normalize_numeral hn hadmitted, toInt_fromZero n.value⟩
  · intro lineText columnText line column hline hcolumn hlineText hcolumnText
    obtain ⟨k, hk, rfl⟩ := normalize_spelled hlineText hline
    obtain ⟨j, hj, rfl⟩ := normalize_spelled hcolumnText hcolumn
    refine ⟨⟨k, j⟩, hk, hj, rfl, rfl, fun d hd => ?_⟩
    rw [Console.location, hd, hlineText.written?, hcolumnText.written?]
    rfl

/-- A line with zeros in front and white space around, and a column with neither. -/
theorem normalize_exact_padded :
    ∃ place : Point, 1 ≤ 7 ∧ 1 ≤ 12 ∧ Spells "\t007 " 7 ∧ Spells "12" 12 ∧
      normalize (.text "\t007 ") = .ok place.line ∧ normalize (.text "12") = .ok place.column ∧
      Console.location { range := ⟨place, .zero⟩ } = some "-:7:12" := by
  have hline : Spells "\t007 " 7 :=
    ⟨['\t'], [' '], 2, by decide +kernel, by decide +kernel, List.all_eq_true.mp (by decide)⟩
  have hcolumn : Spells "12" 12 :=
    ⟨[], [], 0, by decide +kernel, by decide +kernel, List.all_eq_true.mp rfl⟩
  obtain ⟨place, hk, hj, -, -, hlocation⟩ :=
    normalize_exact.2.2.2.2.2 "\t007 " "12" 7 12 (by decide) (by decide) hline hcolumn
  refine ⟨place, by decide, by decide, hline, hcolumn, hk, hj, ?_⟩
  rw [hlocation _ rfl]
  rfl

end Linting.Coordinate
