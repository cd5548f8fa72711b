import Mathlib.Data.Nat.Digits.Lemmas
import Linting.Coordinate
import Linting.Diagnostic
import Linting.Proofs.Text.Trim

/-! Whole numbers as tools write them, and what a capture counts as. A capture that is no number
counts as zero; one that is a number is read unless it has too many digits or white space around it
that numbers may not have. Main facts: a text is read as a number exactly if it is a numeral, and
what it then counts as. -/

namespace Linting.Coordinate
set_option autoImplicit false

/-! ## Numerals -/

inductive Sign where
  | none
  | plus
  | minus
deriving DecidableEq

def Sign.text : Sign → List Char
  | none => []
  | plus => ['+']
  | minus => ['-']

/-- A whole number in a text: decimal digits, perhaps with a sign, and white space around. -/
structure Numeral where
  before : List Char
  sign : Sign
  digits : List Char
  after : List Char
  before_blank : ∀ c ∈ before, Unicode.isBlank c.toNat = true
  digits_ne_nil : digits ≠ []
  digits_decimal : ∀ c ∈ digits, isDigit c = true
  after_blank : ∀ c ∈ after, Unicode.isBlank c.toNat = true

namespace Numeral

def body (n : Numeral) : List Char := n.sign.text ++ n.digits

def text (n : Numeral) : List Char := n.before ++ (n.body ++ n.after)

/-- The number of the digits, the last of which counts ones. -/
def magnitude (n : Numeral) : Nat :=
  Nat.ofDigits 10 (n.digits.reverse.map fun c => c.toNat - '0'.toNat)

def value (n : Numeral) : Int := if n.sign = .minus then -n.magnitude else n.magnitude

/-- Whether a numeral may be read: its digits are not too many, and the white space around it is of
the kind that numbers may have. -/
def Admissible (n : Numeral) : Prop :=
  n.digits.length ≤ Text.digitLimit ∧ ∀ c ∈ n.before ++ n.after, Text.isNumberBlank c = true

end Numeral

/-! ## Where a numeral stands in its text -/

theorem not_isBlank_of_isDigit {c : Char} (h : isDigit c = true) :
    Unicode.isBlank c.toNat = false := by
  rw [isDigit, Bool.and_eq_true, decide_eq_true_eq, decide_eq_true_eq] at h
  have hlo : 0x30 ≤ c.toNat := h.1
  have hhi : c.toNat ≤ 0x39 := h.2
  simp only [Unicode.isBlank, Unicode.blankRanges, Unicode.covers, Bool.and_eq_false_iff,
    Bool.or_eq_false_iff, decide_eq_false_iff_not]
  omega

theorem not_isBlank_of_mem_sign {sign : Sign} {c : Char} (h : c ∈ sign.text) :
    Unicode.isBlank c.toNat = false := by
  cases sign with
  | none => cases h
  | plus =>
    obtain rfl := List.mem_singleton.mp h
    decide
  | minus =>
    obtain rfl := List.mem_singleton.mp h
    decide

namespace Numeral

variable (n : Numeral)

theorem not_isBlank_of_mem_body {c : Char} (h : c ∈ n.body) : Unicode.isBlank c.toNat = false :=
  (List.mem_append.mp h).elim not_isBlank_of_mem_sign
    fun hc => not_isBlank_of_isDigit (n.digits_decimal c hc)

theorem body_ne_nil : n.body ≠ [] := by
  intro h
  exact n.digits_ne_nil (List.append_eq_nil_iff.mp h).2

/-- White space is found in front of the body and nowhere in it. -/
theorem text_takeWhile : (n.text.takeWhile fun c => Unicode.isBlank c.toNat) = n.before :=
  Unicode.takeWhile_blank_append n.before_blank n.body_ne_nil
    (fun _ => n.not_isBlank_of_mem_body) n.after

/-- So it is from the other end. -/
theorem reverse_text_takeWhile :
    (n.text.reverse.takeWhile fun c => Unicode.isBlank c.toNat) = n.after.reverse := by
  rw [text, List.reverse_append, List.reverse_append, List.append_assoc]
  refine Unicode.takeWhile_blank_append ?_ ?_ ?_ _
  · exact fun c hc => n.after_blank c (List.mem_reverse.mp hc)
  · exact fun h => n.body_ne_nil (List.reverse_eq_nil_iff.mp h)
  · exact fun c hc => n.not_isBlank_of_mem_body (List.mem_reverse.mp hc)

theorem trim_text : Unicode.trim n.text = n.body :=
  (Unicode.trim_append n.before_blank n.after_blank).trans
    (Unicode.trim_eq_self fun _ => n.not_isBlank_of_mem_body)

theorem splitSign_body : Text.splitSign n.body = (decide (n.sign = .minus), n.digits) := by
  have hdigits := n.digits_decimal
  obtain ⟨c, cs, hcs⟩ := List.exists_cons_of_ne_nil n.digits_ne_nil
  rw [body, hcs]
  rw [hcs] at hdigits
  have hc := hdigits c (List.mem_cons_self ..)
  cases n.sign with
  | plus => rfl
  | minus => rfl
  | none =>
    change Text.splitSign (c :: cs) = (false, c :: cs)
    unfold Text.splitSign
    split
    · next heq =>
      cases heq
      exact absurd hc (by decide)
    · next heq =>
      cases heq
      exact absurd hc (by decide)
    · rfl

end Numeral

/-! ## Reading numerals -/

theorem numeral?_text (n : Numeral) :
    numeral? n.text = some (decide (n.sign = .minus), n.digits) := by
  have hall : n.digits.all isDigit = true := List.all_eq_true.mpr n.digits_decimal
  have hne : n.digits.isEmpty = false := List.isEmpty_eq_false_iff.mpr n.digits_ne_nil
  unfold numeral?
  rw [n.trim_text, n.splitSign_body]
  simp only [hall, hne, Bool.not_false, Bool.and_self, if_true]

/-- The sign that a text begins with, and what comes behind it. -/
theorem exists_sign (body : List Char) :
    ∃ sign : Sign, body = sign.text ++ (Text.splitSign body).2 := by
  unfold Text.splitSign
  split
  · exact ⟨.minus, rfl⟩
  · exact ⟨.plus, rfl⟩
  · exact ⟨.none, rfl⟩

/-- Only numerals look like numbers. -/
theorem exists_of_numeral? {raw digits : List Char} {negative : Bool}
    (h : numeral? raw = some (negative, digits)) : ∃ n : Numeral, n.text = raw := by
  obtain ⟨before, after, hraw, hbefore, hafter⟩ := Unicode.exists_eq_append_trim raw
  obtain ⟨sign, hsign⟩ := exists_sign (Unicode.trim raw)
  unfold numeral? at h
  dsimp only at h
  split at h
  · next hdigits =>
    rw [Bool.and_eq_true, Bool.not_eq_true', List.isEmpty_eq_false_iff] at hdigits
    obtain ⟨hne, hall⟩ := hdigits
    refine ⟨⟨before, sign, _, after, hbefore, hne, List.all_eq_true.mp hall, hafter⟩, ?_⟩
    change before ++ ((sign.text ++ (Text.splitSign (Unicode.trim raw)).2) ++ after) = raw
    rw [← hsign, ← hraw]
  · cases h

theorem ofDigits_eq_magnitude (n : Numeral) :
    Text.ofDigits (n.digits.map fun c => c.toNat - 0x30) = n.magnitude := by
  have hstep : ∀ a d : Nat, 10 * a + d = d + 10 * a := fun a d => Nat.add_comm ..
  rw [Text.ofDigits, Numeral.magnitude, Nat.ofDigits_eq_foldr, List.map_reverse,
    List.foldr_reverse]
  simp only [hstep]
  rfl

theorem value_eq (n : Numeral) : value (decide (n.sign = .minus)) n.digits = n.value := by
  rw [value, ofDigits_eq_magnitude, Numeral.value]
  simp only [decide_eq_true_eq]

/-- White space that numbers may not have stands in front of a text or nowhere. -/
theorem hasBadBlank_of_takeWhile {text blank : List Char}
    (h : (text.takeWhile fun c => Unicode.isBlank c.toNat) = blank) :
    hasBadBlank text = false ↔ ∀ c ∈ blank, Text.isNumberBlank c = true := by
  rw [hasBadBlank, h, List.any_eq_false]
  simp only [Bool.not_eq_true, Bool.not_eq_false']

/-- A numeral that may be read is read as its value. -/
theorem readText_of_admissible {raw : String} {n : Numeral} (htext : n.text = raw.toList)
    (h : n.Admissible) : readText raw = .ok (some n.value) := by
  obtain ⟨hlength, hblank⟩ := h
  have hfront : hasBadBlank n.text = false :=
    (hasBadBlank_of_takeWhile n.text_takeWhile).mpr fun c hc =>
      hblank c (List.mem_append_left _ hc)
  have hback : hasBadBlank n.text.reverse = false :=
    (hasBadBlank_of_takeWhile n.reverse_text_takeWhile).mpr fun c hc =>
      hblank c (List.mem_append_right _ (List.mem_reverse.mp hc))
  unfold readText
  rw [← htext, numeral?_text]
  simp only [hfront, hback, Bool.false_eq_true, if_false, if_neg (Nat.not_lt.mpr hlength), value_eq]

/-- A numeral that may not be read is told by its digits or by its text. -/
theorem readText_of_not_admissible {raw : String} {n : Numeral} (htext : n.text = raw.toList)
    (h : ¬ n.Admissible) : readText raw = .error (.unreadable raw) ∨
      readText raw = .error (.tooManyDigits n.digits.length) := by
  unfold readText
  rw [← htext, numeral?_text]
  simp only
  by_cases hfront : hasBadBlank n.text = true
  · exact .inl (by rw [if_pos hfront])
  rw [if_neg hfront]
  by_cases hmany : Text.digitLimit < n.digits.length
  · exact .inr (by rw [if_pos hmany])
  rw [if_neg hmany]
  by_cases hback : hasBadBlank n.text.reverse = true
  · exact .inl (by rw [if_pos hback])
  -- then nothing is wrong with it
  rw [Bool.not_eq_true, hasBadBlank_of_takeWhile n.text_takeWhile] at hfront
  rw [Bool.not_eq_true, hasBadBlank_of_takeWhile n.reverse_text_takeWhile] at hback
  refine absurd ⟨Nat.not_lt.mp hmany, fun c hc => ?_⟩ h
  rcases List.mem_append.mp hc with hc | hc
  · exact hfront c hc
  · exact hback c (List.mem_reverse.mpr hc)

/-- A text is no numeral, one that may be read, or one that may not. -/
theorem readText_cases (raw : String) :
    ((∀ n : Numeral, n.text ≠ raw.toList) ∧ readText raw = .ok none) ∨
    (∃ n : Numeral, n.text = raw.toList ∧ n.Admissible ∧ readText raw = .ok (some n.value)) ∨
    ∃ (n : Numeral) (e : CoordinateError), n.text = raw.toList ∧ ¬ n.Admissible ∧
      readText raw = .error e ∧ (e = .unreadable raw ∨ e = .tooManyDigits n.digits.length) := by
  by_cases hword : ∀ n : Numeral, n.text ≠ raw.toList
  · refine .inl ⟨hword, ?_⟩
    unfold readText
    cases hnumeral : numeral? raw.toList with
    | none => rfl
    | some p =>
      obtain ⟨n, hn⟩ := exists_of_numeral? hnumeral
      exact absurd hn (hword n)
  · obtain ⟨n, hn⟩ := Classical.not_forall.mp hword
    rw [Decidable.not_not] at hn
    by_cases hadmissible : n.Admissible
    · exact .inr (.inl ⟨n, hn, hadmissible, readText_of_admissible hn hadmissible⟩)
    · rcases readText_of_not_admissible hn hadmissible with herror | herror
      · exact .inr (.inr ⟨n, _, hn, hadmissible, herror, .inl rfl⟩)
      · exact .inr (.inr ⟨n, _, hn, hadmissible, herror, .inr rfl⟩)

/-! ## What captures count as -/

/-- Whether a capture may be read: if it is a numeral, it is one that may be. -/
def Readable (raw : String) : Prop := ∀ n : Numeral, n.text = raw.toList → n.Admissible

/-- What a capture counts as, from zero: nothing and what is no number count as zero, and a number
counts as one less, or as zero if it is not positive. -/
inductive Counts : Option String → Nat → Prop where
  | missing : Counts none 0
  | word {raw : String} (h : ∀ n : Numeral, n.text ≠ raw.toList) : Counts (some raw) 0
  | notPositive {raw : String} (n : Numeral) (htext : n.text = raw.toList) (h : n.value ≤ 0) :
    Counts (some raw) 0
  | positive {raw : String} {k : Nat} (n : Numeral) (htext : n.text = raw.toList)
    (h : n.value = k + 1) : Counts (some raw) k

theorem Counts.of_value {raw : String} {n : Numeral} (htext : n.text = raw.toList) :
    Counts (some raw) (fromZero (some n.value)) := by
  by_cases hvalue : n.value ≤ 0
  · have hzero : fromZero (some n.value) = 0 := by
      rw [fromZero]
      omega
    rw [hzero]
    exact .notPositive n htext hvalue
  · refine .positive n htext ?_
    rw [fromZero]
    omega

theorem normalize_text (s : String) : normalize (.text s) = (readText s).map fromZero := rfl

theorem normalize_some (s : String) :
    normalize (Diagnostic.ofText (some s)) = (readText s).map fromZero := normalize_text s

/-- A coordinate is what the capture counts as. -/
theorem counts_of_normalize {raw : Option String} {k : Nat}
    (h : normalize (Diagnostic.ofText raw) = .ok k) : Counts raw k := by
  cases raw with
  | none =>
    cases h
    exact .missing
  | some s =>
    rw [normalize_some] at h
    rcases readText_cases s with ⟨hword, hread⟩ | ⟨n, hn, -, hread⟩ | ⟨n, e, -, -, hread, -⟩
    · rw [hread] at h
      cases h
      exact .word hword
    · rw [hread] at h
      cases h
      exact .of_value hn
    · rw [hread] at h
      cases h

theorem Numeral.magnitude_lt (n : Numeral) : n.magnitude < 10 ^ n.digits.length := by
  have hdigits : ∀ d ∈ n.digits.reverse.map (fun c => c.toNat - '0'.toNat), d < 10 := by
    intro d hd
    obtain ⟨c, hc, rfl⟩ := List.mem_map.mp hd
    have hdecimal := n.digits_decimal c (List.mem_reverse.mp hc)
    rw [isDigit, Bool.and_eq_true, decide_eq_true_iff, decide_eq_true_iff] at hdecimal
    have hle : c.toNat ≤ '9'.toNat := hdecimal.2
    exact Nat.lt_of_le_of_lt (Nat.sub_le_sub_right hle _) (by decide)
  have hlt := Nat.ofDigits_lt_base_pow_length (by decide) hdigits
  rwa [List.length_map, List.length_reverse] at hlt

/-- A coordinate that was read has, even counted from one, no more digits than may be written. -/
theorem length_digits_of_normalize {raw : Option String} {k : Nat}
    (h : normalize (Diagnostic.ofText raw) = .ok k) :
    (Nat.digits 10 (k + 1)).length ≤ Text.digitLimit := by
  have hzero : (Nat.digits 10 1).length ≤ Text.digitLimit := by decide
  cases raw with
  | none =>
    cases h
    exact hzero
  | some s =>
    rw [normalize_some] at h
    rcases readText_cases s with ⟨-, hread⟩ | ⟨n, -, hadmissible, hread⟩ | ⟨n, e, -, -, hread, -⟩
    · rw [hread] at h
      cases h
      exact hzero
    · rw [hread] at h
      obtain rfl := Except.ok.inj h
      rw [Nat.digits_length_le_iff (by decide)]
      have hlt := n.magnitude_lt.trans_le (Nat.pow_le_pow_right (by decide) hadmissible.1)
      have hone := (Nat.digits_length_le_iff (by decide) 1).mp hzero
      have hvalue : n.value ≤ n.magnitude := by
        rw [Numeral.value]
        split <;> omega
      rw [fromZero]
      omega
    · rw [hread] at h
      cases h

/-- What keeps a capture from having a coordinate: it is a numeral that may not be read. -/
theorem refused_of_normalize {raw : Option String} {e : CoordinateError}
    (h : normalize (Diagnostic.ofText raw) = .error e) :
    ∃ (s : String) (n : Numeral), raw = some s ∧ n.text = s.toList ∧ ¬ n.Admissible ∧
      (e = .unreadable s ∨ e = .tooManyDigits n.digits.length) := by
  cases raw with
  | none => cases h
  | some s =>
    rw [normalize_some] at h
    rcases readText_cases s with ⟨-, hread⟩ | ⟨n, -, -, hread⟩ | ⟨n, e', hn, hrefused, hread, he⟩
    · rw [hread] at h
      cases h
    · rw [hread] at h
      cases h
    · rw [hread] at h
      cases h
      exact ⟨s, n, rfl, hn, hrefused, he⟩

theorem normalize_ok_iff {raw : Option String} :
    (∃ k, normalize (Diagnostic.ofText raw) = .ok k) ↔ ∀ s ∈ raw, Readable s := by
  constructor
  · rintro ⟨k, hk⟩ s hs n hn
    obtain rfl := Option.mem_def.mp hs
    by_contra hrefused
    rw [normalize_some] at hk
    rcases readText_of_not_admissible hn hrefused with herror | herror
    · rw [herror] at hk
      cases hk
    · rw [herror] at hk
      cases hk
  · intro h
    cases hread : normalize (Diagnostic.ofText raw) with
    | ok k => exact ⟨k, rfl⟩
    | error e =>
      obtain ⟨s, n, rfl, hn, hrefused, -⟩ := refused_of_normalize hread
      exact absurd (h s rfl n hn) hrefused

end Linting.Coordinate
