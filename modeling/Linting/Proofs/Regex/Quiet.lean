import Linting.Proofs.Regex.Local
import Linting.Regex.GroupHead

/-! Quiet characters: what digits, names, identifiers and numbers are made of opens and closes
nothing. -/

namespace Linting
set_option autoImplicit false

open Regex (QuietChar)

namespace Regex

/-- A class of characters is quiet if it holds none of the seven that are not. -/
theorem quiet_of_class {p : Char → Bool}
    (h : ['[', ']', '(', ')', '#', '\\', '?'].all (fun c => !p c) = true) (c : Char) (hc : p c) :
    QuietChar c := by
  have hne : ∀ d ∈ ['[', ']', '(', ')', '#', '\\', '?'], c ≠ d := by
    rintro d hd rfl
    have hd' := List.all_eq_true.mp h c hd
    rw [hc] at hd'
    cases hd'
  refine ⟨⟨?_, ?_, ?_, ?_, ?_⟩, hne _ (by decide), hne _ (by decide)⟩
  all_goals
    rintro heq
    exact hne _ (by decide) (Token.plain.inj heq)

theorem quiet_of_numeral {c : Char} (h : c ∈ ['_', '+', '-']) : QuietChar c :=
  quiet_of_class (p := fun c => ['_', '+', '-'].contains c) (by decide) c (by simpa using h)

theorem isHex_quiet (c : Char) (hc : isHex c) : QuietChar c := quiet_of_class (by decide) c hc

theorem isOctal_quiet (c : Char) (hc : isOctal c) : QuietChar c :=
  quiet_of_class (by decide) c hc

theorem isAsciiDigit_quiet (c : Char) (hc : isAsciiDigit c) : QuietChar c :=
  quiet_of_class (by decide) c hc

end Regex

/-! ## Names and identifiers -/

namespace Unicode

/-- Whatever the tables hold: a name with any other character in it names nothing. -/
theorem named?_quiet {name : String} {n : Nat} (h : named? name = some n) :
    ∀ c ∈ name.toList, QuietChar c := by
  intro c hc
  have hall : name.toList.all Name.isNameChar = true := by
    cases hb : name.toList.all Name.isNameChar with
    | true => rfl
    | false =>
      rw [named?, hb] at h
      cases h
  exact Regex.quiet_of_class (by decide) c (List.all_eq_true.mp hall c hc)

theorem isIdentifierContinue_of_mem {text : List Char} (h : isIdentifier text) :
    ∀ c ∈ text, isIdentifierContinue c.toNat := by
  cases text with
  | nil => cases h
  | cons d rest =>
    rw [isIdentifier, Bool.and_eq_true, List.all_eq_true] at h
    intro c hc
    rcases List.mem_cons.mp hc with rfl | hc
    · rw [isIdentifierContinue, ← isIdentifierStart, h.1]
      rfl
    · exact h.2 c hc

theorem isIdentifier_quiet {text : List Char} (h : isIdentifier text) :
    ∀ c ∈ text, QuietChar c := by
  intro c hc
  refine Regex.quiet_of_class (p := fun c => isIdentifierContinue c.toNat) (by decide) c ?_
  exact isIdentifierContinue_of_mem h c hc

end Unicode

/-! ## Numbers -/

namespace Text

theorem mem_trimNumber {text : List Char} {c : Char} (hc : c ∈ text) :
    isNumberBlank c ∨ c ∈ trimNumber text := by
  by_cases hb : isNumberBlank c = true
  · exact .inl hb
  · refine .inr ?_
    have hmem : ∀ {cs : List Char}, c ∈ cs → c ∈ cs.dropWhile isNumberBlank := by
      intro cs hcs
      rw [← List.takeWhile_append_dropWhile (p := isNumberBlank) (l := cs)] at hcs
      refine (List.mem_append.mp hcs).resolve_left ?_
      intro htake
      exact hb (List.all_eq_true.mp List.all_takeWhile c htake)
    rw [trimNumber, List.mem_reverse]
    exact hmem (List.mem_reverse.mpr (hmem hc))

theorem digitValue?_quiet (c : Char) (hc : (Unicode.digitValue? c.toNat).isSome) : QuietChar c :=
  Regex.quiet_of_class (p := fun c => (Unicode.digitValue? c.toNat).isSome) (by decide) c hc

theorem isNumberBlank_quiet (c : Char) (hc : isNumberBlank c) : QuietChar c :=
  Regex.quiet_of_class (by decide) c hc

theorem digitValues?_quiet {text : List Char} {ds : List Nat} (h : digitValues? text = some ds) :
    ∀ c ∈ text, QuietChar c := by
  fun_induction digitValues? text generalizing ds with
  | case1 => cases h
  | case2 d =>
    refine List.forall_mem_singleton.mpr (digitValue?_quiet d ?_)
    cases hd : Unicode.digitValue? d.toNat with
    | none =>
      rw [hd] at h
      cases h
    | some v => rfl
  | case3 d rest v vs hrest hd ih =>
    refine List.forall_mem_cons.mpr ⟨digitValue?_quiet d (by rw [hd]; rfl), ?_⟩
    exact List.forall_mem_cons.mpr ⟨Regex.quiet_of_numeral (by decide), ih hrest⟩
  | case4 => cases h
  | case5 d rest _ _ v vs hrest hd ih =>
    exact List.forall_mem_cons.mpr ⟨digitValue?_quiet d (by rw [hd]; rfl), ih hrest⟩
  | case6 => cases h

/-- Signs are quiet, so only what comes behind one matters. -/
theorem splitSign_quiet {text : List Char} (h : ∀ c ∈ (splitSign text).2, QuietChar c) :
    ∀ c ∈ text, QuietChar c := by
  unfold splitSign at h
  split at h
  · exact List.forall_mem_cons.mpr ⟨Regex.quiet_of_numeral (by decide), h⟩
  · exact List.forall_mem_cons.mpr ⟨Regex.quiet_of_numeral (by decide), h⟩
  · exact h

/-- All of a text that is read as a number is quiet, the white space around it included. -/
theorem readInteger?_quiet {text : List Char} {n : Int} (h : readInteger? text = some n) :
    ∀ c ∈ text, QuietChar c := by
  rw [readInteger?] at h
  obtain ⟨ds, hds⟩ : ∃ ds, digitValues? (splitSign (trimNumber text)).2 = some ds := by
    cases hd : digitValues? (splitSign (trimNumber text)).2 with
    | none =>
      simp only [hd] at h
      cases h
    | some ds => exact ⟨ds, rfl⟩
  intro c hc
  rcases mem_trimNumber hc with hb | ht
  · exact isNumberBlank_quiet c hb
  · exact splitSign_quiet (digitValues?_quiet hds) c ht

end Text

end Linting
