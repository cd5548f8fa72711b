import Linting.Proofs.Text.Trim
import Linting.Text.Boolean

/-! Which texts are read as truth values: the words for them in capitals or small letters, with
white space around. Lower case maps two more characters to ordinary letters, but none that stands in
one of these words. -/

namespace Linting
set_option autoImplicit false

/-! ## Lower case -/

namespace Unicode

/-- A code point has itself as its image, or one that a run gives. -/
theorem imageIn_cases (runs : List CaseRun) (c : Nat) :
    imageIn runs c = c ∨ ∃ run ∈ runs, run.image? c = some (imageIn runs c) := by
  induction runs with
  | nil => exact .inl rfl
  | cons run rest ih =>
    rw [imageIn]
    cases himage : run.image? c with
    | some image => exact .inr ⟨run, List.mem_cons_self .., himage⟩
    | none =>
      refine ih.imp_right ?_
      rintro ⟨other, hother, h⟩
      exact ⟨other, List.mem_cons_of_mem _ hother, h⟩

/-- Runs into the ordinary alphabet: its capitals, the dotted capital I and the sign for kelvin. -/
theorem ordinary_of_mem_lowerRuns : ∀ run ∈ lowerRuns, run.image < 0x80 →
    run.first = 0x41 ∧ run.last = 0x5A ∧ run.image = 0x61 ∨
      run.first = run.last ∧ (run.image = 0x69 ∨ run.image = 0x6B) := by
  decide +kernel

/-- A code point in lower case is another one of the ordinary alphabet, other than i and k: then it
was a capital. -/
theorem eq_of_lower {c x : Nat} (h : lower c = x) (hx : x < 0x80) (hi : x ≠ 0x69) (hk : x ≠ 0x6B) :
    c = x ∨ c + 0x20 = x ∧ 0x61 ≤ x ∧ x ≤ 0x7A := by
  rcases imageIn_cases lowerRuns c with hsame | ⟨run, hrun, himage⟩
  · exact .inl (hsame.symm.trans h)
  · change run.image? c = some (lower c) at himage
    rw [h, CaseRun.image?] at himage
    split at himage
    · next hin =>
      obtain ⟨hfirst, hlast, -⟩ := hin
      have hvalue := Option.some.inj himage
      rcases ordinary_of_mem_lowerRuns run hrun (by omega) with ⟨h1, h2, h3⟩ | ⟨h1, h2⟩
      · omega
      · omega
    · cases himage

end Unicode

/-! ## Words -/

namespace Text
variable {c x : Char} {text : List Char} {b : Bool}

/-- The small letters and digits that are the lower case of themselves and their capitals only. -/
def plainLetters : List Char := "0123456789abcdefghjlmnopqrstuvwxyz".toList

/-- A text is a word, each letter of it small or a capital. -/
def IsWord (text word : List Char) : Prop :=
  List.Forall₂ (fun c x => c = x ∨ c = x.toUpper) text word

theorem forall_mem_of_all {p : Char → Prop} [DecidablePred p] {letters : List Char}
    (h : letters.all (fun x => decide (p x)) = true) : ∀ x ∈ letters, p x :=
  fun x hx => of_decide_eq_true (List.all_eq_true.mp h x hx)

theorem plain_code : ∀ x ∈ plainLetters, 0 < x.toNat ∧ x.toNat < 0x80 ∧ x.toNat ≠ 0x69 ∧
    x.toNat ≠ 0x6B ∧ (0x61 ≤ x.toNat → x.toUpper.toNat + 0x20 = x.toNat) :=
  forall_mem_of_all (by decide +kernel)

theorem plain_lower : ∀ x ∈ plainLetters, lowerChar x = [x] ∧ lowerChar x.toUpper = [x] :=
  forall_mem_of_all (by decide +kernel)

theorem lowerChar_eq_iff (hx : x ∈ plainLetters) : lowerChar c = [x] ↔ c = x ∨ c = x.toUpper := by
  constructor
  · obtain ⟨hpos, hsmall, hi, hk, hupper⟩ := plain_code x hx
    intro h
    rw [lowerChar] at h
    split at h
    · cases h
    · have hlower : Unicode.lower c.toNat = x.toNat := by
        obtain rfl := List.singleton_injective h
        -- a number that is no code point gives the character 0
        by_cases hvalid : (Unicode.lower c.toNat).isValidChar
        · rw [Char.ofNat, dif_pos hvalid]
          rfl
        · rw [Char.ofNat, dif_neg hvalid] at hpos
          exact absurd hpos (Nat.lt_irrefl 0)
      rcases Unicode.eq_of_lower hlower hsmall hi hk with hsame | ⟨hcapital, hletter, -⟩
      · exact .inl (Char.toNat_inj.mp hsame)
      · have hcode := hupper hletter
        exact .inr (Char.toNat_inj.mp (by omega))
  · obtain ⟨hself, hupper⟩ := plain_lower x hx
    rintro (rfl | rfl)
    · exact hself
    · exact hupper

theorem lowerChar_append_eq_cons_iff {more rest : List Char} (hx : x ∈ plainLetters) :
    lowerChar c ++ more = x :: rest ↔ (c = x ∨ c = x.toUpper) ∧ more = rest := by
  rw [← lowerChar_eq_iff hx]
  by_cases hc : c = Char.ofNat 0x130
  · -- its lower case begins with an i, which is no plain letter
    have hi : x ≠ 'i' := by
      rintro rfl
      exact absurd hx (by decide)
    simp [lowerChar, hc, hi.symm]
  · simp [lowerChar, hc]

theorem lowerText_eq_iff {word : List Char} (hword : ∀ x ∈ word, x ∈ plainLetters) :
    lowerText text = word ↔ IsWord text word := by
  induction word generalizing text with
  | nil =>
    cases text with
    | nil => exact iff_of_true rfl .nil
    | cons c rest =>
      refine iff_of_false ?_ nofun
      rw [lowerText, List.flatMap_cons, lowerChar]
      split <;> exact List.cons_ne_nil _ _
  | cons x word ih =>
    obtain ⟨hx, hrest⟩ := List.forall_mem_cons.mp hword
    cases text with
    | nil => exact iff_of_false nofun nofun
    | cons c rest =>
      rw [IsWord, List.forall₂_cons, ← IsWord, ← ih hrest, lowerText, List.flatMap_cons,
        lowerChar_append_eq_cons_iff hx]
      rfl

theorem plain_words : ∀ word ∈ trueWords ++ falseWords, ∀ x ∈ word.toList, x ∈ plainLetters := by
  have hall : (trueWords ++ falseWords).all
      (fun word => word.toList.all plainLetters.contains) = true := by decide +kernel
  intro word hword x hx
  exact List.contains_iff_mem.mp
    (List.all_eq_true.mp (List.all_eq_true.mp hall word hword) x hx)

/-- The words for a truth value. -/
def wordsFor (b : Bool) : List String := if b then trueWords else falseWords

theorem contains_lower_iff (text : List Char) (b : Bool) :
    (wordsFor b).contains (String.ofList (lowerText text)) = true ↔
      ∃ word ∈ wordsFor b, IsWord text word.toList := by
  have hplain : ∀ word ∈ wordsFor b, ∀ x ∈ word.toList, x ∈ plainLetters := by
    intro word hword
    refine plain_words word (List.mem_append.mpr ?_)
    cases b with
    | true => exact .inl hword
    | false => exact .inr hword
  rw [List.contains_iff_mem]
  constructor
  · intro h
    exact ⟨_, h, (lowerText_eq_iff (hplain _ h)).mp (String.toList_ofList ..).symm⟩
  · rintro ⟨word, hword, his⟩
    rw [(lowerText_eq_iff (hplain word hword)).mpr his, String.ofList_toList]
    exact hword

theorem falseWords_notMem : ∀ word ∈ falseWords, trueWords.contains word = false := by
  decide

/-- A text is read as a truth value exactly if, without the white space around, it is a word for
it. -/
theorem readBoolean?_eq_some_iff (text : String) : readBoolean? text = some b ↔
    ∃ word ∈ wordsFor b, IsWord (Unicode.trim text.toList) word.toList := by
  rw [← contains_lower_iff, readBoolean?]
  generalize String.ofList (lowerText (Unicode.trim text.toList)) = word
  by_cases htrue : trueWords.contains word = true
  · have hfalse : ¬ falseWords.contains word = true := fun h => by
      rw [falseWords_notMem word (List.contains_iff_mem.mp h)] at htrue
      cases htrue
    rw [if_pos htrue]
    cases b with
    | true => exact iff_of_true rfl htrue
    | false => exact iff_of_false nofun hfalse
  · rw [if_neg htrue]
    cases b with
    | true =>
      refine iff_of_false ?_ htrue
      split <;> exact nofun
    | false =>
      change _ ↔ falseWords.contains word = true
      split
      · next h => exact iff_of_true rfl h
      · next h => exact iff_of_false nofun h

end Text

end Linting
