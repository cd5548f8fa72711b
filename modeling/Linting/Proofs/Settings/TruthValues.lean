import Linting.Proofs.Settings.Loading

/-! The language of truth values: eight words, in capitals or small letters, between white space. No
letter outside the ordinary alphabet takes part in it, although lower case maps some of these into
the alphabet. Neither white space around a text nor the case of its ordinary letters changes what
it is read as. -/

namespace Linting
set_option autoImplicit false

namespace Text
variable {c x : Char} {text word lowered : List Char} {b : Bool}

/-! ## Capitals -/

theorem forall_ordinary {p : Char → Prop} (h : ∀ n < 0x80, p (Char.ofNat n))
    (hc : c.toNat < 0x80) : p c := by
  have hp := h c.toNat hc
  rwa [Char.ofNat_toNat] at hp

theorem toLower_of_not_ordinary (h : 0x80 ≤ c.toNat) : c.toLower = c := by
  have hother : ¬ (c.val ≥ 'A'.val ∧ c.val ≤ 'Z'.val) := by
    rintro ⟨-, hle⟩
    have hsmall : c.toNat ≤ 0x5A := hle
    omega
  exact dif_neg hother

/-- White space has no case. -/
theorem isBlank_toLower (c : Char) :
    Unicode.isBlank c.toLower.toNat = Unicode.isBlank c.toNat := by
  by_cases hc : c.toNat < 0x80
  · exact forall_ordinary
      (p := fun c => Unicode.isBlank c.toLower.toNat = Unicode.isBlank c.toNat)
      (by decide +kernel) hc
  · rw [toLower_of_not_ordinary (Nat.le_of_not_lt hc)]

/-- A letter is its small one or the capital of that. -/
theorem eq_toLower_or_toUpper (c : Char) : c = c.toLower ∨ c = c.toLower.toUpper := by
  by_cases hc : c.toNat < 0x80
  · exact forall_ordinary (p := fun c => c = c.toLower ∨ c = c.toLower.toUpper)
      (by decide +kernel) hc
  · exact .inl (toLower_of_not_ordinary (Nat.le_of_not_lt hc)).symm

theorem plain_case : ∀ x ∈ plainLetters, x.toLower = x ∧ x.toUpper.toLower = x ∧
    Unicode.isBlank x.toNat = false :=
  forall_mem_of_all (by decide +kernel)

theorem toLower_eq_iff (hx : x ∈ plainLetters) : c.toLower = x ↔ c = x ∨ c = x.toUpper := by
  obtain ⟨hself, hupper, -⟩ := plain_case x hx
  constructor
  · rintro rfl
    exact eq_toLower_or_toUpper c
  · rintro (rfl | rfl)
    · exact hself
    · exact hupper

theorem isWord_iff (hword : ∀ x ∈ word, x ∈ plainLetters) :
    IsWord text word ↔ text.map Char.toLower = word := by
  induction word generalizing text with
  | nil => rw [IsWord, List.forall₂_nil_right_iff, List.map_eq_nil_iff]
  | cons x word ih =>
    obtain ⟨hx, hrest⟩ := List.forall_mem_cons.mp hword
    cases text with
    | nil => exact iff_of_false (fun h => by cases h) (fun h => by cases h)
    | cons c rest =>
      rw [IsWord, List.forall₂_cons, ← IsWord, ih hrest, ← toLower_eq_iff hx, List.map_cons,
        List.cons.injEq]

/-! ## Words between white space -/

/-- The words for true and those for false. -/
def literals : Bool → List String
  | true => ["1", "true", "yes", "on"]
  | false => ["0", "false", "no", "off"]

/-- A text is a word for a truth value, with ordinary letters in either case, between white
space. -/
def Spells (b : Bool) (text : List Char) : Prop :=
  ∃ front body back, text = front ++ (body ++ back) ∧
    (∀ c ∈ front, Unicode.isBlank c.toNat = true) ∧
    (∀ c ∈ back, Unicode.isBlank c.toNat = true) ∧
    ∃ word ∈ literals b, body.map Char.toLower = word.toList

theorem wordsFor_eq (b : Bool) : wordsFor b = literals b := by
  cases b <;> rfl

theorem plain_literal {word : String} (h : word ∈ literals b) :
    ∀ x ∈ word.toList, x ∈ plainLetters := by
  rw [← wordsFor_eq] at h
  refine plain_words word (List.mem_append.mpr ?_)
  cases b with
  | true => exact .inl h
  | false => exact .inr h

/-- A letter of a word for a truth value is an ordinary one, and no white space. -/
theorem ordinary_of_literal {word : String} (hword : word ∈ literals b)
    (h : text.map Char.toLower = word.toList) :
    ∀ c ∈ text, c.toNat < 0x80 ∧ Unicode.isBlank c.toNat = false := by
  intro c hc
  have hplain : c.toLower ∈ plainLetters :=
    plain_literal hword _ (h ▸ List.mem_map_of_mem hc)
  refine ⟨Nat.lt_of_not_le fun hother => ?_, ?_⟩
  · rw [toLower_of_not_ordinary hother] at hplain
    have hsmall := (plain_code c hplain).2.1
    omega
  · rw [← isBlank_toLower]
    exact (plain_case _ hplain).2.2

theorem spells_iff : Spells b text ↔
    ∃ word ∈ literals b, (Unicode.trim text).map Char.toLower = word.toList := by
  constructor
  · rintro ⟨front, body, back, rfl, hfront, hback, word, hword, hbody⟩
    have htrim : Unicode.trim (front ++ (body ++ back)) = body :=
      (Unicode.trim_append hfront hback).trans
        (Unicode.trim_eq_self fun c hc => (ordinary_of_literal hword hbody c hc).2)
    rw [htrim]
    exact ⟨word, hword, hbody⟩
  · rintro ⟨word, hword, hbody⟩
    obtain ⟨front, back, htext, hfront, hback⟩ := Unicode.exists_eq_append_trim text
    exact ⟨front, _, back, htext, hfront, hback, word, hword, hbody⟩

theorem readBoolean?_eq_some_iff_spells (text : String) :
    readBoolean? text = some b ↔ Spells b text.toList := by
  rw [readBoolean?_eq_some_iff, spells_iff, wordsFor_eq]
  refine exists_congr fun word => and_congr_right fun hword => ?_
  exact isWord_iff (plain_literal hword)

theorem Spells.ordinary (h : Spells b text) :
    ∀ c ∈ text, 0x80 ≤ c.toNat → Unicode.isBlank c.toNat = true := by
  obtain ⟨front, body, back, rfl, hfront, hback, word, hword, hbody⟩ := h
  intro c hc hother
  rcases List.mem_append.mp hc with hc | hc
  · exact hfront c hc
  · rcases List.mem_append.mp hc with hc | hc
    · have hsmall := (ordinary_of_literal hword hbody c hc).1
      omega
    · exact hback c hc

/-! ## What does not matter -/

theorem readBoolean?_eq_of_map_toLower {s t : String}
    (h : s.toList.map Char.toLower = t.toList.map Char.toLower) :
    readBoolean? s = readBoolean? t := by
  refine Option.ext fun b => ?_
  rw [readBoolean?_eq_some_iff_spells, readBoolean?_eq_some_iff_spells, spells_iff, spells_iff,
    ← Unicode.trim_map isBlank_toLower, h, Unicode.trim_map isBlank_toLower]

theorem readBoolean?_eq_of_trim {s t : String}
    (h : Unicode.trim s.toList = Unicode.trim t.toList) : readBoolean? s = readBoolean? t := by
  rw [readBoolean?, h, readBoolean?]

/-! ## The two small sigmas -/

/-- A letter of a text in lower case, which in place of a sigma may have the form for the end of a
word. -/
def IsForm (c d : Char) : Prop := c = d ∨ c = 'ς' ∧ d = 'σ'

theorem IsForm.eq_iff {d : Char} (h : IsForm c d) (hx : x ∈ plainLetters) : c = x ↔ d = x := by
  rcases h with rfl | ⟨rfl, rfl⟩
  · rfl
  · have hsigma : ∀ x ∈ plainLetters, 'ς' ≠ x ∧ 'σ' ≠ x := forall_mem_of_all (by decide +kernel)
    exact iff_of_false (hsigma x hx).1 (hsigma x hx).2

theorem eq_iff_of_forms (h : List.Forall₂ IsForm lowered text)
    (hword : ∀ x ∈ word, x ∈ plainLetters) : lowered = word ↔ text = word := by
  induction h generalizing word with
  | nil => rfl
  | cons hform _ ih =>
    cases word with
    | nil => exact iff_of_false nofun nofun
    | cons x word =>
      obtain ⟨hx, hrest⟩ := List.forall_mem_cons.mp hword
      rw [List.cons.injEq, List.cons.injEq, hform.eq_iff hx, ih hrest]

theorem readBoolean?_eq_some_iff_forms {text : String}
    (h : List.Forall₂ IsForm lowered (lowerText (Unicode.trim text.toList))) :
    readBoolean? text = some b ↔ ∃ word ∈ literals b, lowered = word.toList := by
  rw [readBoolean?_eq_some_iff, wordsFor_eq]
  refine exists_congr fun word => and_congr_right fun hword => ?_
  rw [eq_iff_of_forms h (plain_literal hword), lowerText_eq_iff (plain_literal hword)]

end Text

/-! ## Main statement -/

namespace Settings
open Text

theorem readBoolean?_core (text : String) : readBoolean? (core text) = readBoolean? text := by
  refine readBoolean?_eq_of_trim ?_
  rw [core, String.toList_ofList, Unicode.trim_trim]

theorem readCache_of_full {env : Environment} {text : String}
    (hget : env.get? cacheVariable = some text) (hfull : ¬ IsBlankText text) :
    readCache env = (readBoolean? text).elim (.error (.badBoolean (core text))) .ok := by
  rcases trimmed?_cases env cacheVariable with
    ⟨hnone, -⟩ | ⟨raw, hraw, ⟨hblank, -⟩ | ⟨-, htrim⟩⟩
  · rw [hget] at hnone
    cases hnone
  · rw [hget] at hraw
    cases hraw
    exact absurd hblank hfull
  · rw [hget] at hraw
    cases hraw
    rw [readCache, htrim]
    dsimp only
    rw [readBoolean?_core]
    cases readBoolean? text <;> rfl

/-- A text is read as a truth value exactly if it is one of the words for it, with ordinary letters
in either case, between white space; it is read as one value at most, and all its other characters
are ordinary. White space around a text and the case of its ordinary letters do not matter, nor does
the form of its small sigmas. So the white space that is cut off a variable before it is read
changes nothing. -/
theorem truth_values_spelled (text : String) :
    (∀ b, readBoolean? text = some b ↔ Spells b text.toList) ∧
    (readBoolean? text = none ↔ ∀ b, ¬ Spells b text.toList) ∧
    ¬ (Spells true text.toList ∧ Spells false text.toList) ∧
    (∀ b, Spells b text.toList → ∀ c ∈ text.toList, 0x80 ≤ c.toNat →
      Unicode.isBlank c.toNat = true) ∧
    (∀ front back, IsBlankText front → IsBlankText back →
      readBoolean? (front ++ (text ++ back)) = readBoolean? text) ∧
    readBoolean? (core text) = readBoolean? text ∧
    (∀ other : String, other.toList.map Char.toLower = text.toList.map Char.toLower →
      readBoolean? other = readBoolean? text) ∧
    (∀ lowered, List.Forall₂ IsForm lowered (lowerText (Unicode.trim text.toList)) →
      ∀ b, readBoolean? text = some b ↔ ∃ word ∈ literals b, lowered = word.toList) ∧
    ∀ env : Environment, env.get? cacheVariable = some text → ¬ IsBlankText text →
      readCache env = (readBoolean? text).elim (.error (.badBoolean (core text))) .ok := by
  have hspells (b : Bool) : readBoolean? text = some b ↔ Spells b text.toList :=
    readBoolean?_eq_some_iff_spells text
  refine ⟨hspells, ?_, ?_, fun b h => h.ordinary, fun front back hfront hback => ?_,
    readBoolean?_core text, fun other h => readBoolean?_eq_of_map_toLower h,
    fun lowered h b => readBoolean?_eq_some_iff_forms h,
    fun env hget hfull => readCache_of_full hget hfull⟩
  · simp only [Option.eq_none_iff_forall_ne_some, ne_eq, hspells]
  · rintro ⟨htrue, hfalse⟩
    rw [← hspells] at htrue hfalse
    rw [htrue] at hfalse
    cases hfalse
  · refine readBoolean?_eq_of_trim ?_
    rw [String.toList_append, String.toList_append]
    exact Unicode.trim_append hfront hback

/-- A word in both cases behind a wide blank; and the same with one character for two letters. -/
theorem truth_values_spelled_ligature :
    readBoolean? "\u3000oFf\t" = some false ∧ readBoolean? "\u3000o\ufb00\t" = none := by
  obtain ⟨hspelled, -⟩ := truth_values_spelled "\u3000oFf\t"
  obtain ⟨-, hnone, -, hordinary, -⟩ := truth_values_spelled "\u3000o\ufb00\t"
  constructor
  · refine (hspelled false).mpr ⟨['\u3000'], ['o', 'F', 'f'], ['\t'], rfl, ?_, ?_, "off", ?_, rfl⟩
    · exact List.forall_mem_singleton.mpr (by decide)
    · exact List.forall_mem_singleton.mpr (by decide)
    · decide
  · refine hnone.mpr fun b hspells => ?_
    have hblank := hordinary b hspells '\ufb00' (by decide) (by decide)
    exact absurd hblank (by decide)

end Settings

end Linting
