import Linting.Proofs.Pattern.Letters

/-! Letters put into openers and taken out of them do not change how a text falls into pieces. So
respelling leaves nothing to respell, and it puts back each letter that was taken out of an
opener. -/

namespace Linting.Pattern
set_option autoImplicit false

/-! ## Openers with and without their letter -/

/-- Whether a bracket that no backslash escapes is in a piece or is the piece. -/
def Piece.HoldsClose : Piece → Prop
  | bracket _ => True
  | char c => c = ']'
  | _ => False

/-- Pieces, and the same with some openers spelled without their letter. -/
inductive Shortened : List Piece → List Piece → Prop where
  | nil : Shortened [] []
  | keep (piece : Piece) {ps qs : List Piece} (h : Shortened ps qs) :
    Shortened (piece :: ps) (piece :: qs)
  | shorten {ps qs : List Piece} (hmark : ¬ Marked (written ps)) (h : Shortened ps qs) :
    Shortened (.char '(' :: .char '?' :: .char 'P' :: .char '<' :: ps) (.opener :: qs)

/-- Pieces with the letter in every opener. -/
def lengthened : List Piece → List Piece
  | [] => []
  | .opener :: ps => .char '(' :: .char '?' :: .char 'P' :: .char '<' :: lengthened ps
  | piece :: ps => piece :: lengthened ps

theorem closes_char_written {c : Char} {text : List Char} (hescape : c = '\\' → text = []) :
    Closes (c :: text) ↔ c = ']' ∨ Closes text := by
  by_cases hclose : c = ']'
  · subst hclose
    simp [closes_bracket]
  by_cases hlone : c = '\\'
  · obtain rfl := hescape hlone
    simp [hlone, not_closes_lone, not_closes_nil]
  · rw [closes_char_iff hlone hclose, or_iff_right hclose]

theorem closes_written_iff {ps : List Piece} (h : Cuts ps) :
    Closes (written ps) ↔ ∃ piece ∈ ps, piece.HoldsClose := by
  induction ps with
  | nil => simpa [written] using not_closes_nil
  | cons piece ps ih =>
    rw [List.exists_mem_cons_iff, ← ih h.2, written_cons]
    cases piece with
    | escape c =>
      change Closes ('\\' :: c :: written ps) ↔ _
      rw [closes_pair_iff]
      simp [Piece.HoldsClose]
    | bracket body =>
      have hclass : Closes (body ++ written ps) := ClosedClass.closes h.1
      have hcloses : Closes ('[' :: (body ++ written ps)) :=
        (closes_char_iff (by decide) (by decide)).mpr hclass
      simpa [Piece.HoldsClose, Piece.text] using hcloses
    | opener =>
      change Closes ('(' :: '?' :: '<' :: written ps) ↔ _
      rw [closes_char_iff (by decide) (by decide), closes_char_iff (by decide) (by decide),
        closes_char_iff (by decide) (by decide)]
      simp [Piece.HoldsClose]
    | char c => exact closes_char_written h.1.1

namespace Shortened

variable {ps qs : List Piece}

theorem refl (ps : List Piece) : Shortened ps ps := by
  induction ps with
  | nil => exact .nil
  | cons piece ps ih => exact .keep piece ih

theorem head?_written (h : Shortened ps qs) : (written qs).head? = (written ps).head? := by
  cases h with
  | nil => rfl
  | keep piece h =>
    rw [written_cons, written_cons]
    cases piece <;> rfl
  | shorten hmark h => rfl

theorem marked_iff (h : Shortened ps qs) : Marked (written qs) ↔ Marked (written ps) := by
  rw [Marked, Marked, h.head?_written]

theorem written_eq_nil_iff (h : Shortened ps qs) : written qs = [] ↔ written ps = [] := by
  rw [← List.head?_eq_none_iff, ← List.head?_eq_none_iff, h.head?_written]

theorem holdsClose_iff (h : Shortened ps qs) :
    (∃ piece ∈ qs, piece.HoldsClose) ↔ ∃ piece ∈ ps, piece.HoldsClose := by
  induction h with
  | nil => rfl
  | keep piece h ih => simp only [List.exists_mem_cons_iff, ih]
  | shorten hmark h ih =>
    rw [List.exists_mem_cons_iff, ih]
    simp [Piece.HoldsClose]

theorem nameFollows_iff (h : Shortened ps qs) :
    NameFollows (written qs) ↔ NameFollows (written ps) := by
  rw [nameFollows_written_iff, nameFollows_written_iff]
  constructor
  · rintro ⟨qs', rfl, hmark⟩
    cases h with
    | keep _ h =>
      cases h with
      | keep _ h => exact ⟨_, rfl, fun hps => hmark (h.marked_iff.mpr hps)⟩
  · rintro ⟨ps', rfl, hmark⟩
    cases h with
    | keep _ h =>
      cases h with
      | keep _ h => exact ⟨_, rfl, fun hqs => hmark (h.marked_iff.mp hqs)⟩

/-- A piece is the first one of a text with or without the letters behind it. -/
theorem starts_iff (h : Shortened ps qs) (hcloses : Closes (written qs) ↔ Closes (written ps))
    (piece : Piece) : piece.Starts (written qs) ↔ piece.Starts (written ps) := by
  cases piece with
  | escape c => rfl
  | bracket body =>
    constructor
    · exact fun hbody => ClosedClass.of_closes_iff hbody hcloses
    · exact fun hbody => ClosedClass.of_closes_iff hbody hcloses.symm
  | opener => exact not_congr h.marked_iff
  | char c =>
    simp only [Piece.Starts, h.written_eq_nil_iff, hcloses, h.nameFollows_iff]

theorem cuts_long_iff :
    Cuts (.char '(' :: .char '?' :: .char 'P' :: .char '<' :: ps) ↔ Cuts ps := by
  have hname : ¬ NameFollows ('?' :: 'P' :: '<' :: written ps) := by
    rintro ⟨after, h, -⟩
    simp at h
  constructor
  · rintro ⟨-, -, -, -, h⟩
    exact h
  · intro h
    refine ⟨?_, ?_, ?_, ?_, h⟩
    · exact ⟨by simp, by simp, fun _ => hname⟩
    all_goals exact ⟨by simp, by simp, by simp⟩

/-- A text falls into the same pieces with and without letters of its openers. -/
theorem cuts_iff (h : Shortened ps qs) : Cuts qs ↔ Cuts ps := by
  induction h with
  | nil => rfl
  | @keep piece ps qs h ih =>
    have hstarts (hps : Cuts ps) : piece.Starts (written qs) ↔ piece.Starts (written ps) := by
      refine h.starts_iff ?_ piece
      rw [closes_written_iff (ih.mpr hps), closes_written_iff hps, h.holdsClose_iff]
    constructor
    · rintro ⟨hfirst, hqs⟩
      exact ⟨(hstarts (ih.mp hqs)).mp hfirst, ih.mp hqs⟩
    · rintro ⟨hfirst, hps⟩
      exact ⟨(hstarts hps).mpr hfirst, ih.mpr hps⟩
  | @shorten ps qs hmark h ih =>
    rw [cuts_long_iff, ← ih]
    constructor
    · exact fun hqs => hqs.2
    · exact fun hqs => ⟨fun hshort => hmark (h.marked_iff.mp hshort), hqs⟩

/-- Respelling puts all the letters back. -/
theorem respelled (h : Shortened ps qs) (hopener : .opener ∉ ps) :
    qs.flatMap Piece.respelled = written ps := by
  induction h with
  | nil => rfl
  | @keep piece ps qs h ih =>
    obtain ⟨hpiece, hps⟩ := List.ne_and_not_mem_of_not_mem_cons hopener
    rw [List.flatMap_cons, written_cons, Piece.respelled_eq_text hpiece.symm, ih hps]
  | @shorten ps qs hmark h ih =>
    have hps : .opener ∉ ps := by
      simp only [List.mem_cons, not_or] at hopener
      exact hopener.2.2.2.2
    rw [List.flatMap_cons, ih hps]
    rfl

end Shortened

/-! ## Letters in every opener -/

theorem lengthened_cons {piece : Piece} (h : piece ≠ .opener) (ps : List Piece) :
    lengthened (piece :: ps) = piece :: lengthened ps := by
  cases piece with
  | opener => exact absurd rfl h
  | _ => rfl

theorem written_lengthened (ps : List Piece) :
    written (lengthened ps) = ps.flatMap Piece.respelled := by
  induction ps using openersInduct with
  | nil => rfl
  | opener ps ih =>
    change '(' :: '?' :: 'P' :: '<' :: written (lengthened ps) = _
    rw [ih]
    rfl
  | other piece ps hpiece ih =>
    rw [lengthened_cons hpiece, written_cons, List.flatMap_cons, Piece.respelled_eq_text hpiece,
      ih]

theorem opener_notMem_lengthened (ps : List Piece) : .opener ∉ lengthened ps := by
  induction ps using openersInduct with
  | nil => simp [lengthened]
  | opener ps ih => simpa [lengthened] using ih
  | other piece ps hpiece ih =>
    rw [lengthened_cons hpiece]
    exact List.not_mem_cons_of_ne_of_not_mem hpiece.symm ih

theorem shortened_lengthened {ps : List Piece} (h : Cuts ps) : Shortened (lengthened ps) ps := by
  induction ps using openersInduct with
  | nil => exact .nil
  | opener ps ih =>
    have hrest := ih h.2
    exact .shorten (fun hmark => h.1 (hrest.marked_iff.mpr hmark)) hrest
  | other piece ps hpiece ih =>
    rw [lengthened_cons hpiece]
    exact .keep piece (ih h.2)

theorem respell_written {ps : List Piece} (h : Cuts ps) :
    respell (String.ofList (written ps)) = String.ofList (ps.flatMap Piece.respelled) := by
  rw [respell, String.toList_ofList, pieces_written h]

theorem exists_written (pattern : String) :
    ∃ ps, Cuts ps ∧ pattern = String.ofList (written ps) := by
  obtain ⟨hwritten, hcuts⟩ := written_pieces pattern.toList
  exact ⟨pieces pattern.toList, hcuts, by rw [hwritten, String.ofList_toList]⟩

/-! ## Letters taken out -/

/-- Whether the places, in a text that starts at one, are places of letters of openers. -/
def AtLetters (places : List Nat) (start : Nat) (ps : List Piece) : Prop :=
  ∀ j ∈ places, start ≤ j → ∃ i, j = start + i + 2 ∧ OpenerAt longOpener (written ps) i

theorem AtLetters.behind {places : List Nat} {start : Nat} {pre ps : List Piece}
    (hplaces : AtLetters places start (pre ++ ps)) (h : Cuts (pre ++ ps))
    (hinside : ∀ i < (written pre).length, start + i + 2 ∈ places →
      OpenerAt longOpener (written (pre ++ ps)) i → i + 2 < (written pre).length) :
    AtLetters places (start + (written pre).length) ps := by
  intro j hmem hj
  obtain ⟨i, rfl, hi⟩ := hplaces j hmem (by omega)
  have hle : (written pre).length ≤ i := by
    by_contra hlt
    have := hinside i (by omega) hmem hi
    omega
  exact ⟨i - (written pre).length, by omega, (openerAt_append h hle).mp hi⟩

theorem openerAt_longOpener_within {ps : List Piece} {i : Nat} (hi : i < 4)
    (h : OpenerAt longOpener
      (written (.char '(' :: .char '?' :: .char 'P' :: .char '<' :: ps)) i) : i = 0 := by
  have hhead := h.getElem? rfl
  by_contra hne
  obtain rfl | rfl | rfl : i = 1 ∨ i = 2 ∨ i = 3 := by omega
  all_goals simp [written_cons, Piece.text] at hhead

/-- Without the letters of some openers a text falls into the pieces it fell into, those openers
apart. The text starts at the given place. -/
theorem exists_shortened {places : List Nat} {start : Nat} {ps : List Piece} (h : Cuts ps)
    (hopener : .opener ∉ ps) (hplaces : AtLetters places start ps) :
    ∃ qs, Shortened ps qs ∧
      changed (fun j c => if j ∈ places then [] else [c]) start (written ps) = written qs := by
  induction hlength : ps.length using Nat.strongRecOn generalizing ps start with
  | ind n ih =>
    cases ps with
    | nil => exact ⟨[], .nil, rfl⟩
    | cons piece ps =>
      by_cases hat : start + 2 ∈ places
      · -- the letter of an opener that starts here is taken out
        obtain ⟨i, hi, hlong⟩ := hplaces _ hat (by omega)
        obtain rfl : i = 0 := by omega
        obtain ⟨ps', heq, hmark⟩ := eq_of_openerAt_long h hlong
        rw [heq] at h hopener hplaces hlength ⊢
        clear heq hlong
        have hlong : Cuts ([.char '(', .char '?', .char 'P', .char '<'] ++ ps') := h
        have hrest : AtLetters places (start + 4) ps' := by
          refine hplaces.behind hlong fun i hi _ hopens => ?_
          rw [openerAt_longOpener_within hi hopens]
          decide
        have hnot (j : Nat) (hj : start ≤ j) (hj' : j < start + 4) (hne : j ≠ start + 2) :
            j ∉ places := by
          intro hmem
          obtain ⟨i, rfl, hi⟩ := hplaces j hmem hj
          have := openerAt_longOpener_within (by omega) hi
          omega
        simp only [List.length_cons] at hlength
        obtain ⟨qs, hqs, htext⟩ := ih ps'.length (by omega) h.2.2.2.2 (by simp_all) hrest rfl
        refine ⟨.opener :: qs, .shorten hmark hqs, ?_⟩
        have h₀ := hnot start (by omega) (by omega) (by omega)
        have h₁ := hnot (start + 1) (by omega) (by omega) (by omega)
        have h₃ := hnot (start + 3) (by omega) (by omega) (by omega)
        change changed _ start (['(', '?', 'P', '<'] ++ written ps') = _
        rw [changed_append, show start + ['(', '?', 'P', '<'].length = start + 4 from rfl, htext]
        simp [changed, written_cons, Piece.text, h₀, h₁, h₃, hat]
      · obtain ⟨hpiece, hps⟩ := List.ne_and_not_mem_of_not_mem_cons hopener
        -- an opener that starts in the piece starts with it, and keeps its letter
        have hinside (i : Nat) (hi : i < piece.text.length) (hmem : start + i + 2 ∈ places)
            (hopens : OpenerAt longOpener (written (piece :: ps)) i) : False := by
          obtain ⟨rfl, -⟩ := openerAt_within h hi rfl hopens
          exact hat hmem
        have hwritten : written [piece] = piece.text := by simp [written]
        have hrest : AtLetters places (start + piece.text.length) ps := by
          rw [← hwritten]
          refine AtLetters.behind hplaces h fun i hi hmem hopens => ?_
          rw [hwritten] at hi
          exact (hinside i hi hmem hopens).elim
        have hnot (j : Nat) (hj : start ≤ j) (hj' : j < start + piece.text.length) :
            j ∉ places := by
          intro hmem
          obtain ⟨i, rfl, hi⟩ := hplaces j hmem hj
          exact hinside i (by omega) hmem hi
        rw [List.length_cons] at hlength
        obtain ⟨qs, hqs, htext⟩ := ih ps.length (by omega) h.2 hps hrest rfl
        refine ⟨piece :: qs, .keep piece hqs, ?_⟩
        rw [written_cons, changed_append, htext, changed_eq_self, written_cons]
        intro j c hj hj'
        rw [if_neg (hnot j hj hj')]

/-! ## Respelling again -/

/-- Respelling a second time changes nothing, and leaves no opener without its letter. A text that
has none comes about again if any letters are taken out of its openers. -/
theorem respell_restores_letters :
    (∀ pattern, respell (respell pattern) = respell pattern ∧
      ∀ i, ¬ OpenerAt shortOpener (respell pattern).toList i) ∧
    ∀ pattern places, (∀ i, ¬ OpenerAt shortOpener pattern.toList i) →
      (∀ j ∈ places, ∃ i, j = i + 2 ∧ OpenerAt longOpener pattern.toList i) →
      respell (String.ofList (without places pattern.toList)) = pattern := by
  constructor
  · intro pattern
    obtain ⟨ps, hcuts, rfl⟩ := exists_written pattern
    have hshortened := shortened_lengthened hcuts
    have hlong : Cuts (lengthened ps) := hshortened.cuts_iff.mp hcuts
    have hrespell : respell (String.ofList (written ps)) =
        String.ofList (written (lengthened ps)) := by
      rw [respell_written hcuts, written_lengthened]
    have hkept : (lengthened ps).flatMap Piece.respelled = written (lengthened ps) :=
      (Shortened.refl _).respelled (opener_notMem_lengthened ps)
    rw [hrespell]
    refine ⟨?_, fun i hi => ?_⟩
    · rw [respell_written hlong, hkept]
    · rw [String.toList_ofList] at hi
      exact opener_notMem_lengthened ps ((exists_openerAt_short_iff hlong).mp ⟨i, hi⟩)
  · intro pattern places hshort hplaces
    obtain ⟨ps, hcuts, rfl⟩ := exists_written pattern
    rw [String.toList_ofList] at hshort hplaces ⊢
    have hopener : .opener ∉ ps := by
      rw [← exists_openerAt_short_iff hcuts]
      rintro ⟨i, hi⟩
      exact hshort i hi
    have hplaces : AtLetters places 0 ps := by
      intro j hj _
      simpa using hplaces j hj
    obtain ⟨qs, hqs, htext⟩ := exists_shortened hcuts hopener hplaces
    rw [without, htext, respell_written (hqs.cuts_iff.mpr hcuts), hqs.respelled hopener]

/-- Letters taken out of two openers, which stand in front of a class, an escape pair and a
look-behind and behind them. -/
theorem respell_restores_letters_two :
    (∀ i, ¬ OpenerAt shortOpener "(?P<a>x)[(?P<b>]\\(?P<c>(?P<=d)(?P<e>[".toList i) ∧
    (∀ j ∈ [2, 32], ∃ i, j = i + 2 ∧
      OpenerAt longOpener "(?P<a>x)[(?P<b>]\\(?P<c>(?P<=d)(?P<e>[".toList i) ∧
    respell (String.ofList (without [2, 32] "(?P<a>x)[(?P<b>]\\(?P<c>(?P<=d)(?P<e>[".toList)) =
      "(?P<a>x)[(?P<b>]\\(?P<c>(?P<=d)(?P<e>[" := by
  have hshort (i : Nat) :
      ¬ OpenerAt shortOpener "(?P<a>x)[(?P<b>]\\(?P<c>(?P<=d)(?P<e>[".toList i := by
    obtain ⟨hwritten, hcuts⟩ := written_pieces "(?P<a>x)[(?P<b>]\\(?P<c>(?P<=d)(?P<e>[".toList
    intro hi
    rw [← hwritten] at hi
    have hmem := (exists_openerAt_short_iff hcuts).mp ⟨i, hi⟩
    exact absurd hmem (by decide +kernel)
  have hfirst : OpenerAt longOpener "(?P<a>x)[(?P<b>]\\(?P<c>(?P<=d)(?P<e>[".toList 0 :=
    ⟨not_shielded_of_char (c := '(') (k := 0) (by decide +kernel),
      "a>x)[(?P<b>]\\(?P<c>(?P<=d)(?P<e>[".toList, by decide +kernel, by simp [Marked]⟩
  have hlast : OpenerAt longOpener "(?P<a>x)[(?P<b>]\\(?P<c>(?P<=d)(?P<e>[".toList 30 :=
    ⟨not_shielded_of_char (c := '(') (k := 0) (by decide +kernel),
      "e>[".toList, by decide +kernel, by simp [Marked]⟩
  have hplaces : ∀ j ∈ [2, 32], ∃ i, j = i + 2 ∧
      OpenerAt longOpener "(?P<a>x)[(?P<b>]\\(?P<c>(?P<=d)(?P<e>[".toList i := by
    intro j hj
    rcases List.mem_pair.mp hj with rfl | rfl
    · exact ⟨0, rfl, hfirst⟩
    · exact ⟨30, rfl, hlast⟩
  exact ⟨hshort, hplaces, respell_restores_letters.2 _ _ hshort hplaces⟩

end Linting.Pattern
