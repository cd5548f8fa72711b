import Linting.Proofs.Pattern.Cutting

/-! Openers and their letters by place. -/

namespace Linting.Pattern
set_option autoImplicit false

/-! ## Places -/

/-- The piece that a place belongs to, and how far behind its start the place is. -/
def pieceAt? : List Piece → Nat → Option (Piece × Nat)
  | [], _ => none
  | piece :: ps, i =>
    if i < piece.text.length then some (piece, i) else pieceAt? ps (i - piece.text.length)

/-- Whether a piece is an escape pair or a closed class. -/
def Piece.Shields : Piece → Prop
  | escape _ => True
  | bracket _ => True
  | _ => False

/-- Whether a place of a text is in an escape pair or a closed class. -/
def Shielded (text : List Char) (i : Nat) : Prop :=
  ∃ ps piece k, written ps = text ∧ Cuts ps ∧ pieceAt? ps i = some (piece, k) ∧ piece.Shields

/-- Whether an opener of the given spelling starts at a place, outside of escape pairs and closed
classes, and is none of a look-behind. -/
def OpenerAt (spelling text : List Char) (i : Nat) : Prop :=
  ¬ Shielded text i ∧ ∃ after, text.drop i = spelling ++ after ∧ ¬ Marked after

def shortOpener : List Char := ['(', '?', '<']

def longOpener : List Char := ['(', '?', 'P', '<']

section

variable {piece : Piece} {ps : List Piece} {i : Nat} {spelling : List Char}

theorem shielded_iff (h : Cuts ps) :
    Shielded (written ps) i ↔ ∃ piece k, pieceAt? ps i = some (piece, k) ∧ piece.Shields := by
  constructor
  · rintro ⟨qs, piece, k, hwritten, hcuts, hat, hshields⟩
    have hpieces := pieces_written hcuts
    rw [hwritten, pieces_written h] at hpieces
    subst hpieces
    exact ⟨piece, k, hat, hshields⟩
  · rintro ⟨piece, k, hat, hshields⟩
    exact ⟨ps, piece, k, rfl, h, hat, hshields⟩

theorem not_shielded_of_char {text : List Char} {c : Char} {k : Nat}
    (h : pieceAt? (pieces text) i = some (.char c, k)) : ¬ Shielded text i := by
  obtain ⟨hwritten, hcuts⟩ := written_pieces text
  rw [← hwritten, shielded_iff hcuts, h]
  rintro ⟨piece, k', hat, hshields⟩
  obtain ⟨rfl, -⟩ := Prod.mk.inj (Option.some.inj hat)
  exact hshields

theorem shielded_within (h : Cuts (piece :: ps)) (hi : i < piece.text.length) :
    Shielded (written (piece :: ps)) i ↔ piece.Shields := by
  rw [shielded_iff h, pieceAt?, if_pos hi]
  simp

theorem shielded_behind (h : Cuts (piece :: ps)) (hi : piece.text.length ≤ i) :
    Shielded (written (piece :: ps)) i ↔ Shielded (written ps) (i - piece.text.length) := by
  rw [shielded_iff h, shielded_iff h.2, pieceAt?, if_neg (Nat.not_lt.mpr hi)]

/-- Behind a piece the openers of a text are those of the rest. -/
theorem openerAt_behind (h : Cuts (piece :: ps)) (hi : piece.text.length ≤ i) :
    OpenerAt spelling (written (piece :: ps)) i ↔
      OpenerAt spelling (written ps) (i - piece.text.length) := by
  have hdrop : (written (piece :: ps)).drop i = (written ps).drop (i - piece.text.length) := by
    rw [written_cons, List.drop_append, List.drop_eq_nil_of_le hi, List.nil_append]
  rw [OpenerAt, OpenerAt, shielded_behind h hi, hdrop]

theorem OpenerAt.getElem? {text : List Char} (h : OpenerAt spelling text i)
    (hspelling : spelling.head? = some '(') : text[i]? = some '(' := by
  obtain ⟨-, after, hdrop, -⟩ := h
  obtain ⟨rest, rfl⟩ := List.head?_eq_some_iff.mp hspelling
  have hhead := congrArg List.head? hdrop
  rwa [List.head?_drop] at hhead

/-- An opener that starts in a piece starts with it. -/
theorem openerAt_within (h : Cuts (piece :: ps)) (hi : i < piece.text.length)
    (hspelling : spelling.head? = some '(')
    (hopener : OpenerAt spelling (written (piece :: ps)) i) :
    i = 0 ∧ (piece = .opener ∨ piece = .char '(') := by
  have hhead := hopener.getElem? hspelling
  rw [written_cons, List.getElem?_append_left hi] at hhead
  have hshielded := hopener.1
  rw [shielded_within h hi] at hshielded
  cases piece with
  | escape c => exact absurd trivial hshielded
  | bracket body => exact absurd trivial hshielded
  | opener =>
    have hzero : i = 0 := by
      simp only [Piece.text, List.length_cons, List.length_nil] at hi
      by_contra hne
      obtain rfl | rfl : i = 1 ∨ i = 2 := by omega
      all_goals simp [Piece.text] at hhead
    exact ⟨hzero, .inl rfl⟩
  | char c =>
    obtain rfl : i = 0 := by
      simp only [Piece.text, List.length_cons, List.length_nil] at hi
      omega
    obtain rfl : c = '(' := Option.some.inj hhead
    exact ⟨rfl, .inr rfl⟩

theorem openerAt_append {ps' : List Piece} (h : Cuts (ps ++ ps')) (hi : (written ps).length ≤ i) :
    OpenerAt spelling (written (ps ++ ps')) i ↔
      OpenerAt spelling (written ps') (i - (written ps).length) := by
  induction ps generalizing i with
  | nil => rfl
  | cons piece ps ih =>
    have hcuts : Cuts (piece :: (ps ++ ps')) := h
    rw [written_cons, List.length_append] at hi
    rw [List.cons_append, openerAt_behind hcuts (by omega), ih hcuts.2 (by omega), Nat.sub_sub,
      written_cons, List.length_append]

/-- A character that starts no longer piece is a piece. -/
theorem exists_of_written_eq_cons {c : Char} {rest : List Char} (h : written ps = c :: rest)
    (hescape : c ≠ '\\') (hclass : c ≠ '[') (hopener : c ≠ '(') :
    ∃ ps', ps = .char c :: ps' ∧ written ps' = rest := by
  cases ps with
  | nil => cases h
  | cons piece ps =>
    rw [written_cons] at h
    cases piece with
    | escape d => exact absurd (List.cons.inj h).1.symm hescape
    | bracket body => exact absurd (List.cons.inj h).1.symm hclass
    | opener => exact absurd (List.cons.inj h).1.symm hopener
    | char d =>
      obtain ⟨rfl, hrest⟩ := List.cons.inj h
      exact ⟨ps, rfl, hrest⟩

theorem nameFollows_written_iff :
    NameFollows (written ps) ↔
      ∃ ps', ps = .char '?' :: .char '<' :: ps' ∧ ¬ Marked (written ps') := by
  constructor
  · rintro ⟨after, h, hmark⟩
    obtain ⟨ps₁, rfl, h₁⟩ := exists_of_written_eq_cons h (by decide) (by decide) (by decide)
    obtain ⟨ps₂, rfl, rfl⟩ := exists_of_written_eq_cons h₁ (by decide) (by decide) (by decide)
    exact ⟨ps₂, rfl, hmark⟩
  · rintro ⟨ps', rfl, hmark⟩
    exact ⟨written ps', rfl, hmark⟩

theorem openerAt_short_zero_iff (h : Cuts (piece :: ps)) :
    OpenerAt shortOpener (written (piece :: ps)) 0 ↔ piece = .opener := by
  have hpositive := piece.length_text_pos
  constructor
  · intro hopener
    rcases (openerAt_within h hpositive rfl hopener).2 with rfl | rfl
    · rfl
    · obtain ⟨-, after, hdrop, hmark⟩ := hopener
      exact absurd ⟨after, (List.cons.inj hdrop).2, hmark⟩ (h.1.2.2 rfl)
  · rintro rfl
    refine ⟨?_, written ps, rfl, h.1⟩
    rw [shielded_within h hpositive]
    exact id

/-- The openers without their letter are pieces of their own. -/
theorem openerAt_short_iff (h : Cuts ps) :
    OpenerAt shortOpener (written ps) i ↔ pieceAt? ps i = some (.opener, 0) := by
  induction ps generalizing i with
  | nil =>
    constructor
    · rintro ⟨-, after, hdrop, -⟩
      cases i <;> cases hdrop
    · intro hat
      cases hat
  | cons piece ps ih =>
    rw [pieceAt?]
    by_cases hi : i < piece.text.length
    · rw [if_pos hi]
      constructor
      · intro hopener
        obtain ⟨rfl, -⟩ := openerAt_within h hi rfl hopener
        rw [(openerAt_short_zero_iff h).mp hopener]
      · intro hat
        obtain ⟨rfl, rfl⟩ := Prod.mk.inj (Option.some.inj hat)
        exact (openerAt_short_zero_iff h).mpr rfl
    · rw [if_neg hi, openerAt_behind h (Nat.not_lt.mp hi), ih h.2]

/-- An opener with its letter is made up of four pieces. -/
theorem eq_of_openerAt_long (h : Cuts (piece :: ps))
    (hopener : OpenerAt longOpener (written (piece :: ps)) 0) :
    ∃ ps', piece :: ps = .char '(' :: .char '?' :: .char 'P' :: .char '<' :: ps' ∧
      ¬ Marked (written ps') := by
  have hpositive := piece.length_text_pos
  have hfirst := (openerAt_within h hpositive rfl hopener).2
  obtain ⟨-, after, hdrop, hmark⟩ := hopener
  have htext : written (piece :: ps) = '(' :: '?' :: 'P' :: '<' :: after := hdrop
  rcases hfirst with rfl | rfl
  · simp [written_cons, Piece.text] at htext
  · have h₀ : written ps = '?' :: 'P' :: '<' :: after := (List.cons.inj htext).2
    obtain ⟨ps₁, rfl, h₁⟩ := exists_of_written_eq_cons h₀ (by decide) (by decide) (by decide)
    obtain ⟨ps₂, rfl, h₂⟩ := exists_of_written_eq_cons h₁ (by decide) (by decide) (by decide)
    obtain ⟨ps₃, rfl, rfl⟩ := exists_of_written_eq_cons h₂ (by decide) (by decide) (by decide)
    exact ⟨ps₃, rfl, hmark⟩

theorem mem_opener_iff : .opener ∈ ps ↔ ∃ i, pieceAt? ps i = some (.opener, 0) := by
  induction ps with
  | nil => simp [pieceAt?]
  | cons piece ps ih =>
    have hpositive := piece.length_text_pos
    rw [List.mem_cons, ih]
    constructor
    · rintro (rfl | ⟨i, hi⟩)
      · exact ⟨0, rfl⟩
      · refine ⟨piece.text.length + i, ?_⟩
        rw [pieceAt?, if_neg (by omega), Nat.add_sub_cancel_left, hi]
    · rintro ⟨i, hi⟩
      rw [pieceAt?] at hi
      split at hi
      · exact .inl (Prod.mk.inj (Option.some.inj hi)).1.symm
      · exact .inr ⟨_, hi⟩

/-- A text has an opener without its letter exactly if one is among its pieces. -/
theorem exists_openerAt_short_iff (h : Cuts ps) :
    (∃ i, OpenerAt shortOpener (written ps) i) ↔ .opener ∈ ps := by
  simp only [openerAt_short_iff h, mem_opener_iff]

end

/-! ## Texts changed place by place -/

/-- A text in which each character is replaced, given its place. -/
def changed (f : Nat → Char → List Char) (start : Nat) (text : List Char) : List Char :=
  (text.zipIdx start).flatMap fun (c, j) => f j c

/-- A text with a letter in front of what stands at each of the places. -/
def lettered (places : List Nat) (text : List Char) : List Char :=
  changed (fun j c => if j ∈ places then ['P', c] else [c]) 0 text

/-- A text without what stands at each of the places. -/
def without (places : List Nat) (text : List Char) : List Char :=
  changed (fun j c => if j ∈ places then [] else [c]) 0 text

theorem changed_append (f : Nat → Char → List Char) (start : Nat) (text rest : List Char) :
    changed f start (text ++ rest) =
      changed f start text ++ changed f (start + text.length) rest := by
  rw [changed, List.zipIdx_append, List.flatMap_append]
  rfl

theorem changed_eq_self {f : Nat → Char → List Char} {start : Nat} {text : List Char}
    (h : ∀ j c, start ≤ j → j < start + text.length → f j c = [c]) :
    changed f start text = text := by
  induction text generalizing start with
  | nil => rfl
  | cons c text ih =>
    rw [List.length_cons] at h
    have hfirst : f start c = [c] := h start c (Nat.le_refl _) (by omega)
    have hrest : changed f (start + 1) text = text :=
      ih fun j c hj hj' => h j c (by omega) (by omega)
    change f start c ++ changed f (start + 1) text = _
    rw [hfirst, hrest]
    rfl

/-! ## Letters put in -/

/-- Induction over pieces, of which some are openers without their letter. -/
@[elab_as_elim]
theorem openersInduct {motive : List Piece → Prop} (ps : List Piece) (nil : motive [])
    (opener : ∀ ps, motive ps → motive (.opener :: ps))
    (other : ∀ piece ps, piece ≠ .opener → motive ps → motive (piece :: ps)) : motive ps := by
  induction ps with
  | nil => exact nil
  | cons piece ps ih =>
    by_cases hpiece : piece = .opener
    · rw [hpiece]
      exact opener ps ih
    · exact other piece ps hpiece ih

/-- The places of the angle brackets of the openers, the text starting at a place. -/
def angles : Nat → List Piece → List Nat
  | _, [] => []
  | start, .opener :: ps => (start + 2) :: angles (start + 3) ps
  | start, piece :: ps => angles (start + piece.text.length) ps

theorem angles_cons {piece : Piece} (hpiece : piece ≠ .opener) (start : Nat) (ps : List Piece) :
    angles start (piece :: ps) = angles (start + piece.text.length) ps := by
  cases piece with
  | opener => exact absurd rfl hpiece
  | _ => rfl

theorem le_of_mem_angles {start j : Nat} {ps : List Piece} (h : j ∈ angles start ps) :
    start + 2 ≤ j := by
  induction ps using openersInduct generalizing start with
  | nil => cases h
  | opener ps ih =>
    rcases List.mem_cons.mp h with rfl | h
    · exact Nat.le_refl _
    · have := ih h
      omega
  | other piece ps hpiece ih =>
    rw [angles_cons hpiece] at h
    have := ih h
    omega

theorem pairwise_angles (start : Nat) (ps : List Piece) :
    (angles start ps).Pairwise (· < ·) := by
  induction ps using openersInduct generalizing start with
  | nil => exact .nil
  | opener ps ih =>
    refine .cons (fun j hj => ?_) (ih (start + 3))
    have := le_of_mem_angles hj
    omega
  | other piece ps hpiece ih =>
    rw [angles_cons hpiece]
    exact ih _

theorem mem_angles_iff {ps : List Piece} (h : Cuts ps) {start j : Nat} :
    j ∈ angles start ps ↔ ∃ i, j = start + i + 2 ∧ OpenerAt shortOpener (written ps) i := by
  -- behind a piece the openers are counted from its start
  have hrest {piece : Piece} {ps : List Piece} (h : Cuts (piece :: ps)) {start : Nat} :
      (∃ i, j = start + piece.text.length + i + 2 ∧ OpenerAt shortOpener (written ps) i) ↔
        ∃ i, j = start + i + 2 ∧ piece.text.length ≤ i ∧
          OpenerAt shortOpener (written (piece :: ps)) i := by
    constructor
    · rintro ⟨i, rfl, hi⟩
      refine ⟨piece.text.length + i, by omega, by omega, ?_⟩
      rwa [openerAt_behind h (by omega), Nat.add_sub_cancel_left]
    · rintro ⟨i, rfl, hle, hi⟩
      rw [openerAt_behind h hle] at hi
      exact ⟨i - piece.text.length, by omega, hi⟩
  have hfirst {piece : Piece} {ps : List Piece} (h : Cuts (piece :: ps)) {i : Nat}
      (hi : OpenerAt shortOpener (written (piece :: ps)) i) :
      piece.text.length ≤ i ∨ i = 0 ∧ piece = .opener := by
    by_cases hlt : i < piece.text.length
    · obtain ⟨rfl, -⟩ := openerAt_within h hlt rfl hi
      exact .inr ⟨rfl, (openerAt_short_zero_iff h).mp hi⟩
    · exact .inl (Nat.not_lt.mp hlt)
  induction ps using openersInduct generalizing start with
  | nil =>
    simp only [angles, List.not_mem_nil, false_iff]
    rintro ⟨i, -, hi⟩
    rw [openerAt_short_iff h] at hi
    cases hi
  | opener ps ih =>
    change j ∈ (start + 2) :: angles (start + Piece.opener.text.length) ps ↔ _
    rw [List.mem_cons, (ih h.2).trans (hrest h)]
    constructor
    · rintro (rfl | ⟨i, rfl, -, hi⟩)
      · exact ⟨0, rfl, (openerAt_short_zero_iff h).mpr rfl⟩
      · exact ⟨i, rfl, hi⟩
    · rintro ⟨i, rfl, hi⟩
      rcases hfirst h hi with hle | ⟨rfl, -⟩
      · exact .inr ⟨i, rfl, hle, hi⟩
      · exact .inl rfl
  | other piece ps hpiece ih =>
    rw [angles_cons hpiece, (ih h.2).trans (hrest h)]
    constructor
    · rintro ⟨i, rfl, -, hi⟩
      exact ⟨i, rfl, hi⟩
    · rintro ⟨i, rfl, hi⟩
      rcases hfirst h hi with hle | ⟨-, hopener⟩
      · exact ⟨i, rfl, hle, hi⟩
      · exact absurd hopener hpiece

theorem Piece.respelled_eq_text {piece : Piece} (h : piece ≠ .opener) :
    piece.respelled = piece.text := by
  cases piece with
  | opener => exact absurd rfl h
  | _ => rfl

/-- Letters at the openers are what respelling puts in. -/
theorem changed_angles {places : List Nat} {start : Nat} {ps : List Piece}
    (h : ∀ j, start ≤ j → (j ∈ places ↔ j ∈ angles start ps)) :
    changed (fun j c => if j ∈ places then ['P', c] else [c]) start (written ps) =
      ps.flatMap Piece.respelled := by
  induction ps using openersInduct generalizing start with
  | nil => rfl
  | opener ps ih =>
    have hplaces (j : Nat) (hj : start ≤ j) :
        j ∈ places ↔ j = start + 2 ∨ j ∈ angles (start + 3) ps :=
      (h j hj).trans List.mem_cons
    have hrest : ∀ j, start + 3 ≤ j → (j ∈ places ↔ j ∈ angles (start + 3) ps) := by
      intro j hj
      rw [hplaces j (by omega), or_iff_right (by omega)]
    have hnot (j : Nat) (hj : start ≤ j) (hj' : j < start + 2) : j ∉ places := by
      rw [hplaces j hj]
      rintro (rfl | hmem)
      · omega
      · have := le_of_mem_angles hmem
        omega
    have hat : start + 2 ∈ places := (hplaces _ (by omega)).mpr (.inl rfl)
    rw [written_cons, changed_append, List.flatMap_cons,
      show start + Piece.opener.text.length = start + 3 from rfl, ih hrest]
    simp [changed, Piece.text, Piece.respelled, hnot, hat]
  | other piece ps hpiece ih =>
    rw [angles_cons hpiece] at h
    have hpositive := piece.length_text_pos
    have hnot (j : Nat) (hj : start ≤ j) (hj' : j < start + piece.text.length) :
        j ∉ places := by
      rw [h j hj]
      intro hmem
      have := le_of_mem_angles hmem
      omega
    rw [written_cons, changed_append, List.flatMap_cons, ih fun j hj => h j (by omega),
      Piece.respelled_eq_text hpiece, changed_eq_self]
    intro j c hj hj'
    rw [if_neg (hnot j hj hj')]

/-- The places that letters in front of the given places have, the first of them being as many
places further as there have been letters before. -/
def shifted (count : Nat) (places : List Nat) : List Nat :=
  (places.zipIdx count).map fun (j, k) => j + k

theorem le_of_mem_shifted {count j start : Nat} {ps : List Piece}
    (h : j ∈ shifted count (angles start ps)) : start + count + 2 ≤ j := by
  obtain ⟨⟨a, k⟩, hmem, rfl⟩ := List.mem_map.mp h
  obtain ⟨hk, -, ha⟩ := List.mem_zipIdx hmem
  have ha' : a ∈ angles start ps := ha ▸ List.getElem_mem _
  have := le_of_mem_angles ha'
  change start + count + 2 ≤ a + k
  omega

/-- Without the letters put in a respelled text is what it was. -/
theorem changed_shifted {places : List Nat} {start count : Nat} {ps : List Piece}
    (h : ∀ j, start + count ≤ j → (j ∈ places ↔ j ∈ shifted count (angles start ps))) :
    changed (fun j c => if j ∈ places then [] else [c]) (start + count)
      (ps.flatMap Piece.respelled) = written ps := by
  induction ps using openersInduct generalizing start count with
  | nil => rfl
  | opener ps ih =>
    have hplaces (j : Nat) (hj : start + count ≤ j) :
        j ∈ places ↔ j = start + 2 + count ∨ j ∈ shifted (count + 1) (angles (start + 3) ps) :=
      (h j hj).trans List.mem_cons
    have hrest : ∀ j, start + 3 + (count + 1) ≤ j →
        (j ∈ places ↔ j ∈ shifted (count + 1) (angles (start + 3) ps)) := by
      intro j hj
      rw [hplaces j (by omega), or_iff_right (by omega)]
    have hnot (j : Nat) (hj : start + count ≤ j) (hj' : j < start + count + 4)
        (hne : j ≠ start + count + 2) : j ∉ places := by
      rw [hplaces j hj]
      rintro (rfl | hmem)
      · omega
      · have := le_of_mem_shifted hmem
        omega
    have hat : start + count + 2 ∈ places := (hplaces _ (by omega)).mpr (.inl (by omega))
    have hstart : start + count + Piece.opener.respelled.length = start + 3 + (count + 1) := by
      simp only [Piece.respelled, List.length_cons, List.length_nil]
      omega
    have h₀ := hnot (start + count) (by omega) (by omega) (by omega)
    have h₁ := hnot (start + count + 1) (by omega) (by omega) (by omega)
    have h₃ := hnot (start + count + 3) (by omega) (by omega) (by omega)
    rw [written_cons, List.flatMap_cons, changed_append, hstart, ih hrest]
    simp [changed, Piece.text, Piece.respelled, h₀, h₁, h₃, hat]
  | other piece ps hpiece ih =>
    rw [angles_cons hpiece] at h
    have hnot (j : Nat) (hj : start + count ≤ j) (hj' : j < start + count + piece.text.length) :
        j ∉ places := by
      rw [h j hj]
      intro hmem
      have := le_of_mem_shifted hmem
      omega
    have hstart : start + count + piece.text.length = start + piece.text.length + count := by
      omega
    rw [written_cons, List.flatMap_cons, changed_append, Piece.respelled_eq_text hpiece, hstart,
      ih fun j hj => h j (by omega), changed_eq_self]
    intro j c hj hj'
    rw [if_neg (hnot j hj hj')]

theorem length_respelled (start : Nat) (ps : List Piece) :
    (ps.flatMap Piece.respelled).length = (written ps).length + (angles start ps).length := by
  induction ps using openersInduct generalizing start with
  | nil => rfl
  | opener ps ih =>
    rw [List.flatMap_cons, List.length_append, written_cons, List.length_append, ih (start + 3)]
    simp only [Piece.respelled, Piece.text, angles, List.length_cons, List.length_nil]
    omega
  | other piece ps hpiece ih =>
    rw [List.flatMap_cons, List.length_append, written_cons, List.length_append,
      angles_cons hpiece, Piece.respelled_eq_text hpiece, ih (start + piece.text.length)]
    omega

end Linting.Pattern
