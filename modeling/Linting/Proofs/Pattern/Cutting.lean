import Linting.Pattern.Spelling
import Mathlib.Data.List.Basic

/-! How a text falls into pieces, said of each piece and what follows it. Main fact: every text
falls into pieces in one way, and they are the ones it is cut into. -/

namespace Linting.Pattern
set_option autoImplicit false

/-! ## Classes -/

/-- What a class may hold up to the bracket that closes it: pairs of a backslash and a character,
and other characters but for a closing bracket. -/
inductive Interior : List Char → Prop where
  | nil : Interior []
  | pair (c : Char) {w : List Char} (h : Interior w) : Interior ('\\' :: c :: w)
  | char {c : Char} {w : List Char} (hescape : c ≠ '\\') (hclose : c ≠ ']') (h : Interior w) :
    Interior (c :: w)

/-- Whether a text comes to a closing bracket that no backslash escapes. -/
def Closes (text : List Char) : Prop :=
  ∃ inner behind, Interior inner ∧ text = inner ++ ']' :: behind

/-- How a class ends, any caret read, in front of a text. A closing bracket that comes first is a
member of the class, unless there is no other one that could close it. -/
inductive EndsClass : List Char → List Char → Prop where
  | members {inner : List Char} (behind : List Char) (h : Interior inner) (hne : inner ≠ []) :
    EndsClass (inner ++ [']']) behind
  | bracketFirst {inner : List Char} (behind : List Char) (h : Interior inner) :
    EndsClass (']' :: (inner ++ [']'])) behind
  | bracketAlone {behind : List Char} (h : ¬ Closes behind) : EndsClass [']'] behind

/-- What follows the opening bracket of a closed class, in front of a text. -/
inductive ClosedClass : List Char → List Char → Prop where
  | negated {body behind : List Char} (h : EndsClass body behind) :
    ClosedClass ('^' :: body) behind
  | plain {body behind : List Char} (hcaret : body.head? ≠ some '^') (h : EndsClass body behind) :
    ClosedClass body behind

theorem not_closes_nil : ¬ Closes [] := by
  rintro ⟨inner, behind, -, h⟩
  simp at h

theorem closes_bracket (text : List Char) : Closes (']' :: text) := ⟨[], text, .nil, rfl⟩

theorem not_closes_lone : ¬ Closes ['\\'] := by
  rintro ⟨inner, behind, hinner, h⟩
  cases hinner with
  | nil => simp at h
  | pair c hw => simp at h
  | char hescape hclose hw => simp at h

theorem closes_pair_iff {c : Char} {text : List Char} :
    Closes ('\\' :: c :: text) ↔ Closes text := by
  constructor
  · rintro ⟨inner, behind, hinner, h⟩
    cases hinner with
    | nil => simp at h
    | @pair d w hw =>
      simp only [List.cons_append, List.cons.injEq, true_and] at h
      exact ⟨w, behind, hw, h.2⟩
    | char hescape hclose hw =>
      simp only [List.cons_append, List.cons.injEq] at h
      exact absurd h.1.symm hescape
  · rintro ⟨inner, behind, hinner, rfl⟩
    exact ⟨'\\' :: c :: inner, behind, .pair c hinner, rfl⟩

theorem closes_char_iff {c : Char} {text : List Char} (hescape : c ≠ '\\') (hclose : c ≠ ']') :
    Closes (c :: text) ↔ Closes text := by
  constructor
  · rintro ⟨inner, behind, hinner, h⟩
    cases hinner with
    | nil =>
      simp only [List.nil_append, List.cons.injEq] at h
      exact absurd h.1 hclose
    | pair d hw =>
      simp only [List.cons_append, List.cons.injEq] at h
      exact absurd h.1 hescape
    | @char d w hd hd' hw =>
      simp only [List.cons_append, List.cons.injEq] at h
      exact ⟨w, behind, hw, h.2⟩
  · rintro ⟨inner, behind, hinner, rfl⟩
    exact ⟨c :: inner, behind, .char hescape hclose hinner, rfl⟩

theorem throughBracket?_cons {c : Char} (hclose : c ≠ ']') (hescape : c ≠ '\\')
    (rest : List Char) : throughBracket? (c :: rest) = (throughBracket? rest).map (c :: ·) := by
  rw [throughBracket?]
  · exact fun h => absurd h hclose
  · exact fun h => absurd h hescape
  · exact fun d rest' h => absurd h hescape

theorem throughBracket?_append {inner : List Char} (h : Interior inner) (behind : List Char) :
    throughBracket? (inner ++ ']' :: behind) = some (inner ++ [']']) := by
  induction h with
  | nil => rfl
  | @pair c w _ ih =>
    change throughBracket? ('\\' :: c :: (w ++ ']' :: behind)) = _
    rw [throughBracket?, ih]
    rfl
  | @char c w hescape hclose _ ih =>
    change throughBracket? (c :: (w ++ ']' :: behind)) = _
    rw [throughBracket?_cons hclose hescape, ih]
    rfl

theorem throughBracket?_eq_none {text : List Char} (h : ¬ Closes text) :
    throughBracket? text = none := by
  fun_induction throughBracket? text with
  | case1 => rfl
  | case2 rest => exact absurd (closes_bracket rest) h
  | case3 => rfl
  | case4 c rest ih => rw [ih fun hrest => h (closes_pair_iff.mpr hrest)]; rfl
  | case5 c rest hclose hlone hpair ih =>
    have hescape : c ≠ '\\' := by
      rintro rfl
      cases rest with
      | nil => exact hlone rfl rfl
      | cons d rest => exact hpair d rest rfl rfl
    rw [ih fun hrest => h ((closes_char_iff hescape hclose).mpr hrest)]
    rfl

theorem afterCaret?_of_head? {text : List Char} (h : text.head? ≠ some ']') :
    afterCaret? text = throughBracket? text := by
  unfold afterCaret?
  split
  · exact absurd rfl h
  · rfl

theorem classBody?_of_head? {text : List Char} (h : text.head? ≠ some '^') :
    classBody? text = afterCaret? text := by
  unfold classBody?
  split
  · exact absurd rfl h
  · rfl

theorem afterCaret?_append {body behind : List Char} (h : EndsClass body behind) :
    afterCaret? (body ++ behind) = some body := by
  cases h with
  | @members inner behind hinner hne =>
    have hfirst : (inner ++ ']' :: behind).head? ≠ some ']' := by
      cases hinner with
      | nil => exact absurd rfl hne
      | pair c hw => simp
      | char hescape hclose hw => simpa using hclose
    rw [← List.append_cons, afterCaret?_of_head? hfirst, throughBracket?_append hinner]
  | @bracketFirst inner behind hinner =>
    have hthrough := throughBracket?_append hinner behind
    rw [List.append_cons] at hthrough
    change some (']' :: (throughBracket? (inner ++ [']'] ++ behind)).getD []) = _
    rw [hthrough]
    rfl
  | bracketAlone hbehind =>
    change some (']' :: (throughBracket? behind).getD []) = _
    rw [throughBracket?_eq_none hbehind]
    rfl

theorem afterCaret?_eq_none {text : List Char} (h : ¬ Closes text) : afterCaret? text = none := by
  unfold afterCaret?
  split
  · next rest => exact absurd (closes_bracket rest) h
  · exact throughBracket?_eq_none h

theorem EndsClass.ne_nil {body behind : List Char} (h : EndsClass body behind) : body ≠ [] := by
  cases h <;> simp

theorem exists_endsClass {text : List Char} (h : Closes text) :
    ∃ body behind, text = body ++ behind ∧ EndsClass body behind := by
  obtain ⟨inner, behind, hinner, rfl⟩ := h
  cases inner with
  | cons c w => exact ⟨c :: w ++ [']'], behind, by simp, .members behind hinner (by simp)⟩
  | nil =>
    by_cases hbehind : Closes behind
    · obtain ⟨inner, behind, hinner, rfl⟩ := hbehind
      exact ⟨']' :: (inner ++ [']']), behind, by simp, .bracketFirst behind hinner⟩
    · exact ⟨[']'], behind, rfl, .bracketAlone hbehind⟩

theorem classBody?_append {body behind : List Char} (h : ClosedClass body behind) :
    classBody? (body ++ behind) = some body := by
  cases h with
  | @negated body behind h =>
    change (afterCaret? (body ++ behind)).map ('^' :: ·) = _
    rw [afterCaret?_append h]
    rfl
  | plain hcaret h =>
    have hfirst : (body ++ behind).head? ≠ some '^' := by
      rwa [List.head?_append_of_ne_nil _ h.ne_nil]
    rw [classBody?_of_head? hfirst, afterCaret?_append h]

theorem classBody?_eq_none {text : List Char} (h : ¬ Closes text) : classBody? text = none := by
  unfold classBody?
  split
  · next rest =>
    rw [afterCaret?_eq_none fun hrest => h ((closes_char_iff (by decide) (by decide)).mpr hrest)]
    rfl
  · exact afterCaret?_eq_none h

theorem exists_closedClass {text : List Char} (h : Closes text) :
    ∃ body behind, text = body ++ behind ∧ ClosedClass body behind := by
  by_cases hcaret : text.head? = some '^'
  · obtain ⟨rest, rfl⟩ := List.head?_eq_some_iff.mp hcaret
    obtain ⟨body, behind, rfl, hends⟩ :=
      exists_endsClass ((closes_char_iff (by decide) (by decide)).mp h)
    exact ⟨'^' :: body, behind, rfl, .negated hends⟩
  · obtain ⟨body, behind, rfl, hends⟩ := exists_endsClass h
    refine ⟨body, behind, rfl, .plain (fun hbody => hcaret ?_) hends⟩
    obtain ⟨rest, rfl⟩ := List.head?_eq_some_iff.mp hbody
    rfl

/-- A class holds a bracket that closes it. -/
theorem ClosedClass.closes {body behind : List Char} (h : ClosedClass body behind) :
    Closes (body ++ behind) := by
  by_contra hnot
  have hbody := classBody?_append h
  rw [classBody?_eq_none hnot] at hbody
  cases hbody

/-- Of the text behind a class it matters whether a bracket closes there, and nothing else. -/
theorem EndsClass.of_closes_iff {body behind behind' : List Char} (h : EndsClass body behind)
    (hcloses : Closes behind ↔ Closes behind') : EndsClass body behind' := by
  cases h with
  | members _ hinner hne => exact .members _ hinner hne
  | bracketFirst _ hinner => exact .bracketFirst _ hinner
  | bracketAlone hbehind => exact .bracketAlone fun h => hbehind (hcloses.mpr h)

theorem ClosedClass.of_closes_iff {body behind behind' : List Char} (h : ClosedClass body behind)
    (hcloses : Closes behind ↔ Closes behind') : ClosedClass body behind' := by
  cases h with
  | negated h => exact .negated (h.of_closes_iff hcloses)
  | plain hcaret h => exact .plain hcaret (h.of_closes_iff hcloses)

/-! ## Pieces in a row -/

/-- What makes a look-behind of what would be an opener. -/
def Marked (after : List Char) : Prop := after.head? = some '=' ∨ after.head? = some '!'

/-- Whether a text goes on an opener that lacks its letter, the parenthesis read. -/
def NameFollows (text : List Char) : Prop :=
  ∃ after, text = '?' :: '<' :: after ∧ ¬ Marked after

/-- Whether a piece is the first one of a text, given what follows it there. -/
def Piece.Starts : Piece → List Char → Prop
  | escape _, _ => True
  | bracket body, behind => ClosedClass body behind
  | opener, behind => ¬ Marked behind
  | char c, behind =>
    (c = '\\' → behind = []) ∧ (c = '[' → ¬ Closes behind) ∧ (c = '(' → ¬ NameFollows behind)

/-- The text that pieces make up. -/
def written (ps : List Piece) : List Char := ps.flatMap Piece.text

/-- Whether each of the pieces is the first one of the text from there on. -/
def Cuts : List Piece → Prop
  | [] => True
  | piece :: ps => piece.Starts (written ps) ∧ Cuts ps

theorem isLookbehind_iff (after : List Char) : isLookbehind after = true ↔ Marked after := by
  unfold isLookbehind Marked
  split
  · simp
  · simp
  · next hequal hbang =>
    cases after with
    | nil => simp
    | cons c rest =>
      have hc : c ≠ '=' := fun h => hequal rest (by rw [h])
      have hc' : c ≠ '!' := fun h => hbang rest (by rw [h])
      simp [hc, hc']

theorem written_cons (piece : Piece) (ps : List Piece) :
    written (piece :: ps) = piece.text ++ written ps := List.flatMap_cons

theorem Piece.length_text_pos (piece : Piece) : 0 < piece.text.length := by
  cases piece <;> simp [Piece.text]

theorem firstPiece_char {c : Char} {rest : List Char} (h : (Piece.char c).Starts rest) :
    firstPiece c rest = .char c := by
  obtain ⟨hescape, hclass, hopener⟩ := h
  unfold firstPiece
  split
  · next d rest => exact absurd (hescape rfl) (by simp)
  · next rest =>
    rw [classBody?_eq_none (hclass rfl)]
  · next after =>
    have hmarked : Marked after := by
      by_contra hnot
      exact hopener rfl ⟨after, rfl, hnot⟩
    rw [if_pos ((isLookbehind_iff after).mpr hmarked)]
  · rfl

/-- A text that a piece is the first one of is cut there. -/
theorem pieces_append {piece : Piece} {behind : List Char} (h : piece.Starts behind) :
    pieces (piece.text ++ behind) = piece :: pieces behind := by
  cases piece with
  | escape c =>
    change pieces ('\\' :: c :: behind) = _
    rw [pieces]
    rfl
  | bracket body =>
    have hpiece : firstPiece '[' (body ++ behind) = .bracket body := by
      simp only [firstPiece, classBody?_append h]
    change pieces ('[' :: (body ++ behind)) = _
    rw [pieces]
    simp [hpiece, Piece.text]
  | opener =>
    have hmark : isLookbehind behind = false := by
      rw [Bool.eq_false_iff]
      exact fun hlook => h ((isLookbehind_iff behind).mp hlook)
    have hpiece : firstPiece '(' ('?' :: '<' :: behind) = .opener := by
      simp [firstPiece, hmark]
    change pieces ('(' :: '?' :: '<' :: behind) = _
    rw [pieces, hpiece]
    rfl
  | char c =>
    change pieces (c :: behind) = _
    rw [pieces, firstPiece_char h]
    rfl

/-- Every text has a first piece. -/
theorem exists_starts (c : Char) (rest : List Char) :
    ∃ (piece : Piece) (behind : List Char),
      c :: rest = piece.text ++ behind ∧ piece.Starts behind := by
  have hchar (hclass : c = '[' → ¬ Closes rest) (hopener : c = '(' → ¬ NameFollows rest)
      (hescape : c = '\\' → rest = []) :
      ∃ (piece : Piece) (behind : List Char), c :: rest = piece.text ++ behind ∧
        piece.Starts behind :=
    ⟨.char c, rest, rfl, hescape, hclass, hopener⟩
  by_cases hescape : c = '\\'
  · subst hescape
    cases rest with
    | nil => exact hchar (by simp) (by simp) fun _ => rfl
    | cons d rest => exact ⟨.escape d, rest, rfl, trivial⟩
  by_cases hclass : c = '[' ∧ Closes rest
  · obtain ⟨rfl, hcloses⟩ := hclass
    obtain ⟨body, behind, rfl, hclosed⟩ := exists_closedClass hcloses
    exact ⟨.bracket body, behind, rfl, hclosed⟩
  by_cases hopener : c = '(' ∧ NameFollows rest
  · obtain ⟨rfl, after, rfl, hmark⟩ := hopener
    exact ⟨.opener, after, rfl, hmark⟩
  · exact hchar (fun hc h => hclass ⟨hc, h⟩) (fun hc h => hopener ⟨hc, h⟩)
      fun hc => absurd hc hescape

/-- The pieces of a text are those it falls into. -/
theorem pieces_written {ps : List Piece} (h : Cuts ps) : pieces (written ps) = ps := by
  induction ps with
  | nil =>
    rw [written, List.flatMap_nil, pieces]
  | cons piece ps ih =>
    rw [written_cons, pieces_append h.1, ih h.2]

theorem written_pieces (text : List Char) : written (pieces text) = text ∧ Cuts (pieces text) := by
  induction hlength : text.length using Nat.strongRecOn generalizing text with
  | ind n ih =>
    cases text with
    | nil =>
      rw [pieces]
      exact ⟨rfl, trivial⟩
    | cons c rest =>
      obtain ⟨piece, behind, htext, hstarts⟩ := exists_starts c rest
      have hlonger : behind.length < n := by
        have hpiece := piece.length_text_pos
        rw [htext, List.length_append] at hlength
        omega
      obtain ⟨hbehind, hcuts⟩ := ih _ hlonger behind rfl
      rw [htext, pieces_append hstarts]
      refine ⟨?_, ?_, hcuts⟩
      · rw [written_cons, hbehind]
      · rwa [hbehind]

/-- Every text falls into pieces in one way. -/
theorem existsUnique_cuts (text : List Char) : ∃! ps, written ps = text ∧ Cuts ps := by
  refine ⟨pieces text, written_pieces text, ?_⟩
  rintro ps ⟨rfl, hcuts⟩
  exact (pieces_written hcuts).symm

end Linting.Pattern
