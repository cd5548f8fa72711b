import Linting.Proofs.Pattern.Cutting
import Linting.Proofs.Regex.Sequences

/-! The pieces of a text, read off its tokens. The respelling of a text is that of its first piece
and of what follows; a piece never ends inside a token, and the set that a layout cuts off is one
piece. Main fact: respelling puts letters into openers and does nothing else. -/

namespace Linting
set_option autoImplicit false

/-! ## Texts and tokens -/

namespace Regex

/-- The characters that tokens were read from. -/
def Token.chars (ts : List Token) : List Char := ts.flatMap Token.text

/-- Whether tokens are those of a text: a backslash is a token only with what follows it. -/
def Lexed (ts : List Token) : Prop := .plain '\\' ∉ ts

theorem Lexed.append {ts us : List Token} (h : Lexed ts) (h' : Lexed us) : Lexed (ts ++ us) :=
  fun hmem => (List.mem_append.mp hmem).elim h h'

theorem Lexed.of_append {ts us : List Token} (h : Lexed (ts ++ us)) : Lexed ts ∧ Lexed us :=
  ⟨fun hmem => h (List.mem_append_left _ hmem), fun hmem => h (List.mem_append_right _ hmem)⟩

theorem Lexed.tail {t : Token} {ts : List Token} (h : Lexed (t :: ts)) : Lexed ts :=
  List.not_mem_of_not_mem_cons h

theorem Lexed.head {c : Char} {ts : List Token} (h : Lexed (.plain c :: ts)) : c ≠ '\\' := by
  rintro rfl
  exact h (List.mem_cons_self ..)

theorem tokens_plain {c : Char} (hc : c ≠ '\\') (rest : List Char) :
    tokens (c :: rest) = (.plain c :: (tokens rest).1, (tokens rest).2) := by
  rw [tokens]
  · exact fun h => absurd h hc
  · exact fun d rest' h => absurd h hc

theorem tokens_chars {ts : List Token} (h : Lexed ts) : tokens (Token.chars ts) = (ts, false) := by
  induction ts with
  | nil => rfl
  | cons t ts ih =>
    cases t with
    | escaped c =>
      change tokens ('\\' :: c :: Token.chars ts) = _
      rw [tokens, ih h.tail]
    | plain c =>
      change tokens (c :: Token.chars ts) = _
      rw [tokens_plain h.head, ih h.tail]

theorem lexed_of_tokens {text : List Char} {ts : List Token} (h : tokens text = (ts, false)) :
    Lexed ts ∧ text = Token.chars ts := by
  induction text using tokens.induct generalizing ts with
  | case1 =>
    cases h
    exact ⟨by simp [Lexed], rfl⟩
  | case2 => cases h
  | case3 c rest ts' lone hrest ih =>
    rw [tokens, hrest] at h
    cases h
    obtain ⟨hlexed, htext⟩ := ih hrest
    exact ⟨by simpa [Lexed] using hlexed, by rw [htext]; rfl⟩
  | case4 c rest hlone hpair ts' lone hrest ih =>
    have hc : c ≠ '\\' := by
      rintro rfl
      cases rest with
      | nil => exact hlone rfl rfl
      | cons d rest => exact hpair d rest rfl rfl
    rw [tokens_plain hc, hrest] at h
    cases h
    obtain ⟨hlexed, htext⟩ := ih hrest
    exact ⟨by simpa [Lexed, Ne.symm hc] using hlexed, by rw [htext]; rfl⟩

/-- Where a text has a character that is no backslash, its tokens have it too. -/
theorem chars_eq_cons {ts : List Token} {c : Char} {rest : List Char} (hc : c ≠ '\\')
    (h : Token.chars ts = c :: rest) : ∃ us, ts = .plain c :: us ∧ rest = Token.chars us := by
  cases ts with
  | nil => cases h
  | cons t us =>
    cases t with
    | escaped d => exact absurd (List.cons.inj h).1.symm hc
    | plain d =>
      obtain ⟨rfl, rfl⟩ := List.cons.inj h
      exact ⟨us, rfl, rfl⟩

end Regex

open Regex (Token Lexed)

namespace Pattern

/-! ## Respelling piece by piece -/

/-- A text with the letter in every opener. -/
def respellChars (text : List Char) : List Char := (pieces text).flatMap Piece.respelled

theorem respell_toList (pattern : String) :
    (respell pattern).toList = respellChars pattern.toList :=
  String.toList_ofList

theorem respellChars_nil : respellChars [] = [] := by
  rw [respellChars, pieces]
  rfl

theorem respellChars_cons (c : Char) (rest : List Char) :
    respellChars (c :: rest) = (firstPiece c rest).respelled ++
      respellChars (rest.drop ((firstPiece c rest).text.length - 1)) := by
  rw [respellChars, pieces]
  rfl

theorem respellChars_escape (c : Char) (rest : List Char) :
    respellChars ('\\' :: c :: rest) = '\\' :: c :: respellChars rest :=
  respellChars_cons '\\' (c :: rest)

theorem respellChars_set {rest behind body : List Char} (hrest : rest = body ++ behind)
    (h : classBody? rest = some body) :
    respellChars ('[' :: rest) = '[' :: body ++ respellChars behind := by
  have hpiece : firstPiece '[' rest = .bracket body := by
    simp only [firstPiece, h]
  rw [respellChars_cons, hpiece, hrest]
  change '[' :: body ++ respellChars ((body ++ behind).drop body.length) = _
  rw [List.drop_left]

theorem respellChars_open {rest : List Char} (h : classBody? rest = none) :
    respellChars ('[' :: rest) = '[' :: respellChars rest := by
  have hpiece : firstPiece '[' rest = .char '[' := by
    simp only [firstPiece, h]
  rw [respellChars_cons, hpiece]
  rfl

theorem respellChars_opener {after : List Char} (h : isLookbehind after = false) :
    respellChars ('(' :: '?' :: '<' :: after) =
      '(' :: '?' :: 'P' :: '<' :: respellChars after := by
  have hpiece : firstPiece '(' ('?' :: '<' :: after) = .opener := by
    simp [firstPiece, h]
  rw [respellChars_cons, hpiece]
  rfl

theorem respellChars_char {c : Char} {rest : List Char} (hescape : c ≠ '\\') (hset : c ≠ '[')
    (hopener : c = '(' → ∀ after, rest = '?' :: '<' :: after → isLookbehind after = true) :
    respellChars (c :: rest) = c :: respellChars rest := by
  have hpiece : firstPiece c rest = .char c := by
    unfold firstPiece
    split
    · next h => exact absurd rfl hescape
    · exact absurd rfl hset
    · next after => rw [if_pos (hopener rfl after rfl)]
    · rfl
  rw [respellChars_cons, hpiece]
  rfl

/-! ## Sets and look-behinds, read off the tokens -/

theorem isLookbehind_chars (ts : List Token) :
    isLookbehind (Token.chars ts) = ts.head?.any Regex.isBehindMark := by
  cases ts with
  | nil => rfl
  | cons t ts =>
    cases t with
    | escaped c => rfl
    | plain c =>
      by_cases hequal : c = '='
      · rw [hequal]
        rfl
      by_cases hbang : c = '!'
      · rw [hbang]
        rfl
      · have hmark : Regex.isBehindMark (.plain c) = false := by
          simp [Regex.isBehindMark, hequal, hbang]
        change isLookbehind (c :: Token.chars ts) = Regex.isBehindMark (.plain c)
        rw [hmark]
        unfold isLookbehind
        split
        · next heq => exact absurd (List.cons.inj heq).1 hequal
        · next heq => exact absurd (List.cons.inj heq).1 hbang
        · rfl

theorem throughBracket?_chars {ts : List Token} (h : Lexed ts) :
    throughBracket? (Token.chars ts) =
      (Regex.throughBracket? ts).map fun p => Token.chars p.1 := by
  induction ts with
  | nil => rfl
  | cons t ts ih =>
    rw [Regex.throughBracket?]
    cases t with
    | escaped c =>
      rw [if_neg (by simp)]
      change throughBracket? ('\\' :: c :: Token.chars ts) = _
      rw [throughBracket?, ih h.tail, Option.map_map, Option.map_map]
      rfl
    | plain c =>
      by_cases hclose : c = ']'
      · rw [hclose, if_pos rfl]
        rfl
      · rw [if_neg (by simpa using hclose)]
        change throughBracket? (c :: Token.chars ts) = _
        rw [throughBracket?_cons hclose h.head, ih h.tail, Option.map_map, Option.map_map]
        rfl

/-- The text of a set ends where a token ends. -/
theorem afterCaret?_chars {ts : List Token} {body : List Char} (hlexed : Lexed ts)
    (h : afterCaret? (Token.chars ts) = some body) :
    ∃ w behind, ts = w ++ behind ∧ body = Token.chars w := by
  unfold afterCaret? at h
  split at h
  · next rest heq =>
    obtain ⟨us, rfl, rfl⟩ := Regex.chars_eq_cons (by decide) heq
    rw [throughBracket?_chars hlexed.tail] at h
    cases hthrough : Regex.throughBracket? us with
    | none =>
      rw [hthrough] at h
      cases h
      exact ⟨[.plain ']'], us, rfl, rfl⟩
    | some p =>
      rw [hthrough] at h
      cases h
      obtain ⟨inner, hbody, -, rfl⟩ := Regex.throughBracket?_eq_some_iff.mp hthrough
      exact ⟨.plain ']' :: p.1, p.2, rfl, rfl⟩
  · rw [throughBracket?_chars hlexed] at h
    obtain ⟨p, hthrough, rfl⟩ := Option.map_eq_some_iff.mp h
    obtain ⟨inner, hbody, -, hts⟩ := Regex.throughBracket?_eq_some_iff.mp hthrough
    exact ⟨p.1, p.2, hts, rfl⟩

theorem classBody?_chars {ts : List Token} {body : List Char} (hlexed : Lexed ts)
    (h : classBody? (Token.chars ts) = some body) :
    ∃ w behind, ts = w ++ behind ∧ body = Token.chars w := by
  unfold classBody? at h
  split at h
  · next rest heq =>
    obtain ⟨us, rfl, rfl⟩ := Regex.chars_eq_cons (by decide) heq
    obtain ⟨inside, hinside, rfl⟩ := Option.map_eq_some_iff.mp h
    obtain ⟨w, behind, rfl, rfl⟩ := afterCaret?_chars hlexed.tail hinside
    exact ⟨.plain '^' :: w, behind, rfl, rfl⟩
  · exact afterCaret?_chars hlexed h

theorem afterCaret?_set {first : Token} {inner : List Token} (hinner : .plain ']' ∉ inner)
    (behind : List Token) (hlexed : Lexed (first :: (inner ++ [.plain ']']) ++ behind)) :
    afterCaret? (Token.chars (first :: (inner ++ [.plain ']']) ++ behind)) =
      some (Token.chars (first :: (inner ++ [.plain ']']))) := by
  by_cases hfirst : first = .plain ']'
  · subst hfirst
    have hthrough : Regex.throughBracket? (inner ++ [.plain ']'] ++ behind) =
        some (inner ++ [.plain ']'], behind) :=
      Regex.throughBracket?_eq_some_iff.mpr ⟨inner, rfl, hinner, rfl⟩
    change some (']' :: (throughBracket? (Token.chars (inner ++ [.plain ']'] ++ behind))).getD []) =
      _
    have hrest : Lexed (inner ++ [.plain ']'] ++ behind) := hlexed.tail
    rw [throughBracket?_chars hrest, hthrough]
    rfl
  · have hthrough : Regex.throughBracket? (first :: (inner ++ [.plain ']']) ++ behind) =
        some (first :: (inner ++ [.plain ']']), behind) := by
      refine Regex.throughBracket?_eq_some_iff.mpr ⟨first :: inner, rfl, ?_, rfl⟩
      exact List.not_mem_cons_of_ne_of_not_mem (Ne.symm hfirst) hinner
    unfold afterCaret?
    split
    · next rest heq =>
      obtain ⟨us, hus, -⟩ := Regex.chars_eq_cons (by decide) heq
      exact absurd (List.cons.inj hus).1 hfirst
    · rw [throughBracket?_chars hlexed, hthrough]
      rfl

/-- The set that a layout cuts off is the one that the pieces hold together. -/
theorem classBody?_set {body : List Token} (h : Regex.IsSetBody body) (behind : List Token)
    (hlexed : Lexed (body ++ behind)) :
    classBody? (Token.chars (body ++ behind)) = some (Token.chars body) := by
  obtain ⟨caret, first, inner, rfl, hinner, rfl | ⟨rfl, hfirst⟩⟩ := h
  · have hrest : Lexed (first :: (inner ++ [.plain ']']) ++ behind) := hlexed.tail
    change (afterCaret? (Token.chars (first :: (inner ++ [.plain ']']) ++ behind))).map _ = _
    rw [afterCaret?_set hinner behind hrest]
    rfl
  · unfold classBody?
    split
    · next rest heq =>
      obtain ⟨us, hus, -⟩ := Regex.chars_eq_cons (by decide) heq
      exact absurd (List.cons.inj hus).1 hfirst
    · exact afterCaret?_set hinner behind hlexed

/-! ## Letters put into openers -/

/-- Whether tokens go on an opener that lacks its letter, the parenthesis read. -/
def NamesGroup (ts : List Token) : Prop :=
  ∃ after, ts = .plain '?' :: .plain '<' :: after ∧ after.head?.any Regex.isBehindMark = false

/-- A text with letters put into some openers. -/
inductive Grows : List Token → List Token → Prop where
  | nil : Grows [] []
  | keep {ts us : List Token} (t : Token) (h : Grows ts us) : Grows (t :: ts) (t :: us)
  | insert {ts us : List Token} (hmark : ts.head?.any Regex.isBehindMark = false)
    (h : Grows ts us) :
    Grows (.plain '(' :: .plain '?' :: .plain '<' :: ts)
      (.plain '(' :: .plain '?' :: .plain 'P' :: .plain '<' :: us)

namespace Grows

theorem prepend {ts us : List Token} (w : List Token) (h : Grows ts us) :
    Grows (w ++ ts) (w ++ us) := by
  induction w with
  | nil => exact h
  | cons t w ih => exact .keep t ih

theorem mem {ts us : List Token} (h : Grows ts us) {t : Token} (ht : t ∈ us) :
    t ∈ ts ∨ t = .plain 'P' := by
  induction h with
  | nil => exact .inl ht
  | keep u _ ih =>
    rcases List.mem_cons.mp ht with rfl | ht
    · exact .inl (List.mem_cons_self ..)
    · exact (ih ht).imp_left (List.mem_cons_of_mem _)
  | insert _ _ ih =>
    simp only [List.mem_cons] at ht ⊢
    rcases ht with rfl | rfl | rfl | rfl | ht
    · exact .inl (.inl rfl)
    · exact .inl (.inr (.inl rfl))
    · exact .inr rfl
    · exact .inl (.inr (.inr (.inl rfl)))
    · exact (ih ht).imp_left fun h => .inr (.inr (.inr h))

end Grows

/-- A token that starts neither a set nor an opener is kept. -/
theorem respellChars_token {t : Token} {ts : List Token} (hlexed : Lexed (t :: ts))
    (hset : t ≠ .plain '[') (hopener : t = .plain '(' → ¬ NamesGroup ts) :
    respellChars (Token.chars (t :: ts)) = t.text ++ respellChars (Token.chars ts) := by
  cases t with
  | escaped c => exact respellChars_escape c (Token.chars ts)
  | plain c =>
    refine respellChars_char ?_ ?_ ?_
    · exact hlexed.head
    · rintro rfl
      exact hset rfl
    · rintro rfl after hafter
      obtain ⟨us, rfl, hus⟩ := Regex.chars_eq_cons (by decide) hafter
      obtain ⟨vs, rfl, rfl⟩ := Regex.chars_eq_cons (by decide) hus.symm
      rw [isLookbehind_chars]
      cases hmark : vs.head?.any Regex.isBehindMark with
      | true => rfl
      | false => exact absurd ⟨vs, rfl, hmark⟩ (hopener rfl)

theorem respellChars_name {after : List Token}
    (hmark : after.head?.any Regex.isBehindMark = false) :
    respellChars (Token.chars (.plain '(' :: .plain '?' :: .plain '<' :: after)) =
      '(' :: '?' :: 'P' :: '<' :: respellChars (Token.chars after) := by
  rw [← isLookbehind_chars] at hmark
  exact respellChars_opener hmark

theorem grows_of_length (bound : Nat) {ts : List Token} (hbound : ts.length ≤ bound)
    (hlexed : Lexed ts) :
    ∃ us, Grows ts us ∧ respellChars (Token.chars ts) = Token.chars us := by
  induction bound generalizing ts with
  | zero =>
    obtain rfl := List.eq_nil_of_length_eq_zero (Nat.le_zero.mp hbound)
    exact ⟨[], .nil, respellChars_nil⟩
  | succ bound ih =>
    cases ts with
    | nil => exact ⟨[], .nil, respellChars_nil⟩
    | cons t ts =>
      have hts := hlexed.tail
      have hlength : ts.length ≤ bound := Nat.le_of_succ_le_succ hbound
      by_cases hset : t = .plain '['
      · subst hset
        cases hclass : classBody? (Token.chars ts) with
        | none =>
          obtain ⟨us, hgrows, htext⟩ := ih hlength hts
          refine ⟨.plain '[' :: us, .keep _ hgrows, ?_⟩
          exact (respellChars_open hclass).trans (congrArg _ htext)
        | some body =>
          obtain ⟨w, behind, rfl, rfl⟩ := classBody?_chars hts hclass
          rw [List.length_append] at hlength
          obtain ⟨us, hgrows, htext⟩ := ih (by omega) hts.of_append.2
          refine ⟨.plain '[' :: (w ++ us), .keep _ (hgrows.prepend w), ?_⟩
          have hsplit : Token.chars (w ++ behind) = Token.chars w ++ Token.chars behind :=
            List.flatMap_append
          refine (respellChars_set hsplit hclass).trans ?_
          rw [htext]
          exact congrArg (List.cons '[') List.flatMap_append.symm
      by_cases hopener : t = .plain '(' ∧ NamesGroup ts
      · obtain ⟨rfl, after, rfl, hmark⟩ := hopener
        have hafter := hts.tail.tail
        simp only [List.length_cons] at hlength
        obtain ⟨us, hgrows, htext⟩ := ih (by omega) hafter
        refine ⟨_, .insert hmark hgrows, ?_⟩
        rw [respellChars_name hmark, htext]
        rfl
      · obtain ⟨us, hgrows, htext⟩ := ih hlength hts
        refine ⟨t :: us, .keep t hgrows, ?_⟩
        rw [respellChars_token hlexed hset fun ht hn => hopener ⟨ht, hn⟩, htext]
        rfl

/-- Respelling puts letters into openers and does nothing else. -/
theorem respellChars_grows {ts : List Token} (hlexed : Lexed ts) :
    ∃ us, Grows ts us ∧ respellChars (Token.chars ts) = Token.chars us :=
  grows_of_length ts.length (Nat.le_refl _) hlexed

end Pattern

end Linting
