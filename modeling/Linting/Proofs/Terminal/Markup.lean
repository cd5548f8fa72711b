import Linting.Proofs.Fallible
import Linting.Terminal.Markup
import Mathlib.Data.List.Infix
import Mathlib.Data.List.TakeWhile

/-! Which texts markup leaves as they are. Whatever is read as a tag, and every backslash that is
dropped, makes a text shorter, and so a text is shown as it stands only if it holds neither. Reading
fails only at a tag. -/

namespace Linting.Terminal.Markup
set_option autoImplicit false

variable {text body chars plain rest : List Char} {position slashes : Nat}

/-! ## Tags in a text -/

def isInside (c : Char) : Bool := c ≠ '[' && c ≠ ']'

/-- What can stand between the brackets of a tag. -/
def IsBody (body : List Char) : Prop :=
  body.head?.any startsTag = true ∧ body.all isInside = true

def bracketed (body : List Char) : List Char := '[' :: body ++ [']']

def HoldsTag (text : List Char) : Prop := ∃ body, IsBody body ∧ bracketed body <:+: text

theorem inside_of_startsTag {c : Char} (h : startsTag c = true) : isInside c = true := by
  have hopen : c ≠ '[' := by
    rintro rfl
    exact absurd h (by decide)
  have hclose : c ≠ ']' := by
    rintro rfl
    exact absurd h (by decide)
  rw [isInside, decide_eq_true hopen, decide_eq_true hclose]
  rfl

theorem takeWhile_body (h : IsBody body) : (body ++ ']' :: rest).takeWhile isInside = body := by
  rw [List.takeWhile_append_of_pos (List.all_eq_true.mp h.2),
    List.takeWhile_cons_of_neg (by decide), List.append_nil]

theorem bodyAt?_cons (c : Char) (rest : List Char) :
    bodyAt? ('[' :: c :: rest) =
      if startsTag c && (c :: rest)[((c :: rest).takeWhile isInside).length]? = some ']' then
        some ((c :: rest).takeWhile isInside)
      else none := rfl

theorem bodyAt?_eq_some_iff :
    bodyAt? text = some body ↔ IsBody body ∧ bracketed body <+: text := by
  constructor
  · intro h
    rw [bodyAt?.eq_def] at h
    split at h
    · next c rest =>
      replace h : bodyAt? ('[' :: c :: rest) = some body := h
      rw [bodyAt?_cons] at h
      split at h
      · next hcond =>
        obtain ⟨hstarts, hends⟩ := (Bool.and_eq_true _ _).mp hcond
        have hends := of_decide_eq_true hends
        have hbody := Option.some.inj h
        have hhead : body.head?.any startsTag = true := by
          rw [← hbody, List.takeWhile_cons_of_pos (inside_of_startsTag hstarts)]
          exact hstarts
        have hall : body.all isInside = true := by
          rw [← hbody, List.all_takeWhile]
        obtain ⟨after, hsplit⟩ := List.takeWhile_prefix (l := c :: rest) isInside
        rw [hbody] at hends hsplit
        rw [← hsplit, List.getElem?_append_right le_rfl, Nat.sub_self, ← List.head?_eq_getElem?]
          at hends
        obtain ⟨tail, rfl⟩ := List.head?_eq_some_iff.mp hends
        refine ⟨⟨hhead, hall⟩, tail, ?_⟩
        rw [← hsplit]
        simp [bracketed]
      · cases h
    · cases h
  · rintro ⟨hbody, rest, rfl⟩
    cases body with
    | nil => cases hbody.1
    | cons c others =>
      have hstarts : startsTag c = true := hbody.1
      have htext : bracketed (c :: others) ++ rest = '[' :: c :: (others ++ ']' :: rest) := by
        simp [bracketed]
      have htake : (c :: (others ++ ']' :: rest)).takeWhile isInside = c :: others :=
        takeWhile_body hbody
      have hends : (c :: others ++ ']' :: rest)[(c :: others).length]? = some ']' := by
        rw [List.getElem?_append_right le_rfl, Nat.sub_self]
        rfl
      rw [List.cons_append] at hends
      rw [htext, bodyAt?_cons, htake, hstarts, hends]
      rfl

theorem tagAt?_eq_some (h : tagAt? text = some (slashes, body)) :
    IsBody body ∧ List.replicate slashes '\\' ++ bracketed body <+: text := by
  rw [tagAt?, Option.map_eq_some_iff] at h
  obtain ⟨_, hbody, heq⟩ := h
  obtain ⟨hslashes, rfl⟩ := Prod.mk.inj heq
  obtain ⟨hbody, rest, hrest⟩ := bodyAt?_eq_some_iff.mp hbody
  refine ⟨hbody, rest, ?_⟩
  have htake : text.take slashes = text.takeWhile (· = '\\') := by
    rw [← hslashes]
    exact (List.prefix_iff_eq_take.mp (List.takeWhile_prefix _)).symm
  have hall : text.takeWhile (· = '\\') = List.replicate slashes '\\' := by
    refine List.eq_replicate_iff.mpr ⟨hslashes, fun c hc => ?_⟩
    simpa using List.mem_takeWhile_imp hc
  rw [hslashes] at hrest
  rw [List.append_assoc, hrest, ← hall, ← htake, List.take_append_drop]

/-- A tag is found where it starts. -/
theorem tagAt?_bracketed (h : IsBody body) (hstart : bracketed body <+: text) :
    tagAt? text = some (0, body) := by
  have hbody := bodyAt?_eq_some_iff.mpr ⟨h, hstart⟩
  obtain ⟨rest, rfl⟩ := hstart
  exact congrArg (Option.map (0, ·)) hbody

theorem holdsTag_of_tagAt? (h : tagAt? text = some (slashes, body)) :
    IsBody body ∧ bracketed body <:+: text := by
  obtain ⟨hbody, hstart⟩ := tagAt?_eq_some h
  exact ⟨hbody, (List.suffix_append _ _).isInfix.trans hstart.isInfix⟩

theorem holdsTag_iff_tails : HoldsTag text ↔ ∃ rest ∈ text.tails, (bodyAt? rest).isSome = true := by
  constructor
  · rintro ⟨body, hbody, before, after, heq⟩
    have hfound := bodyAt?_eq_some_iff.mpr ⟨hbody, List.prefix_append (bracketed body) after⟩
    refine ⟨bracketed body ++ after, (List.mem_tails _ _).mpr ⟨before, ?_⟩, ?_⟩
    · rw [← heq, List.append_assoc]
    · rw [hfound]
      rfl
  · rintro ⟨rest, hrest, hfound⟩
    obtain ⟨body, hfound⟩ := Option.isSome_iff_exists.mp hfound
    obtain ⟨hbody, hstart⟩ := bodyAt?_eq_some_iff.mp hfound
    exact ⟨body, hbody, hstart.isInfix.trans ((List.mem_tails _ _).mp hrest).isInfix⟩

instance (text : List Char) : Decidable (HoldsTag text) :=
  decidable_of_iff _ holdsTag_iff_tails.symm

theorem HoldsTag.cons {c : Char} (h : HoldsTag (c :: rest)) :
    tagAt? (c :: rest) ≠ none ∨ HoldsTag rest := by
  obtain ⟨body, hbody, hinfix⟩ := h
  rcases List.infix_cons_iff.mp hinfix with hstart | hrest
  · refine .inl ?_
    rw [tagAt?_bracketed hbody hstart]
    exact Option.some_ne_none _
  · exact .inr ⟨body, hbody, hrest⟩

/-! ## Backslashes -/

theorem unescape_cons {c : Char} (h : ¬ ['\\', '['] <+: c :: rest) :
    unescape (c :: rest) = c :: unescape rest := by
  rw [unescape.eq_def]
  split
  · next others heq =>
    refine absurd ⟨others, ?_⟩ h
    exact heq.symm
  · next heq =>
    cases heq
    rfl
  · next heq => cases heq

theorem unescape_eq_self (h : ¬ ['\\', '['] <:+: text) : unescape text = text := by
  induction text with
  | nil => rfl
  | cons c rest ih =>
    rw [List.infix_cons_iff, not_or] at h
    rw [unescape_cons h.1, ih h.2]

theorem length_unescape_le (text : List Char) : (unescape text).length ≤ text.length := by
  fun_induction unescape text with
  | case1 rest ih =>
    simp only [List.length_cons]
    omega
  | case2 c rest _ ih =>
    simp only [List.length_cons]
    omega
  | case3 => exact le_rfl

theorem length_unescape_lt (h : ['\\', '['] <:+: text) :
    (unescape text).length < text.length := by
  fun_induction unescape text with
  | case1 rest ih =>
    have hrest := length_unescape_le rest
    simp only [List.length_cons]
    omega
  | case2 c rest hnot ih =>
    rcases List.infix_cons_iff.mp h with ⟨others, hstart⟩ | hrest
    · cases hstart
      exact absurd rfl (hnot _ rfl)
    · have hlt := ih hrest
      simp only [List.length_cons]
      omega
  | case3 => cases List.infix_nil.mp h

/-! ## What is shown -/

/-- The characters that a token puts into the text. -/
def Token.shown : Token → List Char
  | .plain chars => chars.filter fun c => !isDropped c
  | .tag .. => []

def shown (ts : List Token) : List Char := ts.flatMap Token.shown

theorem shown_append (ts us : List Token) : shown (ts ++ us) = shown ts ++ shown us :=
  List.flatMap_append

theorem shown_plainToken (chars : List Char) :
    shown (plainToken chars) = (unescape chars).filter fun c => !isDropped c := by
  rw [plainToken]
  split
  · next hempty =>
    rw [List.isEmpty_iff.mp hempty]
    rfl
  · rw [shown, List.flatMap_singleton]
    rfl

theorem length_shown_plainToken (chars : List Char) :
    (shown (plainToken chars)).length ≤ chars.length := by
  rw [shown_plainToken]
  exact (List.length_filter_le ..).trans (length_unescape_le chars)

theorem length_shown_tagTokens (position slashes : Nat) (body : List Char) :
    (shown (tagTokens position slashes body)).length < slashes + body.length + 2 := by
  have hkept := length_shown_plainToken (List.replicate (slashes / 2) '\\')
  rw [List.length_replicate] at hkept
  rw [tagTokens]
  split
  · have htag := length_shown_plainToken (bracketed body)
    rw [shown_append, List.length_append]
    change _ + (shown (plainToken (bracketed body))).length < _
    simp only [bracketed, List.length_append, List.length_cons, List.length_nil] at htag ⊢
    omega
  · rw [shown_append, List.length_append]
    change _ + 0 < _
    omega

/-- A tag takes as many characters as are left out of the text behind it. -/
theorem length_after_tag {c : Char} (h : tagAt? (c :: rest) = some (slashes, body)) :
    (rest.drop (slashes + body.length + 1)).length + (slashes + body.length + 2) =
      (c :: rest).length := by
  have hlength := (tagAt?_eq_some h).2.length_le
  simp only [bracketed, List.length_append, List.length_replicate, List.length_cons,
    List.length_nil, List.length_drop] at hlength ⊢
  omega

theorem length_shown_le (position : Nat) (plain text : List Char) :
    (shown (tokensFrom position plain text)).length ≤ plain.length + text.length := by
  fun_induction tokensFrom position plain text with
  | case1 position plain =>
    have hplain := length_shown_plainToken plain.reverse
    rw [List.length_reverse] at hplain
    exact hplain
  | case2 position plain c rest _ ih =>
    simp only [List.length_cons] at ih ⊢
    omega
  | case3 position plain c rest slashes body hfound size ih =>
    have hplain := length_shown_plainToken plain.reverse
    have htag := length_shown_tagTokens position slashes body
    have hafter := length_after_tag hfound
    change (rest.drop size).length + _ = _ at hafter
    rw [List.length_reverse] at hplain
    rw [shown_append, shown_append, List.length_append, List.length_append]
    rw [List.length_nil] at ih
    omega

/-- A text with a tag in it loses characters. -/
theorem length_shown_lt (position : Nat) (plain : List Char) (h : HoldsTag text) :
    (shown (tokensFrom position plain text)).length < plain.length + text.length := by
  fun_induction tokensFrom position plain text with
  | case1 =>
    obtain ⟨body, -, hinfix⟩ := h
    cases List.infix_nil.mp hinfix
  | case2 position plain c rest hnone ih =>
    have hlt := ih (h.cons.resolve_left (not_not.mpr hnone))
    simp only [List.length_cons] at hlt ⊢
    omega
  | case3 position plain c rest slashes body hfound size ih =>
    have hplain := length_shown_plainToken plain.reverse
    have htag := length_shown_tagTokens position slashes body
    have hafter := length_after_tag hfound
    change (rest.drop size).length + _ = _ at hafter
    -- behind the first tag the bound is enough
    have hrest := length_shown_le (position + size + 1) [] (rest.drop size)
    rw [List.length_reverse] at hplain
    rw [shown_append, shown_append, List.length_append, List.length_append]
    rw [List.length_nil] at hrest
    omega

theorem tokensFrom_untagged (h : ¬ HoldsTag text) :
    tokensFrom position plain text = plainToken (plain.reverse ++ text) := by
  fun_induction tokensFrom position plain text with
  | case1 => rw [List.append_nil]
  | case2 position plain c rest _ ih =>
    rw [ih fun ⟨body, hbody, hinfix⟩ => h ⟨body, hbody, hinfix.trans (List.suffix_cons ..).isInfix⟩,
      List.reverse_cons, List.append_assoc]
    rfl
  | case3 position plain c rest slashes body hfound =>
    exact absurd ⟨body, holdsTag_of_tagAt? hfound⟩ h

theorem tag_notMem_plainToken : Token.tag position body ∉ plainToken chars := by
  rw [plainToken]
  split
  · exact List.not_mem_nil
  · simp

theorem body_of_mem_tokensFrom {start : Nat}
    (h : .tag position body ∈ tokensFrom start plain text) :
    IsBody body ∧ bracketed body <:+: text := by
  fun_induction tokensFrom start plain text with
  | case1 => exact absurd h tag_notMem_plainToken
  | case2 start plain c rest _ ih =>
    obtain ⟨hbody, hinfix⟩ := ih h
    exact ⟨hbody, hinfix.trans (List.suffix_cons ..).isInfix⟩
  | case3 start plain c rest slashes found hfound size ih =>
    rcases List.mem_append.mp h with h | h
    · rcases List.mem_append.mp h with h | h
      · exact absurd h tag_notMem_plainToken
      · rw [tagTokens] at h
        split at h
        · rcases List.mem_append.mp h with h | h <;> exact absurd h tag_notMem_plainToken
        · rcases List.mem_append.mp h with h | h
          · exact absurd h tag_notMem_plainToken
          · cases List.mem_singleton.mp h
            exact holdsTag_of_tagAt? hfound
    · obtain ⟨hbody, hinfix⟩ := ih h
      have hrest : rest.drop size <:+: c :: rest :=
        ((List.drop_suffix size rest).trans (List.suffix_cons ..)).isInfix
      exact ⟨hbody, hinfix.trans hrest⟩

/-! ## Reading -/

section Reading

variable {literal : LiteralReader} {s s' : State} {token : Token} {source : String} {t : Styled}

theorem chars_of_step (h : step literal s token = .ok s') : s'.chars = s.chars ++ token.shown := by
  cases token with
  | plain chars =>
    obtain rfl := Except.ok.inj h
    rfl
  | tag position body =>
    rw [Token.shown, List.append_nil]
    rw [step] at h
    dsimp only at h
    split at h
    · obtain ⟨_, -, h⟩ := bind_eq_ok_iff.mp h
      obtain ⟨_, -, h⟩ := bind_eq_ok_iff.mp h
      obtain rfl := Except.ok.inj h
      rfl
    · obtain ⟨_, -, h⟩ := bind_eq_ok_iff.mp h
      obtain rfl := Except.ok.inj h
      rfl

theorem chars_of_foldlM {ts : List Token} (h : ts.foldlM (step literal) s = .ok s') :
    s'.chars = s.chars ++ shown ts := by
  induction ts generalizing s with
  | nil =>
    obtain rfl := Except.ok.inj h
    exact (List.append_nil _).symm
  | cons token ts ih =>
    obtain ⟨next, hstep, hrest⟩ := bind_eq_ok_iff.mp h
    rw [ih hrest, chars_of_step hstep, List.append_assoc]
    rfl

theorem chars_of_close (opened : List (Nat × Tag)) (s : State) :
    (opened.foldl (fun s (start, tag) => s.close start tag) s).chars = s.chars := by
  induction opened generalizing s with
  | nil => rfl
  | cons first rest ih => exact ih _

theorem chars_of_read (h : read literal source = .ok t) :
    t.chars = shown (tokens source.toList) := by
  obtain ⟨s, hs, h⟩ := bind_eq_ok_iff.mp h
  obtain rfl := Except.ok.inj h
  change (s.opened.foldl _ s).chars = _
  rw [chars_of_close, chars_of_foldlM hs]
  rfl

/-- A text without tags is read without styles. -/
theorem read_untagged (literal : LiteralReader) (h : ¬ HoldsTag source.toList) :
    read literal source =
      .ok { chars := (unescape source.toList).filter fun c => !isDropped c } := by
  have hfold : (tokens source.toList).foldlM (step literal) {} =
      .ok { chars := (unescape source.toList).filter fun c => !isDropped c } := by
    rw [tokens, tokensFrom_untagged h, List.reverse_nil, List.nil_append, plainToken]
    split
    · next hempty =>
      rw [List.isEmpty_iff.mp hempty]
      rfl
    · rfl
  rw [read, hfold]
  change Except.ok ({ chars := _, spans := [].mergeSort _ } : Styled) = _
  rw [List.mergeSort_nil]
  rfl

/-- Only tags have styles that may be faulty. -/
theorem holdsTag_of_faults (h : read literal source = .ok t) (hfaults : t.faults ≠ []) :
    HoldsTag source.toList := by
  by_contra hnone
  rw [read_untagged literal hnone] at h
  obtain rfl := Except.ok.inj h
  exact hfaults rfl

end Reading

/-- A text that is shown as it stands: it holds no tag, no backslash before a bracket and none of
the control characters that are dropped. -/
structure Literal (text : List Char) : Prop where
  untagged : ¬ HoldsTag text
  unescaped : ¬ ['\\', '['] <:+: text
  kept : ∀ c ∈ text, isDropped c = false

theorem literal_iff : Literal text ↔
    ¬ HoldsTag text ∧ ¬ ['\\', '['] <:+: text ∧ text.all (fun c => !isDropped c) = true := by
  have hkept : text.all (fun c => !isDropped c) = true ↔ ∀ c ∈ text, isDropped c = false := by
    simp only [List.all_eq_true, Bool.not_eq_true']
  rw [hkept]
  exact ⟨fun h => ⟨h.untagged, h.unescaped, h.kept⟩, fun ⟨untagged, unescaped, kept⟩ =>
    ⟨untagged, unescaped, kept⟩⟩

instance (text : List Char) : Decidable (Literal text) := decidable_of_iff _ literal_iff.symm

theorem Literal.nil : Literal [] where
  untagged := fun ⟨_, _, hinfix⟩ => nomatch List.infix_nil.mp hinfix
  unescaped := fun hinfix => nomatch List.infix_nil.mp hinfix
  kept := fun _ hc => nomatch hc

theorem Literal.read {text : String} (literal : LiteralReader) (h : Literal text.toList) :
    Markup.read literal text = .ok { chars := text.toList } := by
  have hfilter : (text.toList.filter fun c => !isDropped c) = text.toList := by
    refine List.filter_eq_self.mpr fun c hc => ?_
    rw [h.kept c hc]
    rfl
  rw [read_untagged literal h.untagged, unescape_eq_self h.unescaped, hfilter]

/-- A text is shown as it stands exactly if it holds nothing that markup takes out. -/
theorem read_eq_self_iff {literal : LiteralReader} {text : String} :
    (∃ t, read literal text = .ok t ∧ t.chars = text.toList) ↔ Literal text.toList := by
  constructor
  · rintro ⟨t, hread, hchars⟩
    rw [chars_of_read hread, tokens] at hchars
    have huntagged : ¬ HoldsTag text.toList := by
      intro htag
      have hlt := length_shown_lt 0 [] htag
      rw [hchars, List.length_nil, Nat.zero_add] at hlt
      exact lt_irrefl _ hlt
    rw [tokensFrom_untagged huntagged, List.reverse_nil, List.nil_append, shown_plainToken]
      at hchars
    have hunescaped : ¬ ['\\', '['] <:+: text.toList := by
      intro hinfix
      have hle := List.length_filter_le (fun c => !isDropped c) (unescape text.toList)
      rw [hchars] at hle
      exact absurd (length_unescape_lt hinfix) (not_lt.mpr hle)
    rw [unescape_eq_self hunescaped] at hchars
    refine ⟨huntagged, hunescaped, fun c hc => ?_⟩
    simpa using List.filter_eq_self.mp hchars c hc
  · intro h
    exact ⟨_, h.read literal, rfl⟩

/-! ## Closing tags -/

/-- A text with a tag that starts with a slash. -/
def HoldsClosingTag (text : List Char) : Prop :=
  ∃ name, IsBody ('/' :: name) ∧ bracketed ('/' :: name) <:+: text

theorem HoldsClosingTag.holdsTag (h : HoldsClosingTag text) : HoldsTag text := by
  obtain ⟨name, hname⟩ := h
  exact ⟨_, hname⟩

/-- A step fails at a closing tag, or at a tag whose name is no mixture of colours. -/
theorem tag_of_step_eq_error {literal : LiteralReader} {s : State} {token : Token} {e : MarkupError}
    (h : step literal s token = .error e) : ∃ position body, token = .tag position body ∧
      ((∃ fault, e = .colour fault) ∨ ∃ name, body = '/' :: name) := by
  cases token with
  | plain chars => cases h
  | tag position body =>
    refine ⟨position, body, rfl, ?_⟩
    rw [step] at h
    dsimp only at h
    split at h
    · next name hname =>
      rw [Tag.ofBody, String.toList_ofList] at hname
      obtain ⟨rest, hrest⟩ := List.takeWhile_prefix (l := body) (· ≠ '=')
      rw [hname] at hrest
      exact .inr ⟨name ++ rest, by rw [← hrest]; rfl⟩
    · rcases bind_eq_error_iff.mp h with h | ⟨_, -, h⟩
      · obtain ⟨fault, -, rfl⟩ := mapError_eq_error_iff.mp h
        exact .inl ⟨fault, rfl⟩
      · cases h

/-- Only a tag can keep a text from being read, and only a closing one for another reason than a
mixture of colours that cannot be read. -/
theorem holdsTag_of_read_eq_error {literal : LiteralReader} {text : String} {e : MarkupError}
    (h : read literal text = .error e) : HoldsTag text.toList ∧
      ((∃ fault, e = .colour fault) ∨ HoldsClosingTag text.toList) := by
  rcases bind_eq_error_iff.mp h with hfold | ⟨s, -, h⟩
  · obtain ⟨s, token, htoken, hstep⟩ := foldlM_eq_error hfold
    obtain ⟨position, body, rfl, hcolour | ⟨name, rfl⟩⟩ := tag_of_step_eq_error hstep
    · exact ⟨⟨body, body_of_mem_tokensFrom htoken⟩, .inl hcolour⟩
    · have hclosing : HoldsClosingTag text.toList := ⟨name, body_of_mem_tokensFrom htoken⟩
      exact ⟨hclosing.holdsTag, .inr hclosing⟩
  · cases h

/-! ## Texts in front of others -/

/-- Characters that have no part in markup. -/
def IsQuiet (c : Char) : Prop := c ≠ '[' ∧ c ≠ ']' ∧ isDropped c = false

/-- A part of two texts is a part of the first if its last character is not in the second. -/
theorem infix_append_iff (chars : List Char) {front back : List Char} {last : Char}
    (h : last ∉ back) :
    chars ++ [last] <:+: front ++ back ↔ chars ++ [last] <:+: front := by
  constructor
  · rintro ⟨before, after, heq⟩
    rcases List.append_eq_append_iff.mp heq with ⟨between, hfront, -⟩ | ⟨between, hchars, hback⟩
    · exact ⟨before, between, hfront.symm⟩
    · rcases List.eq_nil_or_concat between with rfl | ⟨start, c, rfl⟩
      · exact ⟨before, [], by rw [hchars, List.append_nil, List.append_nil]⟩
      · rw [List.concat_eq_append, ← List.append_assoc, ← List.append_assoc] at hchars
        obtain rfl := List.singleton_injective (List.append_inj' hchars rfl).2
        rw [hback] at h
        exact absurd (by simp) h
  · intro hfront
    exact hfront.trans (List.prefix_append ..).isInfix

theorem bracketed_infix_append_iff (front : List Char) {back : List Char}
    (h : ∀ c ∈ back, IsQuiet c) :
    bracketed body <:+: front ++ back ↔ bracketed body <:+: front :=
  infix_append_iff ('[' :: body) fun hmem => (h _ hmem).2.1 rfl

theorem holdsTag_append_iff (front : List Char) {back : List Char} (h : ∀ c ∈ back, IsQuiet c) :
    HoldsTag (front ++ back) ↔ HoldsTag front :=
  exists_congr fun _ => and_congr_right fun _ => bracketed_infix_append_iff front h

theorem literal_append_iff (front : List Char) {back : List Char} (h : ∀ c ∈ back, IsQuiet c) :
    Literal (front ++ back) ↔ Literal front := by
  have hopen : '[' ∉ back := fun hmem => (h _ hmem).1 rfl
  have htag := holdsTag_append_iff front h
  have hescape : ['\\', '['] <:+: front ++ back ↔ ['\\', '['] <:+: front :=
    infix_append_iff ['\\'] hopen
  have hkept : (∀ c ∈ front ++ back, isDropped c = false) ↔ ∀ c ∈ front, isDropped c = false := by
    rw [List.forall_mem_append, and_iff_left fun c hc => (h c hc).2.2]
  exact ⟨fun ⟨untagged, unescaped, kept⟩ =>
      ⟨mt htag.mpr untagged, mt hescape.mpr unescaped, hkept.mp kept⟩,
    fun ⟨untagged, unescaped, kept⟩ =>
      ⟨mt htag.mp untagged, mt hescape.mp unescaped, hkept.mpr kept⟩⟩

end Linting.Terminal.Markup
