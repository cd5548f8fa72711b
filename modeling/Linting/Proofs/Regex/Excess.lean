import Mathlib.Algebra.Group.Nat.Defs
import Linting.Proofs.Regex.Heads
import Linting.Proofs.Regex.Syntactic

/-! What a text holds where it asks for something that cannot be built: an escape with a code point
that is too large, or bounds of a repetition that are. Main facts: whatever reads a single item, a
set or a repetition fails with a syntax error or because of such a stretch. -/

namespace Linting.Regex
set_option autoImplicit false

variable {α β : Type}

/-! ## Stretches that exceed -/

/-- Bounds as they are written behind an opening brace: a number that is both, or two numbers with
a comma between them, either of which may be missing. -/
inductive IsBounds : List Char → List Char → List Token → Prop where
  | one {n : List Char} (h : ∀ c ∈ n, isAsciiDigit c = true) :
    IsBounds n n (n.map .plain ++ [.plain '\x7d'])
  | two {lo hi : List Char} (hlo : ∀ c ∈ lo, isAsciiDigit c = true)
    (hhi : ∀ c ∈ hi, isAsciiDigit c = true) :
    IsBounds lo hi (lo.map .plain ++ .plain ',' :: (hi.map .plain ++ [.plain '\x7d']))

/-- Whether a text holds bounds between braces, one of which has the given digits. -/
def HoldsBound (text : List Token) (digits : List Char) : Prop :=
  ∃ lo hi u, IsBounds lo hi u ∧ .plain '\x7b' :: u <:+: text ∧ (digits = lo ∨ digits = hi)

/-- Why a text asks for something that cannot be built. A code point has to fit 31 bits, where those
beyond Unicode are no escapes but have been read; a bound of a repetition has to fit 32 bits, and
may have only so many digits. -/
inductive Exceeds (text : List Token) : Failure → Prop where
  | codePoint {digits : List Char} (hlength : digits.length = 8)
    (hhex : ∀ c ∈ digits, isHex c = true) (hlarge : 0x80000000 ≤ numberOf 16 digits)
    (h : .escaped 'U' :: digits.map .plain <:+: text) : Exceeds text .codePointTooLarge
  | count {digits : List Char} (hlarge : Read.repeatLimit ≤ numberOf 10 digits)
    (h : HoldsBound text digits) : Exceeds text .repeatTooLarge
  | digits {digits : List Char} (hmany : Text.digitLimit < digits.length)
    (h : HoldsBound text digits) : Exceeds text (.tooManyDigits digits.length)

theorem HoldsBound.mono {text text' : List Token} {digits : List Char} (h : HoldsBound text digits)
    (htext : text <:+: text') : HoldsBound text' digits := by
  obtain ⟨lo, hi, u, hbounds, hin, hdigits⟩ := h
  exact ⟨lo, hi, u, hbounds, hin.trans htext, hdigits⟩

theorem Exceeds.mono {text text' : List Token} {e : Failure} (h : Exceeds text e)
    (htext : text <:+: text') : Exceeds text' e := by
  cases h with
  | codePoint hlength hhex hlarge h => exact .codePoint hlength hhex hlarge (h.trans htext)
  | count hlarge h => exact .count hlarge (h.mono htext)
  | digits hmany h => exact .digits hmany (h.mono htext)

/-! ## Actions that go on in the text -/

/-- If the action succeeds, what is left to read is the end of what was left. -/
def Forward (f : Read α) : Prop :=
  ∀ ⦃s : Source⦄ ⦃a : α⦄ ⦃s' : Source⦄, f s = .ok (a, s') → s'.rest <:+ s.rest

theorem Local.forward {fits : Source → α → List Token → Source → Prop} {f g : Read α}
    (h : Local fits f g) : Forward f := by
  intro s a s' hok
  obtain ⟨u, hu, -⟩ := h hok
  exact ⟨u, hu.symm⟩

/-- If the action fails, then with a syntax error, or because of a stretch that exceeds: one that
is left to read or begins with the tokens in front of it. -/
def Justified (front : List Token) (f : Read α) : Prop :=
  ∀ ⦃s : Source⦄ ⦃e : Failure⦄, f s = .error e → e.IsSyntax ∨ Exceeds (front ++ s.rest) e

theorem Syntactic.justified {f : Read α} (h : Syntactic f) (front : List Token) :
    Justified front f := fun _ _ he => .inl (h he)

namespace Justified

variable {front : List Token}

theorem of_pure (a : α) : Justified front (pure a : Read α) := (Syntactic.of_pure a).justified _

/-- What the action behind another exceeds is left behind it. -/
theorem bind {f : Read α} {g : α → Read β} (hforward : Forward f) (hf : Justified front f)
    (hg : ∀ a, Justified [] (g a)) : Justified front (f >>= g) := by
  intro s e h
  rcases Read.bind_error.mp h with h | ⟨a, s₁, hok, h⟩
  · exact hf h
  · refine (hg a h).imp_right fun hexceeds => hexceeds.mono ?_
    exact (hforward hok).isInfix.trans (List.suffix_append front s.rest).isInfix

theorem syntactic_bind {f : Read α} {g : α → Read β} (hforward : Forward f) (hf : Syntactic f)
    (hg : ∀ a, Justified [] (g a)) : Justified front (f >>= g) :=
  .bind hforward (hf.justified front) hg

/-- A token that has been read is still in front of what comes behind it. -/
theorem next_bind {g : Option Token → Read α} (hnone : Syntactic (g none))
    (hsome : ∀ t, Justified [t] (g (some t))) : Justified front (Read.next >>= g) := by
  intro s e h
  rcases Read.bind_error.mp h with h | ⟨t, s₁, hok, h⟩
  · exact .inl (Read.next_syntactic h)
  · cases t with
    | none => exact .inl (hnone h)
    | some t =>
      obtain ⟨hrest, -⟩ := Read.next_ok hok
      refine (hsome t h).imp_right fun hexceeds => hexceeds.mono ?_
      rw [hrest]
      exact (List.suffix_append front (t :: s₁.rest)).isInfix

theorem of_get {f : Source → Read α} (h : ∀ s, Justified front (f s)) :
    Justified front (get >>= f) := fun s _ he => h s he

theorem ite {c : Prop} [Decidable c] {f g : Read α} (hf : c → Justified front f)
    (hg : ¬ c → Justified front g) : Justified front (if c then f else g) := by
  split
  · exact hf ‹_›
  · exact hg ‹_›

end Justified

namespace Read

/-! ## Escapes -/

theorem digitOf_lt {c : Char} (h : isHex c = true) : digitOf c < 16 := by
  have hle (a b : Char) : (a ≤ b) = (a.toNat ≤ b.toNat) := rfl
  simp only [isHex, Bool.or_eq_true, Bool.and_eq_true, decide_eq_true_eq, hle] at h
  simp only [digitOf, isAsciiDigit, Bool.and_eq_true, decide_eq_true_eq, hle]
  have h0 : '0'.toNat = 48 := rfl
  have h9 : '9'.toNat = 57 := rfl
  have ha : 'a'.toNat = 97 := rfl
  have hf : 'f'.toNat = 102 := rfl
  have hA : 'A'.toNat = 65 := rfl
  have hF : 'F'.toNat = 70 := rfl
  split
  · omega
  · split
    · omega
    · omega

theorem numberOf_lt {digits : List Char} (h : ∀ c ∈ digits, isHex c = true) :
    numberOf 16 digits < 16 ^ digits.length := by
  have hfold (n : Nat) : digits.foldl (fun n c => 16 * n + digitOf c) n <
      (n + 1) * 16 ^ digits.length := by
    induction digits generalizing n with
    | nil => simp
    | cons c digits ih =>
      obtain ⟨hc, hdigits⟩ := List.forall_mem_cons.mp h
      have hlt := digitOf_lt hc
      calc (c :: digits).foldl (fun n c => 16 * n + digitOf c) n
          < (16 * n + digitOf c + 1) * 16 ^ digits.length := ih hdigits _
        _ ≤ ((n + 1) * 16) * 16 ^ digits.length := Nat.mul_le_mul_right _ (by omega)
        _ = (n + 1) * 16 ^ (c :: digits).length := by
          rw [List.length_cons, Nat.pow_succ, Nat.mul_assoc, Nat.mul_comm 16]
  simpa [numberOf] using hfold 0

/-- Only eight digits can give a code point that is too large. -/
theorem hexEscape_justified {c : Char} {places : Nat} (hplaces : places ≤ 8)
    (hc : places = 8 → c = 'U') : Justified [.escaped c] (hexEscape c places) := by
  intro s e h
  rcases bind_error.mp h with h | ⟨digits, s₁, hok, h⟩
  · exact .inl (charsOf_syntactic _ _ h)
  obtain ⟨hrest, hhex, -, hlength, -⟩ := charsOf_ok hok
  dsimp only at h
  split at h
  · exact .inl (failEscape_bind _ _ _ _ h)
  split at h
  · cases h
  split at h
  · exact .inl (failEscape_bind _ _ _ _ h)
  · next hshort _ hlarge =>
    cases h
    have hlt := numberOf_lt hhex
    have height : digits.length = 8 := by
      by_contra hne
      have hpow : 16 ^ digits.length ≤ 16 ^ 7 :=
        Nat.pow_le_pow_right (by decide) (by omega)
      omega
    obtain rfl : c = 'U' := hc (by omega)
    refine .inr (.codePoint height hhex (Nat.not_lt.mp hlarge) ?_)
    rw [hrest]
    exact (List.prefix_append (.escaped 'U' :: digits.map .plain) s₁.rest).isInfix

theorem characterEscape?_justified {c : Char} {read : Read Nat}
    (h : characterEscape? c = some read) : Justified [.escaped c] read := by
  unfold characterEscape? at h
  split at h
  · exact Option.some.inj h ▸ hexEscape_justified (by decide) (by decide)
  · exact Option.some.inj h ▸ hexEscape_justified (by decide) (by decide)
  · exact Option.some.inj h ▸ hexEscape_justified (by decide) (fun _ => rfl)
  · exact Option.some.inj h ▸ namedCharacter_syntactic.justified _
  · cases h

theorem setEscape_justified (c : Char) : Justified [.escaped c] (setEscape c) := by
  unfold setEscape
  split
  · exact .of_pure _
  · exact .of_pure _
  · split
    · next read hread =>
      exact .bind (characterEscape?_tame hread).forward (characterEscape?_justified hread)
        fun _ => .of_pure _
    · have hoctal : Syntactic (charsOf isOctal 2 >>= fun digits =>
          octalEscape c digits >>= fun n => pure (SetItem.single n)) :=
        .bind (charsOf_syntactic _ _) fun _ => .bind (octalEscape_syntactic _ _) fun _ => .of_pure _
      have hplain : Syntactic (plainEscape c >>= fun n => pure (SetItem.single n)) :=
        .bind (plainEscape_syntactic c) fun _ => .of_pure _
      exact .ite (fun _ => hoctal.justified _) fun _ => hplain.justified _

theorem escape_justified (c : Char) : Justified [.escaped c] (escape c) := by
  unfold escape
  split
  · exact .of_pure _
  · exact .of_pure _
  · exact .of_pure _
  · split
    · next read hread =>
      exact .bind (characterEscape?_tame hread).forward (characterEscape?_justified hread)
        fun _ => .of_pure _
    · have hplain : Syntactic (plainEscape c >>= fun n => pure (Node.char n)) :=
        .bind (plainEscape_syntactic c) fun _ => .of_pure _
      exact .ite (fun _ => (digitEscape_syntactic c).justified _) fun _ => hplain.justified _

/-! ## Sets -/

theorem member_justified (t : Token) : Justified [t] (member t) := by
  cases t with
  | plain c => exact .of_pure _
  | escaped c => exact setEscape_justified c

theorem rangeOf_syntactic (lo hi : Token) (first last : SetItem) :
    Syntactic (rangeOf lo hi first last) := by
  unfold rangeOf
  split
  · exact .ite (fun _ => .of_fail ..) fun _ => .of_pure _
  · exact .of_fail ..

theorem memberOrRange_justified (start : Nat) (t : Token) :
    Justified [t] (memberOrRange start t) := by
  refine .bind (member_tame t).forward (member_justified t) fun item => ?_
  refine .syntactic_bind (skip_local '-').forward (skip_syntactic '-') fun _ => ?_
  refine .ite (fun _ => .of_pure _) fun _ => .next_bind (.of_failAt ..) fun u => ?_
  refine .ite (fun _ => .of_pure _) fun _ => ?_
  refine .bind (member_tame u).forward (member_justified u) fun last => ?_
  have hrange : Syntactic (rangeOf t u item last >>= fun range => pure ([range], false)) :=
    .bind (rangeOf_syntactic ..) fun _ => .of_pure _
  exact hrange.justified _

theorem moreMembers_justified (start : Nat) (found : List SetItem) :
    Justified [] (moreMembers start found) := by
  refine .next_bind (.of_failAt ..) fun t => .ite (fun _ => .of_pure _) fun _ => ?_
  exact .bind (memberOrRange_local start start t).forward (memberOrRange_justified start t)
    fun _ => .of_pure _

theorem members_justified (start bound : Nat) (found : List SetItem) :
    Justified [] (members start bound found) := by
  induction bound generalizing found with
  | zero => exact (Syntactic.of_failAt ..).justified _
  | succ bound ih =>
    refine .bind (moreMembers_local start start found).forward (moreMembers_justified start found)
      fun p => ?_
    exact .ite (fun _ => .of_pure _) fun _ => ih _

theorem members_forward (start bound : Nat) (found : List SetItem) :
    Forward (members start bound found) := by
  intro s items s' h
  obtain ⟨u, hu, -⟩ := members_ok h
  exact ⟨u, hu.symm⟩

theorem bracket_justified : Justified [] bracket := by
  refine .of_get fun s => ?_
  refine .syntactic_bind (skip_local '^').forward (skip_syntactic '^') fun _ => .of_get fun s => ?_
  exact .bind (members_forward ..) (members_justified ..) fun _ => .of_pure _

/-! ## Repetitions -/

theorem boundsText_local :
    Local (fun _ a u _ => a.2.2 = true → IsBounds a.1 a.2.1 u) boundsText boundsText := by
  have hclose (lo hi : List Char) :
      Local (fun _ a u _ => a.1 = lo ∧ a.2.1 = hi ∧ (a.2.2 = true → u = [.plain '\x7d']))
        (skip '\x7d' >>= fun closed => pure (lo, hi, closed))
        (skip '\x7d' >>= fun closed => pure (lo, hi, closed)) := by
    refine Local.bind (skip_local '\x7d') ?_
    rintro s closed u s₁ ⟨rfl, -, -⟩
    refine Local.of_pure ?_
    rintro _ rfl
    refine ⟨rfl, rfl, ?_⟩
    rintro rfl
    rfl
  refine Local.bind (allCharsOf_local isAsciiDigit) ?_
  rintro s lo u s₁ ⟨rfl, hlo, -⟩
  refine Local.bind (skip_local ',') ?_
  rintro s₂ comma v s₃ ⟨rfl, -, -⟩
  cases comma with
  | false =>
    refine (hclose lo lo).mono ?_
    rintro s₄ ⟨lo', hi', closed⟩ w s₅ - ⟨hlo', hhi', hw⟩ rfl rfl hclosed
    obtain rfl : lo' = lo := hlo'
    obtain rfl : hi' = lo' := hhi'
    rw [hw hclosed]
    exact .one hlo
  | true =>
    refine Local.bind (allCharsOf_local isAsciiDigit) ?_
    rintro s₄ hi x s₅ ⟨rfl, hhi, -⟩
    refine (hclose lo hi).mono ?_
    rintro s₆ ⟨_, _, closed⟩ w s₇ - ⟨rfl, rfl, hw⟩ rfl rfl rfl hclosed
    rw [hw hclosed]
    exact .two hlo hhi

/-- A bound that is too large, or has too many digits. -/
theorem boundOf_error {digits : List Char} {s : Source} {e : Failure}
    (h : boundOf digits s = .error e) :
    (e = .tooManyDigits digits.length ∧ Text.digitLimit < digits.length) ∨
      (e = .repeatTooLarge ∧ repeatLimit ≤ numberOf 10 digits) := by
  unfold boundOf at h
  split at h
  · next hmany =>
    cases h
    exact .inl ⟨rfl, hmany⟩
  · dsimp only at h
    split at h
    · next hlarge =>
      cases h
      exact .inr ⟨rfl, hlarge⟩
    · cases h

theorem boundIn_error {digits : List Char} {s : Source} {e : Failure}
    (h : boundIn digits s = .error e) : boundOf digits s = .error e := by
  unfold boundIn at h
  split at h
  · cases h
  · rcases bind_error.mp h with h | ⟨_, _, -, h⟩
    · exact h
    · cases h

theorem boundsOf_error {place : Nat} {lo hi : List Char} {s : Source} {e : Failure}
    (h : boundsOf place lo hi s = .error e) :
    e.IsSyntax ∨ ∃ digits, (digits = lo ∨ digits = hi) ∧
      ((e = .tooManyDigits digits.length ∧ Text.digitLimit < digits.length) ∨
        (e = .repeatTooLarge ∧ repeatLimit ≤ numberOf 10 digits)) := by
  rcases bind_error.mp h with h | ⟨least, s₁, -, h⟩
  · exact .inr ⟨lo, .inl rfl, boundOf_error (boundIn_error h)⟩
  rcases bind_error.mp h with h | ⟨most, s₂, -, h⟩
  · exact .inr ⟨hi, .inr rfl, boundOf_error (boundIn_error h)⟩
  refine .inl (Syntactic.ite (fun _ => .failAt_bind ..) (fun _ => .of_pure _) h)

theorem bounds?_justified : Justified [.plain '\x7b'] bounds? := by
  intro s e h
  rw [bounds?, get_bind, peek_bind] at h
  split at h
  · cases h
  rcases bind_error.mp h with h | ⟨⟨lo, hi, closed⟩, s₁, htext, h⟩
  · exact .inl (boundsText_syntactic h)
  cases closed with
  | false => cases h
  | true =>
    obtain ⟨u, hu, hbounds, -⟩ := boundsText_local htext
    rcases bind_error.mp h with h | ⟨_, _, -, h⟩
    · have hin (digits : List Char) (hdigits : digits = lo ∨ digits = hi) :
          HoldsBound (.plain '\x7b' :: s.rest) digits := by
        refine ⟨lo, hi, u, hbounds rfl, ?_, hdigits⟩
        rw [hu]
        exact (List.prefix_append (.plain '\x7b' :: u) s₁.rest).isInfix
      rcases boundsOf_error h with hsyntax | ⟨digits, hdigits, ⟨rfl, hmany⟩ | ⟨rfl, hlarge⟩⟩
      · exact .inl hsyntax
      · exact .inr (.digits hmany (hin digits hdigits))
      · exact .inr (.count hlarge (hin digits hdigits))
    · cases h

theorem quantifier?_justified (t : Token) : Justified [t] (quantifier? t) := by
  unfold quantifier?
  split
  · exact .of_pure _
  · exact .of_pure _
  · exact .of_pure _
  · exact bounds?_justified
  · exact .of_pure _

/-! ## Items -/

/-- A character that is no escape exceeds nothing, unless it starts a set. -/
theorem item_plain_justified (c : Char) : Justified [] (item (.plain c)) := by
  unfold item
  split
  · next heq => cases heq
  · exact bracket_justified
  · exact .of_pure _
  · exact .of_pure _
  · exact .of_pure _
  · exact .of_pure _

theorem itemOrLoop_justified (done : List Node) (start : Nat) (t : Token) :
    Justified [t] (itemOrLoop done start t) := by
  cases t with
  | escaped c =>
    change Justified _ (escape c >>= fun node => pure (node :: done))
    exact .bind (escape_tame c).forward (escape_justified c) fun _ => .of_pure _
  | plain c =>
    refine .bind (quantifier?_tame (.plain c)).forward (quantifier?_justified (.plain c))
      fun bounds => ?_
    cases bounds with
    | none =>
      refine .bind ?_ (item_plain_justified c) fun _ => .of_pure _
      by_cases hset : c = '['
      · rw [hset]
        exact bracket_local.forward
      · exact (item_tame fun h => hset (Token.plain.inj h)).forward
    | some bounds =>
      have hloop : Syntactic (repeatable start done.head? >>= fun body => greedOf >>= fun greed =>
          pure (Node.loop greed bounds.1 bounds.2 body :: done.tail)) :=
        .bind (repeatable_syntactic _ _) fun _ => .bind greedOf_syntactic fun _ => .of_pure _
      exact hloop.justified _

end Read

end Linting.Regex
