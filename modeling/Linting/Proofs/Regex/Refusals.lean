import Linting.Proofs.Regex.Excess
import Linting.Proofs.Regex.Sequences
import Linting.Regex.Compile

/-! Why texts are no regular expressions. A text that is refused for another reason than its syntax
holds a stretch that exceeds what can be built, or sets flags so that both alphabets hold. Main
facts: by one induction on the bound of the reader, sequences and alternatives are refused for these
reasons only, and so are whole expressions. -/

namespace Linting.Regex
set_option autoImplicit false

variable {α β : Type}

/-! ## Alphabets that a text sets -/

/-- Whether a text holds a group that sets flags for the whole expression, a given letter among
them. -/
def HoldsGlobal (text : List Token) (letter : Char) : Prop :=
  ∃ letters : List Char, (∀ c ∈ letters, (inlineFlag? c).isSome) ∧ letter ∈ letters ∧
    .plain '(' :: .plain '?' :: (letters.map .plain ++ [.plain ')']) <:+: text

theorem HoldsGlobal.mono {text text' : List Token} {letter : Char} (h : HoldsGlobal text letter)
    (htext : text <:+: text') : HoldsGlobal text' letter := by
  obtain ⟨letters, hletters, hmem, hin⟩ := h
  exact ⟨letters, hletters, hmem, hin.trans htext⟩

/-- What reading a text does to the alphabets: one that comes to hold is set in the text. -/
structure SetsAlphabets (text : List Token) (old new : Flags) : Prop where
  ascii : new.ascii = true → old.ascii = true ∨ HoldsGlobal text 'a'
  unicode : new.unicode = true → old.unicode = true ∨ HoldsGlobal text 'u'

namespace SetsAlphabets

theorem of_eq (text : List Token) {old new : Flags} (h : new = old) :
    SetsAlphabets text old new := by
  rw [h]
  exact ⟨.inl, .inl⟩

theorem mono {text text' : List Token} {old new : Flags} (h : SetsAlphabets text old new)
    (htext : text <:+: text') : SetsAlphabets text' old new where
  ascii := fun hnew => (h.ascii hnew).imp_right fun hin => hin.mono htext
  unicode := fun hnew => (h.unicode hnew).imp_right fun hin => hin.mono htext

theorem trans {text : List Token} {old mid new : Flags} (h : SetsAlphabets text old mid)
    (h' : SetsAlphabets text mid new) : SetsAlphabets text old new where
  ascii := fun hnew => (h'.ascii hnew).elim h.ascii .inr
  unicode := fun hnew => (h'.unicode hnew).elim h.unicode .inr

end SetsAlphabets

/-- Flag letters are characters. -/
theorem exists_letters {w : List Token} (h : ∀ t ∈ w, (t.char?.bind inlineFlag?).isSome) :
    ∃ letters : List Char, w = letters.map .plain ∧ ∀ c ∈ letters, (inlineFlag? c).isSome := by
  induction w with
  | nil => exact ⟨[], rfl, by simp⟩
  | cons t w ih =>
    obtain ⟨ht, hw⟩ := List.forall_mem_cons.mp h
    obtain ⟨letters, rfl, hletters⟩ := ih hw
    cases t with
    | escaped c => cases ht
    | plain c => exact ⟨c :: letters, rfl, List.forall_mem_cons.mpr ⟨ht, hletters⟩⟩

theorem Read.Letters.setsAlphabets {w rest : List Token} {on flags : Flags} (h : Letters w on) :
    SetsAlphabets (.plain '(' :: .plain '?' :: (w ++ [.plain ')']) ++ rest) flags
      (flags.union on) := by
  obtain ⟨letters, rfl, hletters⟩ := exists_letters h.1
  have hset (letter : Char) (hon : (letters.map Token.plain).contains (.plain letter) = true) :
      HoldsGlobal (.plain '(' :: .plain '?' :: (letters.map .plain ++ [.plain ')']) ++ rest)
        letter := by
    refine ⟨letters, hletters, ?_, (List.prefix_append _ rest).isInfix⟩
    obtain ⟨c, hc, heq⟩ := List.mem_map.mp (List.contains_iff_mem.mp hon)
    exact Token.plain.inj heq ▸ hc
  have hascii : on.ascii = _ :=
    h.switch (fun _ _ => rfl) (fun c flag hc => (inlineFlag?_switches c flag hc).2.1) rfl
  have hunicode : on.unicode = _ :=
    h.switch (fun _ _ => rfl) (fun c flag hc => (inlineFlag?_switches c flag hc).2.2) rfl
  refine ⟨fun hnew => ?_, fun hnew => ?_⟩
  · rcases (Bool.or_eq_true ..).mp hnew with hold | hon
    · exact .inl hold
    · exact .inr (hset 'a' (hascii ▸ hon))
  · rcases (Bool.or_eq_true ..).mp hnew with hold | hon
    · exact .inl hold
    · exact .inr (hset 'u' (hunicode ▸ hon))

/-! ## Accounts of reading -/

/-- What is known of a result of reading from a state, some tokens in front of it: it lies further
on in the text, alphabets it brings are set in between, and a failure is a syntax error or there is
a stretch that exceeds. -/
structure Account (front : List Token) (s : Source) (r : Except Failure (α × Source)) : Prop where
  forward : ∀ ⦃a : α⦄ ⦃s' : Source⦄, r = .ok (a, s') → s'.rest <:+ s.rest
  alphabets : ∀ ⦃a : α⦄ ⦃s' : Source⦄, r = .ok (a, s') →
    SetsAlphabets (front ++ s.rest) s.flags s'.flags
  justified : ∀ ⦃e : Failure⦄, r = .error e → e.IsSyntax ∨ Exceeds (front ++ s.rest) e

/-- Whether all results of an action have an account. -/
def Accounted (front : List Token) (f : Read α) : Prop := ∀ s, Account front s (f s)

namespace Accounted

variable {front : List Token}

theorem toForward {f : Read α} (h : Accounted front f) : Forward f := fun s _ _ hok =>
  (h s).forward hok

theorem of_keeps {f : Read α} (hforward : Forward f)
    (hflags : ∀ s a s', f s = .ok (a, s') → s'.flags = s.flags) (hf : Justified front f) :
    Accounted front f := fun _ =>
  ⟨fun _ _ hok => hforward hok, fun _ _ hok => .of_eq _ (hflags _ _ _ hok), fun _ he => hf he⟩

theorem of_local {fits : Source → α → List Token → Source → Prop} {f g : Read α}
    (h : Local fits f g) (hflags : ∀ s a u s', fits s a u s' → s'.flags = s.flags)
    (hf : Justified front f) : Accounted front f := by
  refine .of_keeps h.forward (fun s a s' hok => ?_) hf
  obtain ⟨u, -, hfits, -⟩ := h hok
  exact hflags _ _ _ _ hfits

theorem of_pure (a : α) : Accounted front (pure a : Read α) := by
  refine .of_keeps (fun s _ s' h => ?_) (fun s _ s' h => ?_) (.of_pure a)
  · cases h
    exact List.suffix_rfl
  · cases h
    rfl

theorem of_never_ok {f : Read α} (h : ∀ s a s', f s ≠ .ok (a, s')) (hf : Syntactic f) :
    Accounted front f :=
  .of_keeps (fun s a s' hok => absurd hok (h s a s')) (fun s a s' hok => absurd hok (h s a s'))
    (hf.justified front)

theorem of_fail (cause : Cause) (back : Nat) : Accounted front (Read.fail cause back : Read α) :=
  .of_never_ok (fun _ _ _ h => Read.fail_ne_ok _ _ _ _ h) (.of_fail cause back)

theorem of_failAt (cause : Cause) (place : Nat) :
    Accounted front (Read.failAt cause place : Read α) :=
  .of_never_ok (fun _ _ _ h => Read.failAt_ne_ok _ _ _ _ h) (.of_failAt cause place)

/-- Changing what is known of groups. -/
theorem of_modify {φ : Source → Source} (hrest : ∀ s, (φ s).rest = s.rest)
    (hflags : ∀ s, (φ s).flags = s.flags) : Accounted front (modify φ : Read Unit) := by
  refine .of_keeps (fun s _ s' h => ?_) (fun s _ s' h => ?_) ((Syntactic.of_modify φ).justified _)
  · cases h
    exact hrest s ▸ List.suffix_rfl
  · cases h
    exact hflags s

theorem bind {f : Read α} {g : α → Read β} (hf : Accounted front f)
    (hg : ∀ a, Accounted [] (g a)) : Accounted front (f >>= g) := by
  intro s
  refine ⟨fun b s' hok => ?_, fun b s' hok => ?_, ?_⟩
  · obtain ⟨a, s₁, hok₁, hok₂⟩ := Read.bind_ok.mp hok
    exact ((hg a s₁).forward hok₂).trans ((hf s).forward hok₁)
  · obtain ⟨a, s₁, hok₁, hok₂⟩ := Read.bind_ok.mp hok
    refine ((hf s).alphabets hok₁).trans (((hg a s₁).alphabets hok₂).mono ?_)
    exact ((hf s).forward hok₁).isInfix.trans (List.suffix_append front s.rest).isInfix
  · exact fun e he => Justified.bind hf.toForward (fun s _ he => (hf s).justified he)
      (fun a s e he => (hg a s).justified he) he

theorem of_get {f : Source → Read α} (h : ∀ s, Accounted front (f s)) :
    Accounted front (get >>= f) := fun s => h s s

theorem ite {c : Prop} [Decidable c] {f g : Read α} (hf : c → Accounted front f)
    (hg : ¬ c → Accounted front g) : Accounted front (if c then f else g) := by
  split
  · exact hf ‹_›
  · exact hg ‹_›

theorem mono {f : Read α} (h : Accounted [] f) : Accounted front f := by
  intro s
  have hin : [] ++ s.rest <:+: front ++ s.rest := (List.suffix_append front s.rest).isInfix
  exact ⟨(h s).forward, fun _ _ hok => ((h s).alphabets hok).mono hin,
    fun _ he => ((h s).justified he).imp_right fun hexceeds => hexceeds.mono hin⟩

end Accounted

namespace Read

/-! ## Heads and ends of groups -/

theorem skip_accounted (c : Char) : Accounted [] (skip c) :=
  .of_local (skip_local c) (fun _ _ _ _ hfits => hfits.2.1.flags) ((skip_syntactic c).justified _)

theorem upTo_accounted (stop : Char) : Accounted [] (upTo stop) := by
  refine .of_keeps (fun s _ s' h => ?_) (fun s _ s' h => ?_) ((upTo_syntactic stop).justified _)
  · obtain ⟨-, ⟨-, hnil, -⟩ | ⟨w, -, hrest, -⟩⟩ := upTo_ok h
    · rw [hnil]
      exact List.nil_suffix
    · exact ⟨w ++ [.plain stop], by simp [hrest]⟩
  · exact (upTo_ok h).1.keeps.flags

theorem closeParenthesis_accounted (start : Nat) : Accounted [] (closeParenthesis start) :=
  .bind (skip_accounted ')') fun _ => .ite (fun _ => .of_failAt _ _) fun _ => .of_pure _

theorem groupHead_accounted (start : Nat) : Accounted [.plain '('] (groupHead start) := by
  intro s
  refine ⟨fun _ _ hok => (groupHead_local start start).forward hok, fun head s' hok => ?_,
    fun e he => .inl (groupHead_syntactic start he)⟩
  obtain ⟨u, hu, hread, -⟩ := groupHead_local start start hok
  -- no other head changes the flags of the whole expression
  by_cases hglobal : head = .globalFlags
  · subst hglobal
    cases hread with
    | @globalFlags on w hkeeps hletters hflags =>
      rw [hflags, hu]
      exact hletters.setsAlphabets
  · exact .of_eq _ (hread.keeps.2 hglobal)

theorem openGroup_accounted (name : Option String) : Accounted [] (openGroup name) := by
  have hopen {s s' : Source} {group : Nat} (h : openGroup name s = .ok (group, s')) :
      s'.rest = s.rest ∧ s'.flags = s.flags := by
    obtain ⟨hflags, hreading⟩ := openGroup_reading (m := ⟨false, []⟩) h
    exact ⟨hreading.lays.tokens.symm, hflags⟩
  exact .of_keeps (fun _ _ _ h => (hopen h).1 ▸ List.suffix_rfl) (fun _ _ _ h => (hopen h).2)
    ((openGroup_syntactic name).justified _)

theorem enterLookbehind_accounted : Accounted [] enterLookbehind := by
  refine .of_keeps (fun s _ s' h => ?_) (fun s _ s' h => ?_) (enterLookbehind_syntactic.justified _)
  · cases h
    exact List.suffix_rfl
  · cases h
    rfl

/-! ## Groups -/

section Groups

variable {inside : Bool → Read (List Node)} {branch : Read (List Node)}

/-- A body and the parenthesis that closes it. -/
theorem enclosed_accounted {body : Read α} (hbody : Accounted [] body) (start : Nat)
    {k : α → Read β} (hk : ∀ a, Accounted [] (k a)) :
    Accounted [] (body >>= fun a => closeParenthesis start >>= fun _ => k a) :=
  .bind hbody fun a => .bind (closeParenthesis_accounted start) fun _ => hk a

theorem branches_accounted (hbranch : Accounted [] branch) (group : Nat) :
    Accounted [] (branches branch group) := by
  refine .bind hbranch fun yes => .bind (skip_accounted '|') fun bar => ?_
  refine .ite (fun _ => .bind hbranch fun no => ?_) fun _ => .of_pure _
  have hpeek : Accounted [] peek :=
    .of_local peek_local (fun _ _ _ _ hfits => by rw [hfits.2.2]) (peek_syntactic.justified _)
  exact .bind hpeek fun _ => .ite (fun _ => .bind (.of_fail _ _) fun _ => .of_pure _)
    fun _ => .of_pure _

theorem afterHead_accounted (hinside : ∀ v, Accounted [] (inside v))
    (hbranch : Accounted [] branch) (verbose first : Bool) (done : List Node) (start : Nat)
    (head : GroupHead) : Accounted [] (afterHead inside branch verbose first done start head) := by
  cases head with
  | comment => exact .of_pure _
  | globalFlags =>
    refine .ite (fun _ => .bind (.of_failAt _ _) fun _ => ?_) fun _ => ?_
    · exact .of_get fun _ => .of_pure _
    · exact .of_get fun _ => .of_pure _
  | reference node => exact .of_pure _
  | capture name =>
    refine .bind (openGroup_accounted name) fun group => ?_
    exact enclosed_accounted (hinside _) start fun _ => .bind (.of_modify (fun _ => rfl)
      fun _ => rfl) fun _ => .of_pure _
  | switched on off => exact enclosed_accounted (hinside _) start fun _ => .of_pure _
  | atomic => exact enclosed_accounted (hinside _) start fun _ => .of_pure _
  | ahead negated => exact enclosed_accounted (hinside _) start fun _ => .of_pure _
  | behind negated =>
    refine .bind enterLookbehind_accounted fun outer => .bind (hinside _) fun _ => ?_
    refine .bind (.of_modify (fun _ => rfl) fun _ => rfl) fun _ => ?_
    exact .bind (closeParenthesis_accounted start) fun _ => .of_pure _
  | condition group =>
    exact enclosed_accounted (branches_accounted hbranch group) start fun _ => .of_pure _

theorem itemOrLoop_accounted (done : List Node) (start : Nat) (t : Token) :
    Accounted [t] (itemOrLoop done start t) := by
  have hjustified := itemOrLoop_justified done start t
  by_cases hset : t = .plain '['
  · subst hset
    exact .of_local (itemOrLoop_set done start start) (fun _ _ _ _ hfits => hfits.1.flags)
      hjustified
  · exact .of_local (itemOrLoop_tame done start start hset)
      (fun _ _ _ _ hfits => hfits.2.flags) hjustified

theorem turn_accounted (hinside : ∀ v, Accounted [] (inside v)) (hbranch : Accounted [] branch)
    (verbose first : Bool) (done : List Node) (start : Nat) (t : Token) :
    Accounted [t] (turn inside branch verbose first done start t) := by
  by_cases hopen : t = .plain '('
  · subst hopen
    rw [turn_group]
    exact .bind (groupHead_accounted start) fun head =>
      afterHead_accounted hinside hbranch verbose first done start head
  by_cases hblank : verbose = true ∧ t.isPlain isVerboseBlank = true
  · obtain ⟨rfl, hblank⟩ := hblank
    rw [turn_blank _ _ _ _ _ hblank]
    exact .of_pure _
  by_cases hremark : verbose = true ∧ t = .plain '#'
  · obtain ⟨rfl, rfl⟩ := hremark
    rw [turn_remark]
    exact .bind (upTo_accounted '\n').mono fun _ => .of_pure _
  · rw [turn_item _ _ _ _ _ hopen fun hverbose =>
      ⟨Bool.eq_false_iff.mpr fun h => hblank ⟨hverbose, h⟩, fun h => hremark ⟨hverbose, h⟩⟩]
    exact .bind (itemOrLoop_accounted done start t) fun _ => .of_pure _

end Groups

/-! ## Sequences and alternatives -/

/-- A token that is read next is in front of what comes behind it. -/
theorem next_bind_account {f : Read α} {t : Token} (hf : Accounted [t] f) {s : Source}
    (hhead : s.rest.head? = some t) : Account [] s ((next >>= fun _ => f) s) := by
  have hnext {o : Option Token} {s₁ : Source} (h : next s = .ok (o, s₁)) :
      s.rest = [t] ++ s₁.rest ∧ s₁.flags = s.flags := by
    obtain ⟨-, -, ⟨rfl, -⟩, -⟩ := next_local h
    rw [hhead] at h
    obtain ⟨hrest, hmoved⟩ := next_ok h
    exact ⟨hrest, hmoved.keeps.flags⟩
  refine ⟨fun a s' hok => ?_, fun a s' hok => ?_, fun e he => ?_⟩
  · obtain ⟨o, s₁, ho, hok⟩ := bind_ok.mp hok
    rw [(hnext ho).1]
    exact ((hf s₁).forward hok).trans (List.suffix_append ..)
  · obtain ⟨o, s₁, ho, hok⟩ := bind_ok.mp hok
    rw [← (hnext ho).2, (hnext ho).1]
    exact (hf s₁).alphabets hok
  · rcases bind_error.mp he with he | ⟨o, s₁, ho, he⟩
    · exact .inl (next_syntactic he)
    · rw [(hnext ho).1]
      exact (hf s₁).justified he

theorem sequence_accounted {bound : Nat}
    (hseq : ∀ verbose first done, Accounted [] (sequence bound verbose first done))
    (halt : ∀ verbose top done, Accounted [] (alternatives bound verbose top done))
    (verbose first : Bool) (done : List Node) :
    Accounted [] (sequence (bound + 1) verbose first done) := by
  intro s
  by_cases hstop : ∀ t, s.rest.head? = some t → t = .plain '|' ∨ t = .plain ')'
  · rw [sequence_stop hstop]
    exact Accounted.of_pure (done.reverse.flatMap Node.items) s
  · obtain ⟨t, hstop⟩ := Classical.not_forall.mp hstop
    rw [Classical.not_imp, not_or] at hstop
    obtain ⟨hhead, hbar, hclose⟩ := hstop
    rw [sequence_more hhead hbar hclose, bind_assoc]
    have hturn := turn_accounted (fun inner => halt inner false []) (hseq verbose false []) verbose
      first done s.position t
    exact next_bind_account (hturn.bind fun p => hseq p.1 first p.2) hhead

theorem orMore_accounted {more : Bool → Read (List Node)} (hmore : ∀ v, Accounted [] (more v))
    (verbose top : Bool) (read : List (List Node)) (bar : Bool) :
    Accounted [] (orMore more verbose top read bar) :=
  .ite (fun _ => .of_get fun _ => hmore _) fun _ => .of_pure _

/-- By induction on the bound: what is read under a bound calls only for what is read under the
next smaller one. -/
theorem reads_accounted (bound : Nat) :
    (∀ verbose first done, Accounted [] (sequence bound verbose first done)) ∧
      ∀ verbose top done, Accounted [] (alternatives bound verbose top done) := by
  induction bound with
  | zero => exact ⟨fun _ _ _ => .of_fail _ _, fun _ _ _ => .of_fail _ _⟩
  | succ bound ih =>
    obtain ⟨hseq, halt⟩ := ih
    refine ⟨sequence_accounted hseq halt, fun verbose top done => ?_⟩
    rw [alternatives]
    exact .bind (hseq _ _ _) fun branch => .bind (skip_accounted '|') fun bar =>
      orMore_accounted (fun v => halt v top (done ++ [branch])) verbose top _ bar

end Read

/-! ## Whole expressions -/

theorem settleAlphabet_error {flags : Flags} {e : Failure} (h : settleAlphabet flags = .error e) :
    e = .alphabetsIncompatible ∧ flags.ascii = true ∧ flags.unicode = true := by
  unfold settleAlphabet at h
  split at h
  · cases h
  · next hascii =>
    split at h
    · next hunicode =>
      cases h
      exact ⟨rfl, by simpa using hascii, hunicode⟩
    · cases h

theorem finish_error {root : Node} {s : Source} {e : Failure} (h : finish root s = .error e) :
    e.IsSyntax ∨ e = .alphabetsIncompatible ∧ s.flags.ascii = true ∧ s.flags.unicode = true := by
  rw [finish, Read.get_bind] at h
  cases hflags : settleAlphabet s.flags with
  | error failure =>
    rw [hflags] at h
    cases h
    exact .inr (settleAlphabet_error hflags)
  | ok flags =>
    have hlift (k : Flags → Read Expression) :
        ((liftM (Except.ok flags : Except Failure Flags) : Read Flags) >>= k) s = k flags s := rfl
    rw [hflags, hlift] at h
    dsimp only at h
    refine .inl (Syntactic.ite (fun _ => ?_) (fun _ => .fail_bind ..) h)
    split
    · exact .of_failAt ..
    · exact .of_pure _

/-- A text asks for both alphabets, with the flags that it is read under or by flags of its own. -/
structure AsksBoth (text : List Token) (flags : Flags) : Prop where
  ascii : flags.ascii = true ∨ HoldsGlobal text 'a'
  unicode : flags.unicode = true ∨ HoldsGlobal text 'u'

theorem read_error {text : List Char} {flags : Flags} {e : Failure}
    (h : Expression.read text flags = .error e) :
    e.IsSyntax ∨ Exceeds (tokens text).1 e ∨
      e = .alphabetsIncompatible ∧ AsksBoth (tokens text).1 flags := by
  have hread : Expression.read text flags = (readAll (2 * (tokens text).1.length + 2) flags
      (startOf text flags)).map Prod.fst := rfl
  rw [hread] at h
  have hall : readAll (2 * (tokens text).1.length + 2) flags (startOf text flags) = .error e := by
    cases hall : readAll (2 * (tokens text).1.length + 2) flags (startOf text flags) with
    | error e' =>
      rw [hall] at h
      cases h
      rfl
    | ok p =>
      rw [hall] at h
      cases h
  rw [readAll, Read.get_bind] at hall
  rcases Read.bind_error.mp hall with hmove | ⟨_, s, hmove, hall⟩
  · exact .inl (Read.moveTo_syntactic _ _ hmove)
  obtain ⟨-, rfl⟩ := Read.moveTo_ok.mp hmove
  have haccount := (Read.reads_accounted (2 * (tokens text).1.length + 2)).2 flags.verbose true []
    (startOf text flags)
  rcases Read.bind_error.mp hall with halt | ⟨items, s', halt, hfinish⟩
  · exact (haccount.justified halt).imp_right .inl
  · -- an alphabet that holds at the end was given or has been set on the way
    have hsets := haccount.alphabets halt
    rcases finish_error hfinish with hsyntax | ⟨he, hascii, hunicode⟩
    · exact .inl hsyntax
    · exact .inr (.inr ⟨he, hsets.ascii hascii, hsets.unicode hunicode⟩)

/-- A text that is refused has a syntax error, or holds a stretch that exceeds, or asks for both
alphabets. -/
theorem Expression.compile_error {text : List Char} {flags : Flags} {e : Failure}
    (h : Expression.compile text flags = .error e) :
    e.IsSyntax ∨ Exceeds (tokens text).1 e ∨
      e = .alphabetsIncompatible ∧ AsksBoth (tokens text).1 flags := by
  rcases bind_eq_error_iff.mp h with h | ⟨expression, -, h⟩
  · exact read_error h
  · split at h
    · cases h
      exact .inl ⟨_, _, rfl⟩
    · cases h

end Linting.Regex
