import Linting.Proofs.Fallible
import Linting.Regex.Source

/-! What the reading of a stretch of text depends on. An action that succeeds has read a stretch of
tokens. Off any other state that knows the same and goes on with the same stretch it does the same,
as long as the texts behind the stretch agree up to the first token that may start a comment.
Main facts: the law holds of the primitive actions and is kept by sequencing. -/

namespace Linting.Regex
set_option autoImplicit false

variable {α β : Type}

/-! ## States that know the same -/

/-- States that differ only in positions and in what is left to read. -/
structure Source.Like (s t : Source) : Prop where
  lone : t.lone = s.lone
  flags : t.flags = s.flags
  names : t.names = s.names
  widths : t.widths = s.widths
  lookbehind : t.groupsBeforeLookbehind = s.groupsBeforeLookbehind
  conditions : t.conditions.map Prod.fst = s.conditions.map Prod.fst

/-- What reading keeps where no group is opened and no flag is set. -/
structure Source.Keeps (s s' : Source) : Prop where
  lone : s'.lone = s.lone
  flags : s'.flags = s.flags
  names : s'.names = s.names
  open_ended : (s.lone = true → s.rest ≠ []) → s'.lone = true → s'.rest ≠ []

namespace Source.Keeps

theorem refl (s : Source) : s.Keeps s := ⟨rfl, rfl, rfl, id⟩

theorem trans {s s' s'' : Source} (h : s.Keeps s') (h' : s'.Keeps s'') : s.Keeps s'' where
  lone := h'.lone.trans h.lone
  flags := h'.flags.trans h.flags
  names := h'.names.trans h.names
  open_ended := fun ho => h'.open_ended (h.open_ended ho)

theorem without_flags {s s' : Source} (h : s.Keeps s') : s.Keeps { s' with flags := s.flags } :=
  ⟨h.lone, rfl, h.names, h.open_ended⟩

/-- A text that has been read to its end does not end in a lone backslash. -/
theorem closed {s s' : Source} (h : s.Keeps s') (hs : s.rest ≠ []) (hs' : s'.rest = []) :
    s.lone = false := by
  cases hl : s.lone with
  | false => rfl
  | true => exact absurd hs' (h.open_ended (fun _ => hs) (h.lone.trans hl))

end Source.Keeps

/-- What reading changes where it only goes on in the text. -/
structure Source.Moved (s s' : Source) : Prop where
  same : s' = { s with rest := s'.rest, position := s'.position }
  open_ended : (s.lone = true → s.rest ≠ []) → s'.lone = true → s'.rest ≠ []

namespace Source.Moved

theorem refl (s : Source) : s.Moved s := ⟨rfl, id⟩

theorem trans {s s' s'' : Source} (h : s.Moved s') (h' : s'.Moved s'') : s.Moved s'' where
  same := by rw [h'.same, h.same]
  open_ended := fun ho => h'.open_ended (h.open_ended ho)

theorem keeps {s s' : Source} (h : s.Moved s') : s.Keeps s' where
  lone := by rw [h.same]
  flags := by rw [h.same]
  names := by rw [h.same]
  open_ended := h.open_ended

theorem like {s s' t : Source} (h : s.Moved s') (hlike : s.Like t) (rest : List Token)
    (place : Nat) : s'.Like { t with rest, position := place } := by
  rw [h.same]
  exact ⟨hlike.lone, hlike.flags, hlike.names, hlike.widths, hlike.lookbehind, hlike.conditions⟩

end Source.Moved

/-! ## Texts that agree in front of comments -/

/-- Whether a comment may start with the token. -/
def Token.mayStartComment (t : Token) : Prop := t = .plain '(' ∨ t = .plain '#'

/-- Texts that are the same up to the first token that may start a comment, that token included. -/
inductive Agree : List Token → List Token → Prop where
  | nil : Agree [] []
  | stop {t : Token} (ts us : List Token) (h : t.mayStartComment) : Agree (t :: ts) (t :: us)
  | cons {ts us : List Token} (t : Token) (h : Agree ts us) : Agree (t :: ts) (t :: us)

namespace Agree

theorem append {ts us : List Token} (pre : List Token) (h : Agree ts us) :
    Agree (pre ++ ts) (pre ++ us) := by
  induction pre with
  | nil => exact h
  | cons t pre ih => exact .cons t ih

theorem head? {ts us : List Token} (h : Agree ts us) : us.head? = ts.head? := by
  cases h <;> rfl

theorem eq_nil_iff {ts us : List Token} (h : Agree ts us) : us = [] ↔ ts = [] := by
  cases h <;> simp

theorem of_cons {t : Token} {ts us : List Token} (h : Agree (t :: ts) us)
    (ht : ¬ t.mayStartComment) : ∃ us', us = t :: us' ∧ Agree ts us' := by
  cases h with
  | stop _ us' hs => exact absurd hs ht
  | cons _ h => exact ⟨_, rfl, h⟩

theorem of_append {pre ts us : List Token} (h : Agree (pre ++ ts) us)
    (hpre : ∀ t ∈ pre, ¬ t.mayStartComment) : ∃ us', us = pre ++ us' ∧ Agree ts us' := by
  induction pre generalizing us with
  | nil => exact ⟨us, rfl, h⟩
  | cons t pre ih =>
    obtain ⟨us', rfl, h'⟩ := h.of_cons (hpre t (List.mem_cons_self ..))
    obtain ⟨us'', rfl, h''⟩ := ih h' fun u hu => hpre u (List.mem_cons_of_mem _ hu)
    exact ⟨us'', rfl, h''⟩

end Agree

/-- Where a text that is not empty has been read to its end, no lone backslash ends it, nor any
text that agrees with it. -/
theorem Source.Keeps.lone_of_agree {s s' t : Source} {r : List Token} (h : s.Keeps s')
    (hs : s.rest ≠ []) (hlike : s.Like t) (hagree : Agree s'.rest r) (hr : r = []) :
    t.lone = false := by
  rw [hlike.lone]
  exact h.closed hs (hagree.eq_nil_iff.mp hr)

/-! ## Local actions -/

/-- What has been read between two states goes through again: off every state that knows the same
and goes on with the same stretch, and then with a text that agrees with what was left. -/
def Again (g : Read α) (s : Source) (u : List Token) (a : α) (s' : Source) : Prop :=
  ∀ ⦃t : Source⦄ ⦃r : List Token⦄, s.Like t → t.rest = u ++ r → Agree s'.rest r →
    ∃ t', g t = .ok (a, t') ∧ t'.rest = r ∧ s'.Like t'

/-- Where `f` succeeds it has read a stretch that fits, and with `g` it goes through again. -/
def Local (fits : Source → α → List Token → Source → Prop) (f g : Read α) : Prop :=
  ∀ ⦃s : Source⦄ ⦃a : α⦄ ⦃s' : Source⦄, f s = .ok (a, s') →
    ∃ u, s.rest = u ++ s'.rest ∧ fits s a u s' ∧ Again g s u a s'

namespace Read

theorem bind_ok {f : Read α} {g : α → Read β} {s s' : Source} {b : β} :
    (f >>= g) s = .ok (b, s') ↔ ∃ a s₁, f s = .ok (a, s₁) ∧ g a s₁ = .ok (b, s') := by
  have h : (f >>= g) s = (f s >>= fun p => g p.1 p.2) := rfl
  rw [h, bind_eq_ok_iff]
  constructor
  · intro h
    obtain ⟨⟨a, s₁⟩, h₁, h₂⟩ := h
    exact ⟨a, s₁, h₁, h₂⟩
  · intro h
    obtain ⟨a, s₁, h₁, h₂⟩ := h
    exact ⟨(a, s₁), h₁, h₂⟩

theorem pure_ok {a b : α} {s s' : Source} :
    (pure a : Read α) s = .ok (b, s') ↔ b = a ∧ s' = s := by
  constructor
  · intro h
    cases h
    exact ⟨rfl, rfl⟩
  · intro h
    obtain ⟨rfl, rfl⟩ := h
    rfl

theorem fail_ne_ok (cause : Cause) (back : Nat) (s : Source) (p : α × Source) :
    (fail cause back : Read α) s ≠ .ok p := by
  intro h
  cases h

theorem failAt_ne_ok (cause : Cause) (place : Nat) (s : Source) (p : α × Source) :
    (failAt cause place : Read α) s ≠ .ok p := by
  intro h
  cases h

end Read

theorem Again.bind {f : Read α} {g : α → Read β} {s s₁ s₂ : Source} {u v : List Token} {a : α}
    {b : β} (h₁ : Again f s u a s₁) (hv : s₁.rest = v ++ s₂.rest) (h₂ : Again (g a) s₁ v b s₂) :
    Again (f >>= g) s (u ++ v) b s₂ := by
  intro t r hlike hrest hagree
  rw [List.append_assoc] at hrest
  have hmid : Agree s₁.rest (v ++ r) := by
    rw [hv]
    exact hagree.append v
  obtain ⟨t₁, hft, hrest₁, hlike₁⟩ := h₁ hlike hrest hmid
  obtain ⟨t', hgt, hrest', hlike'⟩ := h₂ hlike₁ hrest₁ hagree
  exact ⟨t', Read.bind_ok.mpr ⟨a, t₁, hft, hgt⟩, hrest', hlike'⟩

namespace Local

variable {P : Source → α → List Token → Source → Prop} {Q : Source → β → List Token → Source → Prop}

theorem mono {P' : Source → α → List Token → Source → Prop} {f g : Read α} (h : Local P f g)
    (himp : ∀ s a u s', s.rest = u ++ s'.rest → P s a u s' → P' s a u s') : Local P' f g := by
  intro s a s' hf
  obtain ⟨u, hu, hP, ht⟩ := h hf
  exact ⟨u, hu, himp s a u s' hu hP, ht⟩

/-- Sequencing: what the first action has read is known where the second one is looked at. -/
theorem bind {f f' : Read α} {g g' : α → Read β} (hf : Local P f f')
    (hg : ∀ s a u s₁, P s a u s₁ →
      Local (fun s₂ b v s' => s₂ = s₁ → Q s b (u ++ v) s') (g a) (g' a)) :
    Local Q (f >>= g) (f' >>= g') := by
  intro s b s' h
  obtain ⟨a, s₁, h₁, h₂⟩ := Read.bind_ok.mp h
  obtain ⟨u, hu, hP, again₁⟩ := hf h₁
  obtain ⟨v, hv, hQ, again₂⟩ := hg s a u s₁ hP h₂
  exact ⟨u ++ v, by rw [hu, hv, List.append_assoc], hQ rfl, again₁.bind hv again₂⟩

theorem of_pure {a : α} (h : ∀ s, P s a [] s) : Local P (pure a) (pure a) := by
  intro s b s' hok
  obtain ⟨rfl, rfl⟩ := Read.pure_ok.mp hok
  refine ⟨[], rfl, h _, ?_⟩
  intro t r hlike hrest _
  exact ⟨t, rfl, hrest, hlike⟩

theorem of_fail (cause : Cause) (back : Nat) (g : Read α) : Local P (Read.fail cause back) g :=
  fun s _ _ h => absurd h (Read.fail_ne_ok cause back s _)

theorem of_failAt (cause : Cause) (place : Nat) (g : Read α) :
    Local P (Read.failAt cause place) g :=
  fun s _ _ h => absurd h (Read.failAt_ne_ok cause place s _)

theorem of_throw (failure : Failure) (g : Read α) : Local P (throw failure) g := by
  intro s a s' h
  cases h

theorem of_never {f : Read α} (h : ∀ s p, f s ≠ .ok p) (g : Read α) : Local P f g :=
  fun s _ _ hok => absurd hok (h s _)

theorem fail_bind (cause : Cause) (back : Nat) (k : α → Read β) (g : Read β) :
    Local Q (Read.fail cause back >>= k) g := by
  refine of_never (fun s p h => ?_) g
  obtain ⟨a, s₁, hfail, -⟩ := Read.bind_ok.mp h
  exact Read.fail_ne_ok _ _ _ _ hfail

theorem failAt_bind (cause : Cause) (place : Nat) (k : α → Read β) (g : Read β) :
    Local Q (Read.failAt cause place >>= k) g := by
  refine of_never (fun s p h => ?_) g
  obtain ⟨a, s₁, hfail, -⟩ := Read.bind_ok.mp h
  exact Read.failAt_ne_ok _ _ _ _ hfail

/-- An action that goes on as its state tells, where states that know the same tell the same. -/
theorem of_get {f g : Source → Read α} (h : ∀ s t, s.Like t → Local P (f s) (g t)) :
    Local P (get >>= f) (get >>= g) := by
  intro s a s' hok
  have hself : s.Like s := ⟨rfl, rfl, rfl, rfl, rfl, rfl⟩
  obtain ⟨u, hu, hP, -⟩ := h s s hself hok
  refine ⟨u, hu, hP, ?_⟩
  intro t r hlike hrest hagree
  obtain ⟨u', hu', -, ht⟩ := h s t hlike hok
  obtain rfl : u' = u := List.append_cancel_right (hu'.symm.trans hu)
  exact ht hlike hrest hagree

/-- A change of what is known that leaves the text alone. -/
theorem of_modify {φ : Source → Source} (hrest : ∀ s, (φ s).rest = s.rest)
    (hlike : ∀ s t, s.Like t → (φ s).Like (φ t)) :
    Local (fun s _ u s' => u = [] ∧ s' = φ s) (modify φ) (modify φ) := by
  intro s a s' h
  cases h
  refine ⟨[], (hrest s).symm, ⟨rfl, rfl⟩, ?_⟩
  intro t r hst ht _
  exact ⟨φ t, rfl, (hrest t).trans ht, hlike s t hst⟩

theorem ite {c : Prop} [Decidable c] {f f' g g' : Read α} (ht : c → Local P f g)
    (he : ¬ c → Local P f' g') : Local P (if c then f else f') (if c then g else g') := by
  by_cases hc : c
  · rw [if_pos hc, if_pos hc]
    exact ht hc
  · rw [if_neg hc, if_neg hc]
    exact he hc

end Local

/-! ## Reading tokens -/

namespace Read

theorem get_bind (f : Source → Read α) (s : Source) : (get >>= f) s = f s s := rfl

theorem moveTo_ok {rest : List Token} {place : Nat} {s s' : Source} {a : Unit} :
    moveTo rest place s = .ok (a, s') ↔
      (rest = [] → s.lone = false) ∧ s' = { s with rest, position := place } := by
  by_cases hc : (rest.isEmpty && s.lone) = true
  · have hrun : moveTo rest place s = .error (.badSyntax .danglingBackslash (some place)) := by
      rw [moveTo, get_bind, if_pos hc]
      rfl
    have hne : ¬ (rest = [] → s.lone = false) := by
      rw [Bool.and_eq_true, List.isEmpty_iff] at hc
      rw [hc.2]
      exact fun h => Bool.noConfusion (h hc.1)
    rw [hrun]
    constructor
    · intro h
      cases h
    · intro h
      exact absurd h.1 hne
  · have hrun : moveTo rest place s = .ok ((), { s with rest, position := place }) := by
      rw [moveTo, get_bind, if_neg hc]
      rfl
    have hlone : rest = [] → s.lone = false := by
      rintro rfl
      simpa using hc
    rw [hrun]
    constructor
    · intro h
      cases h
      exact ⟨hlone, rfl⟩
    · intro h
      obtain ⟨-, rfl⟩ := h
      rfl

/-- Moving on goes through off every state that knows the same. -/
theorem moveTo_local {rest : List Token} {place : Nat} {s s' : Source} {a : Unit}
    (h : moveTo rest place s = .ok (a, s')) :
    s'.rest = rest ∧ s.Moved s' ∧ ∀ ⦃t : Source⦄ ⦃r : List Token⦄ (q : Nat), s.Like t →
      Agree rest r → ∃ t', moveTo r q t = .ok (a, t') ∧ t'.rest = r ∧ s'.Like t' := by
  obtain ⟨hlone, rfl⟩ := moveTo_ok.mp h
  have hmoved : s.Moved { s with rest, position := place } := by
    refine ⟨rfl, ?_⟩
    intro _ hl hr
    exact Bool.noConfusion (hl.symm.trans (hlone hr))
  refine ⟨rfl, hmoved, ?_⟩
  intro t r q hlike hagree
  refine ⟨{ t with rest := r, position := q }, moveTo_ok.mpr ⟨?_, rfl⟩, rfl, ?_⟩
  · intro hr
    rw [hlike.lone]
    exact hlone (hagree.eq_nil_iff.mp hr)
  · exact hmoved.like hlike r q

theorem next_cons {s : Source} {t : Token} {rest : List Token} (h : s.rest = t :: rest) :
    next s = (moveTo rest (s.position + t.size) >>= fun _ => pure (some t)) s := by
  rw [next, get_bind]
  simp only [h]

theorem next_nil {s : Source} (h : s.rest = []) : next s = .ok (none, s) := by
  rw [next, get_bind]
  simp only [h]
  rfl

theorem next_local :
    Local (fun s a u s' => a = s.rest.head? ∧ u = a.toList ∧ s.Keeps s') next next := by
  intro s a s' h
  cases hs : s.rest with
  | nil =>
    rw [next_nil hs] at h
    cases h
    refine ⟨[], hs.symm, ⟨by rw [hs]; rfl, rfl, .refl s⟩, ?_⟩
    intro t r hlike hrest hagree
    rw [hs] at hagree
    obtain rfl := hagree.eq_nil_iff.mpr rfl
    exact ⟨t, next_nil hrest, hrest, hlike⟩
  | cons t rest =>
    rw [next_cons hs] at h
    obtain ⟨_, s₁, hmove, hpure⟩ := bind_ok.mp h
    obtain ⟨rfl, rfl⟩ := pure_ok.mp hpure
    obtain ⟨hrest', hmoved, hlocal⟩ := moveTo_local hmove
    refine ⟨[t], by rw [hrest']; rfl, ⟨by rw [hs]; rfl, rfl, hmoved.keeps⟩, ?_⟩
    intro t' r hlike hrest hagree
    rw [hrest'] at hagree
    obtain ⟨t'', hmove', hr, hlike'⟩ := hlocal (t'.position + t.size) hlike hagree
    exact ⟨t'', by rw [next_cons hrest]; exact bind_ok.mpr ⟨_, t'', hmove', rfl⟩, hr, hlike'⟩

/-- Where reading a token ends: right behind it. -/
theorem next_ok {s s₁ : Source} {t : Token} (h : next s = .ok (some t, s₁)) :
    s.rest = t :: s₁.rest ∧ s.Moved s₁ := by
  cases hs : s.rest with
  | nil =>
    rw [next_nil hs] at h
    cases h
  | cons u rest =>
    rw [next_cons hs] at h
    obtain ⟨_, s₂, hmove, hpure⟩ := bind_ok.mp h
    obtain ⟨heq, rfl⟩ := pure_ok.mp hpure
    cases heq
    obtain ⟨hrest, hmoved, -⟩ := moveTo_local hmove
    exact ⟨by rw [hrest], hmoved⟩

theorem next_again {t : Source} {u : Token} {r : List Token} (hrest : t.rest = u :: r)
    (hlone : r = [] → t.lone = false) :
    next t = .ok (some u, { t with rest := r, position := t.position + u.size }) := by
  rw [next_cons hrest]
  exact bind_ok.mpr ⟨(), _, moveTo_ok.mpr ⟨hlone, rfl⟩, rfl⟩

theorem peek_bind (f : Option Token → Read α) (s : Source) :
    (peek >>= f) s = f s.rest.head? s := rfl

theorem peek_ok {s s' : Source} {a : Option Token} :
    peek s = .ok (a, s') ↔ a = s.rest.head? ∧ s' = s := by
  constructor
  · intro h
    cases h
    exact ⟨rfl, rfl⟩
  · intro h
    obtain ⟨rfl, rfl⟩ := h
    rfl

theorem peek_local : Local (fun s a u s' => u = [] ∧ a = s.rest.head? ∧ s' = s) peek peek := by
  intro s a s' h
  obtain ⟨rfl, rfl⟩ := peek_ok.mp h
  refine ⟨[], rfl, ⟨rfl, rfl, rfl⟩, ?_⟩
  intro t r hlike hrest hagree
  refine ⟨t, ?_, hrest, hlike⟩
  rw [peek_ok, hrest, ← hagree.head?]
  exact ⟨rfl, rfl⟩

theorem skip_local (c : Char) :
    Local (fun s a u s' => u = (if a then [.plain c] else []) ∧ s.Keeps s' ∧
      (a = true ↔ s.rest.head? = some (.plain c))) (skip c) (skip c) := by
  unfold skip
  refine peek_local.bind ?_
  intro s a u s₁ hfits
  obtain ⟨rfl, rfl, rfl⟩ := hfits
  refine Local.ite (fun hc => next_local.bind ?_) fun hc => Local.of_pure ?_
  · intro s₂ b v s₃ hfits
    obtain ⟨rfl, rfl, hkeeps⟩ := hfits
    refine Local.of_pure ?_
    rintro _ rfl rfl
    rw [hc]
    exact ⟨rfl, hkeeps, by simp⟩
  · rintro _ rfl
    exact ⟨rfl, .refl _, by simp [hc]⟩

/-! ## Reading characters of a class -/

/-- Whether a text goes on with a character of a class. -/
def startsWith (p : Char → Bool) (ts : List Token) : Prop := ∃ c, ts.head? = some (.plain c) ∧ p c

theorem charsOf_more {p : Char → Bool} {c : Char} {s : Source} {rest : List Token}
    (count : Nat) (hs : s.rest = .plain c :: rest) (hc : p c) :
    charsOf p (count + 1) s =
      (next >>= fun _ => charsOf p count >>= fun cs => pure (c :: cs)) s := by
  rw [charsOf, peek_bind, hs]
  change (if p c = true then _ else _ : Read (List Char)) s = _
  rw [if_pos hc]

theorem charsOf_stop {p : Char → Bool} {s : Source} (count : Nat)
    (hs : ¬ startsWith p s.rest) : charsOf p count s = .ok ([], s) := by
  cases count with
  | zero => rfl
  | succ count =>
    rw [charsOf, peek_bind]
    cases hhead : s.rest.head? with
    | none => rfl
    | some t =>
      cases t with
      | escaped c => rfl
      | plain c =>
        change (if p c = true then _ else _ : Read (List Char)) s = _
        rw [if_neg fun hp => hs ⟨c, hhead, hp⟩]
        rfl

/-- Where reading characters ends: behind a run of them that is as long as asked for or as long as
the class goes on. -/
theorem charsOf_ok {p : Char → Bool} {count : Nat} {s s' : Source} {cs : List Char}
    (h : charsOf p count s = .ok (cs, s')) :
    s.rest = cs.map Token.plain ++ s'.rest ∧ (∀ c ∈ cs, p c) ∧ s.Moved s' ∧ cs.length ≤ count ∧
      (cs.length < count → ¬ startsWith p s'.rest) := by
  induction count generalizing s cs with
  | zero =>
    obtain ⟨rfl, rfl⟩ := pure_ok.mp h
    exact ⟨rfl, by simp, .refl _, Nat.le_refl _, fun hlt => absurd hlt (Nat.lt_irrefl _)⟩
  | succ count ih =>
    by_cases hs : startsWith p s.rest
    · obtain ⟨c, hhead, hc⟩ := hs
      obtain ⟨rest, hrest⟩ := List.head?_eq_some_iff.mp hhead
      rw [charsOf_more count hrest hc] at h
      obtain ⟨_, s₁, hnext, h⟩ := bind_ok.mp h
      obtain ⟨ds, s₂, hmore, h⟩ := bind_ok.mp h
      obtain ⟨rfl, rfl⟩ := pure_ok.mp h
      rw [next_cons hrest] at hnext
      obtain ⟨_, s₃, hmove, hpure⟩ := bind_ok.mp hnext
      obtain ⟨-, rfl⟩ := pure_ok.mp hpure
      obtain ⟨hs₁, hmoved, -⟩ := moveTo_local hmove
      obtain ⟨htext, hall, hmoved', hlen, hend⟩ := ih hmore
      refine ⟨?_, ?_, hmoved.trans hmoved', ?_, ?_⟩
      · rw [hrest, ← hs₁, htext]
        rfl
      · exact List.forall_mem_cons.mpr ⟨hc, hall⟩
      · exact Nat.succ_le_succ hlen
      · intro hlt
        exact hend (Nat.lt_of_succ_lt_succ hlt)
    · rw [charsOf_stop _ hs] at h
      cases h
      exact ⟨rfl, by simp, .refl _, Nat.zero_le _, fun _ => hs⟩

theorem charsOf_again {p : Char → Bool} {cs : List Char} {count : Nat} {t : Source}
    {r : List Token} (hrest : t.rest = cs.map Token.plain ++ r) (hcs : ∀ c ∈ cs, p c)
    (hcount : cs.length ≤ count) (hend : cs.length < count → ¬ startsWith p r)
    (hlone : cs ≠ [] → r = [] → t.lone = false) :
    ∃ q, charsOf p count t = .ok (cs, { t with rest := r, position := q }) := by
  induction cs generalizing count t with
  | nil =>
    obtain rfl : t.rest = r := hrest
    refine ⟨t.position, ?_⟩
    cases count with
    | zero => rfl
    | succ count => exact charsOf_stop _ (hend (Nat.succ_pos _))
  | cons c cs ih =>
    obtain ⟨count, rfl⟩ : ∃ n, count = n + 1 :=
      ⟨count - 1, by rw [List.length_cons] at hcount; omega⟩
    have hc : p c := hcs c (List.mem_cons_self ..)
    let t₁ : Source :=
      { t with rest := cs.map Token.plain ++ r, position := t.position + Token.size (.plain c) }
    have hnext : next t = .ok (some (.plain c), t₁) := by
      refine next_again hrest fun hnil => ?_
      exact hlone (by simp) (List.append_eq_nil_iff.mp hnil).2
    obtain ⟨q, hq⟩ := ih (t := t₁) rfl (fun d hd => hcs d (List.mem_cons_of_mem _ hd))
      (Nat.le_of_succ_le_succ hcount) (fun hlt => hend (Nat.succ_lt_succ hlt))
      (fun _ => hlone (by simp))
    refine ⟨q, ?_⟩
    rw [charsOf_more count hrest hc]
    exact bind_ok.mpr ⟨_, _, hnext, bind_ok.mpr ⟨cs, _, hq, rfl⟩⟩

theorem startsWith_of_agree {p : Char → Bool} {ts us : List Token} (h : Agree ts us) :
    startsWith p us ↔ startsWith p ts := by
  rw [startsWith, startsWith, h.head?]

/-- A run of characters is read again, also under another bound that is not in its way. -/
theorem charsOf_transfer {p : Char → Bool} {count count' : Nat} {s s' t : Source} {cs : List Char}
    {r : List Token} (h : charsOf p count s = .ok (cs, s')) (hlike : s.Like t)
    (hrest : t.rest = cs.map Token.plain ++ r) (hagree : Agree s'.rest r)
    (hcount : cs.length ≤ count') (hend : cs.length < count' → ¬ startsWith p s'.rest) :
    ∃ t', charsOf p count' t = .ok (cs, t') ∧ t'.rest = r ∧ s'.Like t' := by
  obtain ⟨htext, hall, hmoved, -, -⟩ := charsOf_ok h
  obtain ⟨q, hq⟩ := charsOf_again hrest hall hcount
    (fun hlt => fun hr => hend hlt ((startsWith_of_agree hagree).mp hr))
    (fun hne => hmoved.keeps.lone_of_agree (by simp [htext, hne]) hlike hagree)
  exact ⟨_, hq, rfl, hmoved.like hlike _ _⟩

theorem charsOf_local (p : Char → Bool) (count : Nat) :
    Local (fun s cs u s' => u = cs.map .plain ∧ (∀ c ∈ cs, p c) ∧ s.Keeps s')
      (charsOf p count) (charsOf p count) := by
  intro s cs s' h
  obtain ⟨htext, hall, hmoved, hlen, hend⟩ := charsOf_ok h
  refine ⟨_, htext, ⟨rfl, hall, hmoved.keeps⟩, ?_⟩
  intro t r hlike hrest hagree
  exact charsOf_transfer h hlike hrest hagree hlen hend

theorem allCharsOf_local (p : Char → Bool) :
    Local (fun s cs u s' => u = cs.map .plain ∧ (∀ c ∈ cs, p c) ∧ s.Keeps s')
      (allCharsOf p) (allCharsOf p) := by
  intro s cs s' h
  change charsOf p s.rest.length s = .ok (cs, s') at h
  obtain ⟨htext, hall, hmoved, hlen, hend⟩ := charsOf_ok h
  refine ⟨_, htext, ⟨rfl, hall, hmoved.keeps⟩, ?_⟩
  intro t r hlike hrest hagree
  refine charsOf_transfer h hlike hrest hagree ?_ ?_
  · rw [hrest]
    simp
  · intro _
    by_cases hlt : cs.length < s.rest.length
    · exact hend hlt
    · have hnil : s'.rest = [] := by
        have hsum := congrArg List.length htext
        rw [List.length_append, List.length_map] at hsum
        exact List.eq_nil_of_length_eq_zero (by omega)
      intro h
      obtain ⟨c, hc, -⟩ := h
      rw [hnil] at hc
      cases hc

/-! ## Reading up to a character -/

theorem splitAtChar_eq_some {stop : Char} {ts behind : List Token} {text : List Char} {size : Nat}
    (h : splitAtChar stop ts = some (text, behind, size)) :
    ∃ w, ts = w ++ .plain stop :: behind ∧ .plain stop ∉ w ∧ text = w.flatMap Token.text := by
  induction ts generalizing text size with
  | nil => cases h
  | cons t rest ih =>
    rw [splitAtChar] at h
    by_cases ht : t = .plain stop
    · rw [if_pos ht] at h
      cases h
      exact ⟨[], by rw [ht]; rfl, by simp, rfl⟩
    · rw [if_neg ht, Option.map_eq_some_iff] at h
      obtain ⟨⟨text', behind', size'⟩, hsplit, heq⟩ := h
      cases heq
      obtain ⟨w, rfl, hw, rfl⟩ := ih hsplit
      exact ⟨t :: w, rfl, by simp [hw, Ne.symm ht], rfl⟩

theorem splitAtChar_append {stop : Char} {w : List Token} (hw : .plain stop ∉ w)
    (behind : List Token) :
    ∃ size, splitAtChar stop (w ++ .plain stop :: behind) =
      some (w.flatMap Token.text, behind, size) := by
  induction w with
  | nil => exact ⟨1, by rw [List.nil_append, splitAtChar, if_pos rfl]; rfl⟩
  | cons t w ih =>
    obtain ⟨size, hsize⟩ := ih fun h => hw (List.mem_cons_of_mem _ h)
    have ht : t ≠ .plain stop := fun h => hw (h ▸ List.mem_cons_self ..)
    exact ⟨size + t.size, by rw [List.cons_append, splitAtChar, if_neg ht, hsize]; rfl⟩

theorem splitAtChar_eq_none {stop : Char} {ts : List Token} (h : .plain stop ∉ ts) :
    splitAtChar stop ts = none := by
  cases hs : splitAtChar stop ts with
  | none => rfl
  | some p =>
    obtain ⟨w, rfl, -⟩ := splitAtChar_eq_some hs
    exact absurd (List.mem_append_right _ (List.mem_cons_self ..)) h

/-- Where reading up to a character ends: behind the first one, or at the end if there is none. -/
theorem upTo_ok {stop : Char} {s s' : Source} {a : Option (List Char)}
    (h : upTo stop s = .ok (a, s')) :
    s.Moved s' ∧
      ((a = none ∧ s'.rest = [] ∧ .plain stop ∉ s.rest) ∨
        ∃ w, a = some (w.flatMap Token.text) ∧ s.rest = w ++ .plain stop :: s'.rest ∧
          .plain stop ∉ w) := by
  rw [upTo, get_bind] at h
  by_cases hmem : .plain stop ∈ s.rest
  · obtain ⟨w, behind, hrest, hw⟩ := List.eq_append_cons_of_mem hmem
    obtain ⟨size, hsize⟩ := splitAtChar_append hw behind
    rw [← hrest] at hsize
    simp only [hsize] at h
    obtain ⟨_, s₁, hmove, hpure⟩ := bind_ok.mp h
    obtain ⟨rfl, rfl⟩ := pure_ok.mp hpure
    obtain ⟨hs', hmoved, -⟩ := moveTo_local hmove
    exact ⟨hmoved, .inr ⟨w, rfl, by rw [hs', hrest], hw⟩⟩
  · simp only [splitAtChar_eq_none hmem] at h
    obtain ⟨_, s₁, hmove, hpure⟩ := bind_ok.mp h
    obtain ⟨rfl, rfl⟩ := pure_ok.mp hpure
    obtain ⟨hs', hmoved, -⟩ := moveTo_local hmove
    exact ⟨hmoved, .inl ⟨rfl, hs', hmem⟩⟩

theorem upTo_again {stop : Char} {t : Source} {w r : List Token} (hw : .plain stop ∉ w)
    (hrest : t.rest = w ++ .plain stop :: r) (hlone : r = [] → t.lone = false) :
    ∃ q, upTo stop t = .ok (some (w.flatMap Token.text), { t with rest := r, position := q }) := by
  obtain ⟨size, hsize⟩ := splitAtChar_append hw r
  rw [← hrest] at hsize
  refine ⟨t.position + size, ?_⟩
  rw [upTo, get_bind]
  simp only [hsize]
  exact bind_ok.mpr ⟨(), _, moveTo_ok.mpr ⟨hlone, rfl⟩, rfl⟩

theorem upTo_again_none {stop : Char} {t : Source} (hrest : .plain stop ∉ t.rest)
    (hlone : t.lone = false) :
    ∃ q, upTo stop t = .ok (none, { t with rest := [], position := q }) := by
  refine ⟨t.position + Token.total t.rest, ?_⟩
  rw [upTo, get_bind]
  simp only [splitAtChar_eq_none hrest]
  exact bind_ok.mpr ⟨(), _, moveTo_ok.mpr ⟨fun _ => hlone, rfl⟩, rfl⟩

/-- The text of a name, and the character that ends it. -/
theorem name_local (terminator : Char) (what : String) :
    Local (fun s a u s' => s.Keeps s' ∧ ∃ w, a.toList = w.flatMap Token.text ∧
        u = w ++ [.plain terminator] ∧ .plain terminator ∉ w)
      (name terminator what) (name terminator what) := by
  intro s a s' h
  rw [name, get_bind] at h
  obtain ⟨text, s₁, hupTo, h⟩ := bind_ok.mp h
  obtain ⟨hmoved, ⟨rfl, -⟩ | ⟨w, rfl, hrest, hw⟩⟩ := upTo_ok hupTo
  · dsimp only at h
    split at h
    · exact (fail_ne_ok _ _ _ _ h).elim
    · exact (fail_ne_ok _ _ _ _ h).elim
  · obtain ⟨c, cs, htext⟩ : ∃ c cs, w.flatMap Token.text = c :: cs := by
      cases hc : w.flatMap Token.text with
      | nil =>
        rw [hc] at h
        exact (fail_ne_ok _ _ _ _ h).elim
      | cons c cs => exact ⟨c, cs, rfl⟩
    rw [htext] at h
    obtain ⟨rfl, rfl⟩ := pure_ok.mp h
    refine ⟨w ++ [.plain terminator], by rw [hrest]; simp, ⟨hmoved.keeps, w, ?_, rfl, hw⟩, ?_⟩
    · rw [htext, String.toList_ofList]
    · intro t r hlike hrest' hagree
      rw [List.append_assoc] at hrest'
      have hlone : r = [] → t.lone = false :=
        hmoved.keeps.lone_of_agree (by simp [hrest]) hlike hagree
      obtain ⟨q, hq⟩ := upTo_again hw hrest' hlone
      refine ⟨_, ?_, rfl, hmoved.like hlike r q⟩
      rw [name, get_bind]
      refine bind_ok.mpr ⟨_, _, hq, ?_⟩
      rw [htext]
      rfl

end Read

/-! ## Quiet stretches -/

/-- Whether a token is none of those that open or close a class, a group or a comment. -/
def Token.Quiet (t : Token) : Prop :=
  t ≠ .plain '[' ∧ t ≠ .plain ']' ∧ t ≠ .plain '(' ∧ t ≠ .plain ')' ∧ t ≠ .plain '#'

/-- Characters that mean nothing behind an opening parenthesis either. -/
def QuietChar (c : Char) : Prop := Token.Quiet (.plain c) ∧ c ≠ '\\' ∧ c ≠ '?'

theorem Token.Quiet.not_mayStartComment {t : Token} (h : t.Quiet) : ¬ t.mayStartComment := by
  rintro (rfl | rfl)
  · exact h.2.2.1 rfl
  · exact h.2.2.2.2 rfl

/-- Tokens of a text of quiet characters are those characters. -/
theorem eq_map_plain_of_quiet {w : List Token} (h : ∀ c ∈ w.flatMap Token.text, QuietChar c) :
    w = (w.flatMap Token.text).map Token.plain := by
  induction w with
  | nil => rfl
  | cons t w ih =>
    rw [List.flatMap_cons] at h
    cases t with
    | escaped c => exact absurd rfl (h '\\' (by simp [Token.text])).2.1
    | plain c =>
      have hw := ih fun d hd => h d (List.mem_append_right _ hd)
      rw [List.flatMap_cons, List.map_append, ← hw]
      rfl

theorem quiet_of_text {w : List Token} (h : ∀ c ∈ w.flatMap Token.text, QuietChar c) :
    ∀ t ∈ w, t.Quiet ∧ t ≠ .plain '?' := by
  intro t ht
  rw [eq_map_plain_of_quiet h] at ht
  obtain ⟨c, hc, rfl⟩ := List.mem_map.mp ht
  exact ⟨(h c hc).1, fun heq => (h c hc).2.2 (Token.plain.inj heq)⟩

/-- An action that reads quiet tokens only, opens no group and sets no flag. -/
def Tame (f g : Read α) : Prop := Local (fun s _ u s' => (∀ t ∈ u, t.Quiet) ∧ s.Keeps s') f g

namespace Tame

theorem of_pure (a : α) : Tame (pure a) (pure a) := Local.of_pure fun s => ⟨by simp, .refl s⟩

theorem of_fail (cause : Cause) (back : Nat) (g : Read α) : Tame (Read.fail cause back) g :=
  Local.of_fail cause back g

theorem of_failAt (cause : Cause) (place : Nat) (g : Read α) :
    Tame (Read.failAt cause place) g :=
  Local.of_failAt cause place g

theorem of_throw (failure : Failure) (g : Read α) : Tame (throw failure) g :=
  Local.of_throw failure g

theorem of_local {fits : Source → α → List Token → Source → Prop} {f g : Read α}
    (h : Local fits f g)
    (hquiet : ∀ s a u s', fits s a u s' → (∀ t ∈ u, t.Quiet) ∧ s.Keeps s') : Tame f g :=
  h.mono fun s a u s' _ => hquiet s a u s'

theorem bind {f f' : Read α} {g g' : α → Read β} (hf : Tame f f') (hg : ∀ a, Tame (g a) (g' a)) :
    Tame (f >>= g) (f' >>= g') := by
  refine Local.bind hf ?_
  intro s a u s₁ hfits
  obtain ⟨hu, hkeeps⟩ := hfits
  refine (hg a).mono ?_
  rintro s₂ b v s' - ⟨hv, hkeeps'⟩ rfl
  refine ⟨?_, hkeeps.trans hkeeps'⟩
  intro t ht
  exact (List.mem_append.mp ht).elim (hu t) (hv t)

theorem fail_bind (cause : Cause) (back : Nat) (k : α → Read β) (g : Read β) :
    Tame (Read.fail cause back >>= k) g :=
  Local.fail_bind cause back k g

theorem failAt_bind (cause : Cause) (place : Nat) (k : α → Read β) (g : Read β) :
    Tame (Read.failAt cause place >>= k) g :=
  Local.failAt_bind cause place k g

theorem ite {c : Prop} [Decidable c] {f f' g g' : Read α} (ht : c → Tame f g)
    (he : ¬ c → Tame f' g') : Tame (if c then f else f') (if c then g else g') :=
  Local.ite ht he

end Tame

theorem Read.skip_tame {c : Char} (hc : Token.Quiet (.plain c)) : Tame (skip c) (skip c) := by
  refine Tame.of_local (skip_local c) ?_
  intro s a u s' hfits
  obtain ⟨rfl, hkeeps, -⟩ := hfits
  refine ⟨?_, hkeeps⟩
  cases a with
  | false => simp
  | true => simpa using hc

theorem Read.charsOf_tame {p : Char → Bool} (hp : ∀ c, p c → Token.Quiet (.plain c)) (count : Nat) :
    Tame (charsOf p count) (charsOf p count) := by
  refine Tame.of_local (charsOf_local p count) ?_
  intro s cs u s' hfits
  obtain ⟨rfl, hcs, hkeeps⟩ := hfits
  refine ⟨?_, hkeeps⟩
  intro t ht
  obtain ⟨c, hc, rfl⟩ := List.mem_map.mp ht
  exact hp c (hcs c hc)

theorem Read.allCharsOf_tame {p : Char → Bool} (hp : ∀ c, p c → Token.Quiet (.plain c)) :
    Tame (allCharsOf p) (allCharsOf p) := by
  refine Tame.of_local (allCharsOf_local p) ?_
  intro s cs u s' hfits
  obtain ⟨rfl, hcs, hkeeps⟩ := hfits
  refine ⟨?_, hkeeps⟩
  intro t ht
  obtain ⟨c, hc, rfl⟩ := List.mem_map.mp ht
  exact hp c (hcs c hc)

end Linting.Regex
