import Linting.Proofs.Regex.Heads

/-! What the reader reads is laid out as parts, and it reads every text with the same parts the
same way, whatever the comments and remarks hold. Main facts: the turns of a sequence, sequences
and alternatives read parts, by one induction on the bound of the reader. -/

namespace Linting.Regex
set_option autoImplicit false

variable {α β : Type}

/-! ## Parts that differ in comments -/

namespace Part

/-- A part without what a comment or a remark says. -/
def bare : Part → Part
  | comment _ => comment []
  | remark _ => remark []
  | part => part

/-- Whether a comment or a remark ends where it has to. -/
def Closed : Part → Prop
  | comment body => .plain ')' ∉ body
  | remark body => .plain '\n' ∉ body
  | _ => True

/-- Whether a part is neither a comment nor a remark. -/
def Spoken : Part → Prop
  | comment _ => False
  | remark _ => False
  | _ => True

theorem eq_of_bare {part part' : Part} (h : part'.bare = part.bare) (hspoken : part.Spoken) :
    part' = part := by
  cases part with
  | comment body => exact hspoken.elim
  | remark body => exact hspoken.elim
  | _ => cases part' <;> first | exact h | cases h

end Part

/-- Parts that are the same but for what comments and remarks say. -/
structure Alike (parts parts' : List Part) : Prop where
  bare : parts'.map Part.bare = parts.map Part.bare
  closed : ∀ part ∈ parts', part.Closed

namespace Alike

theorem length {parts parts' : List Part} (h : Alike parts parts') :
    parts'.length = parts.length := by
  simpa using congrArg List.length h.bare

theorem of_append {parts₁ parts₂ parts' : List Part} (h : Alike (parts₁ ++ parts₂) parts') :
    ∃ parts₁' parts₂', parts' = parts₁' ++ parts₂' ∧ Alike parts₁ parts₁' ∧
      Alike parts₂ parts₂' := by
  have hmap := h.bare
  rw [List.map_append] at hmap
  obtain ⟨parts₁', parts₂', rfl, h₁, h₂⟩ := List.map_eq_append_iff.mp hmap
  exact ⟨parts₁', parts₂', rfl, ⟨h₁, fun p hp => h.closed p (List.mem_append_left _ hp)⟩,
    ⟨h₂, fun p hp => h.closed p (List.mem_append_right _ hp)⟩⟩

theorem of_cons {part : Part} {parts parts' : List Part} (h : Alike (part :: parts) parts') :
    ∃ part' rest, parts' = part' :: rest ∧ part'.bare = part.bare ∧ part'.Closed ∧
      Alike parts rest := by
  obtain ⟨part', rest, rfl, hpart, hrest⟩ := List.map_eq_cons_iff.mp h.bare
  exact ⟨part', rest, rfl, hpart, h.closed _ (List.mem_cons_self ..),
    ⟨hrest, fun p hp => h.closed p (List.mem_cons_of_mem _ hp)⟩⟩

theorem eq_of_spoken {parts parts' : List Part} (h : Alike parts parts')
    (hspoken : ∀ part ∈ parts, part.Spoken) : parts' = parts := by
  induction parts generalizing parts' with
  | nil => exact List.map_eq_nil_iff.mp h.bare
  | cons part parts ih =>
    obtain ⟨part', rest, rfl, hpart, -, hrest⟩ := h.of_cons
    rw [Part.eq_of_bare hpart (hspoken part (List.mem_cons_self ..)),
      ih hrest fun p hp => hspoken p (List.mem_cons_of_mem _ hp)]

/-- Texts with parts that are the same but for comments agree. -/
theorem agree {parts parts' : List Part} {ts us : List Token} (h : Alike parts parts')
    (hagree : Agree ts us) : Agree (tokensOf parts ++ ts) (tokensOf parts' ++ us) := by
  induction parts generalizing parts' with
  | nil =>
    rw [List.map_eq_nil_iff.mp h.bare]
    exact hagree
  | cons part parts ih =>
    obtain ⟨part', rest, rfl, hpart, -, hrest⟩ := h.of_cons
    rw [tokensOf, tokensOf, List.flatMap_cons, List.flatMap_cons, List.append_assoc,
      List.append_assoc]
    cases part with
    | comment body =>
      cases part' with
      | comment body' => exact .stop _ _ (.inl rfl)
      | _ => cases hpart
    | remark body =>
      cases part' with
      | remark body' => exact .stop _ _ (.inr rfl)
      | _ => cases hpart
    | _ =>
      rw [Part.eq_of_bare hpart trivial]
      exact (ih hrest).append _

end Alike

/-! ## Readings -/

theorem tokensOf_append (parts parts' : List Part) :
    tokensOf (parts ++ parts') = tokensOf parts ++ tokensOf parts' :=
  List.flatMap_append

theorem Lays.tokens {m m' : Scope} {ts rest : List Token} {parts : List Part}
    (h : Lays m ts parts m' rest) : ts = tokensOf parts ++ rest := by
  induction h with
  | nil m ts => rfl
  | cons hfirst hrest ih =>
    rw [(cut_of_firstPart? hfirst).1, ih, tokensOf, tokensOf, List.flatMap_cons, List.append_assoc]

/-- What has been read between two states: its parts, with the scopes in front of and behind them,
and the names of the groups that it has opened. -/
structure Taken (m : Scope) (parts : List Part) (m' : Scope) (names : List String)
    (s s' : Source) : Prop where
  lays : Lays m s.rest parts m' s'.rest
  lone : s'.lone = s.lone
  open_ended : (s.lone = true → s.rest ≠ []) → s'.lone = true → s'.rest ≠ []
  names : s'.names.map Prod.fst = s.names.map Prod.fst ++ names
  long : ∀ name, .opener true name ∉ parts

/-- A reading of parts that goes through again: where other parts stand that are the same but for
comments, `g` does the same under every bound that is large enough. -/
structure Reading (need : Nat) (g : Nat → Read α) (m : Scope) (parts : List Part) (m' : Scope)
    (names : List String) (s : Source) (a : α) (s' : Source) : Prop
    extends Taken m parts m' names s s' where
  again : ∀ ⦃parts' : List Part⦄ ⦃t : Source⦄ ⦃r : List Token⦄ ⦃bound : Nat⦄,
    Alike parts parts' → need ≤ bound → s.Like t → t.rest = tokensOf parts' ++ r →
    Agree s'.rest r → ∃ t', g bound t = .ok (a, t') ∧ t'.rest = r ∧ s'.Like t'

namespace Reading

variable {m m₁ m₂ : Scope} {parts₁ parts₂ : List Part} {names₁ names₂ : List String}
  {s s₁ s₂ : Source} {need need₁ need₂ : Nat}

theorem bind {f : Nat → Read α} {g : α → Nat → Read β} {a : α} {b : β}
    (h₁ : Reading need₁ f m parts₁ m₁ names₁ s a s₁)
    (h₂ : Reading need₂ (g a) m₁ parts₂ m₂ names₂ s₁ b s₂) (hn₁ : need₁ ≤ need)
    (hn₂ : need₂ ≤ need) :
    Reading need (fun n => f n >>= fun a => g a n) m (parts₁ ++ parts₂) m₂ (names₁ ++ names₂)
      s b s₂ where
  lays := h₁.lays.append h₂.lays
  lone := h₂.lone.trans h₁.lone
  open_ended := fun ho => h₂.open_ended (h₁.open_ended ho)
  names := by rw [h₂.names, h₁.names, List.append_assoc]
  long := fun name hmem =>
    (List.mem_append.mp hmem).elim (h₁.long name) (h₂.long name)
  again := by
    intro parts' t r bound halike hbound hlike hrest hagree
    obtain ⟨parts₁', parts₂', rfl, halike₁, halike₂⟩ := halike.of_append
    rw [tokensOf_append, List.append_assoc] at hrest
    have hmid : Agree s₁.rest (tokensOf parts₂' ++ r) := by
      rw [h₂.lays.tokens]
      exact halike₂.agree hagree
    obtain ⟨t₁, ht₁, hr₁, hlike₁⟩ := h₁.again halike₁ (Nat.le_trans hn₁ hbound) hlike hrest hmid
    obtain ⟨t₂, ht₂, hr₂, hlike₂⟩ :=
      h₂.again halike₂ (Nat.le_trans hn₂ hbound) hlike₁ hr₁ hagree
    exact ⟨t₂, Read.bind_ok.mpr ⟨a, t₁, ht₁, ht₂⟩, hr₂, hlike₂⟩

/-- Reading goes on with an action that reads nothing. -/
theorem of_pure (m : Scope) (s : Source) (a : α) :
    Reading 0 (fun _ => pure a) m [] m [] s a s where
  lays := .nil ..
  lone := rfl
  open_ended := id
  names := by rw [List.append_nil]
  long := by simp
  again := by
    intro parts' t r bound halike _ hlike hrest _
    obtain rfl := List.map_eq_nil_iff.mp halike.bare
    exact ⟨t, rfl, hrest, hlike⟩

theorem map {f : Nat → Read α} {a : α} (h : Reading need f m parts₁ m₁ names₁ s a s₁)
    (k : α → β) :
    Reading need (fun n => f n >>= fun a => pure (k a)) m parts₁ m₁ names₁ s (k a) s₁ := by
  have hall := h.bind (g := fun a _ => pure (k a)) (.of_pure m₁ s₁ (k a)) (Nat.le_refl _)
    (Nat.zero_le _)
  rw [List.append_nil, List.append_nil] at hall
  exact hall

theorem mono {g : Nat → Read α} {a : α} (h : Reading need₁ g m parts₁ m₁ names₁ s a s₁)
    (hn : need₁ ≤ need) : Reading need g m parts₁ m₁ names₁ s a s₁ where
  toTaken := h.toTaken
  again := fun _ _ _ _ halike hbound => h.again halike (Nat.le_trans hn hbound)

/-- A stretch without comments that goes through again. -/
theorem of_again {g : Read α} {a : α} {u : List Token} (hu : s.rest = u ++ s₁.rest)
    (hkeeps : s.Keeps { s₁ with flags := s.flags })
    (hlays : Lays m (u ++ s₁.rest) parts₁ m₁ s₁.rest)
    (hspoken : ∀ part ∈ parts₁, part.Spoken) (hlong : ∀ name, .opener true name ∉ parts₁)
    (hagain : Again g s u a s₁) :
    Reading 0 (fun _ => g) m parts₁ m₁ [] s a s₁ where
  lays := by
    rw [hu]
    exact hlays
  lone := hkeeps.lone
  open_ended := hkeeps.open_ended
  names := by
    rw [List.append_nil]
    exact congrArg _ hkeeps.names
  long := hlong
  again := by
    intro parts' t r bound halike _ hlike hrest hagree
    rw [halike.eq_of_spoken hspoken,
      ← List.append_cancel_right (hlays.tokens : u ++ s₁.rest = tokensOf parts₁ ++ s₁.rest)]
      at hrest
    exact hagain hlike hrest hagree

end Reading

/-! ## The layout of quiet stretches and sets -/

theorem Lays.cut {m m' : Scope} {part : Part} {rest : List Token} (h : Cut m part m' rest) :
    Lays m (part.tokens ++ rest) [part] m' rest :=
  .single (firstPart?_of_cut h)

theorem Token.Quiet.cut {t : Token} (h : t.Quiet) (m : Scope) (rest : List Token) :
    Cut m (.token t) m rest :=
  .token rest h.2.2.1 h.2.2.2.1 h.1 fun ht => absurd ht h.2.2.2.2

theorem lays_quiet {u : List Token} (hu : ∀ t ∈ u, t.Quiet) (m : Scope) (rest : List Token) :
    Lays m (u ++ rest) (u.map .token) m rest := by
  induction u with
  | nil => exact .nil ..
  | cons t u ih =>
    have ht := hu t (List.mem_cons_self ..)
    exact .cons (firstPart?_of_cut (ht.cut m (u ++ rest)))
      (ih fun v hv => hu v (List.mem_cons_of_mem _ hv))

theorem spoken_tokens (u : List Token) : ∀ part ∈ u.map Part.token, part.Spoken := by
  intro part hpart
  obtain ⟨t, -, rfl⟩ := List.mem_map.mp hpart
  trivial

theorem long_tokens (u : List Token) (name : List Char) :
    Part.opener true name ∉ u.map Part.token := by
  intro hmem
  obtain ⟨t, -, h⟩ := List.mem_map.mp hmem
  cases h

theorem name?_tokens (u : List Token) : (u.map Part.token).filterMap Part.name? = [] := by
  rw [List.filterMap_eq_nil_iff]
  intro part hpart
  obtain ⟨t, -, rfl⟩ := List.mem_map.mp hpart
  rfl

/-! ## The layout of heads -/

theorem verboseAfter_nil (v : Bool) : verboseAfter v [] = v := by
  cases v <;> rfl

/-- A question mark without flags behind it. -/
theorem cut_question {m : Scope} {rest : List Token}
    (hend : ∀ t, rest.head? = some t → isFlagToken t = false) (hother : ¬ StartsName rest) :
    Cut m (.head [.plain '?']) (m.inside m.verbose m.verbose) rest := by
  have h : Cut m (.head [.plain '?']) _ rest := .flags (by simp) hend (fun _ => hother)
  rw [verboseAfter_nil, ite_self] at h
  exact h

/-- A question mark and the mark of a kind of group. -/
theorem cut_mark {m : Scope} {c : Char} (rest : List Token) (hc : c ∈ ['=', '!', '>', '(']) :
    Cut m (.head [.plain '?']) (m.inside m.verbose m.verbose) (.plain c :: rest) := by
  have hne : ∀ d, d ∈ ['#', 'P', '<'] → c ≠ d := by
    rintro d hd rfl
    revert hc hd
    simp only [List.mem_cons, List.not_mem_nil, or_false]
    rintro (rfl | rfl | rfl | rfl) <;> decide
  refine cut_question ?_ ?_
  · intro t ht
    cases ht
    simp only [List.mem_cons, List.not_mem_nil, or_false] at hc
    rcases hc with rfl | rfl | rfl | rfl <;> rfl
  · rintro (h | ⟨h, -⟩ | ⟨h, -⟩)
    · exact hne '#' (by decide) (Token.plain.inj (Option.some.inj h))
    · exact hne 'P' (by decide) (Token.plain.inj (Option.some.inj h))
    · exact hne '<' (by decide) (Token.plain.inj (Option.some.inj h))

theorem Lays.cons_cut {m m' m'' : Scope} {part : Part} {parts : List Part}
    {rest behind : List Token} (h : Cut m part m' rest) (hrest : Lays m' rest parts m'' behind) :
    Lays m (part.tokens ++ rest) (part :: parts) m'' behind :=
  .cons (firstPart?_of_cut h) hrest

/-- The parenthesis that closes what a scope was entered for. -/
theorem lays_close {m : Scope} (inner behind : Bool) (rest : List Token) :
    Lays (m.inside inner behind) (.plain ')' :: rest) [.token (.plain ')')] ⟨behind, m.outer⟩
      rest :=
  Lays.cut (.close rest rfl)

/-- A character that opens and closes nothing in any mode is a part of its own. -/
theorem cut_plain {c : Char} (hc : c ∉ ['[', '(', ')', '#']) (m : Scope) (rest : List Token) :
    Cut m (.token (.plain c)) m rest := by
  have hne : ∀ d, d ∈ ['[', '(', ')', '#'] → Token.plain c ≠ .plain d := by
    rintro d hd heq
    rw [Token.plain.inj heq] at hc
    exact hc hd
  exact .token rest (hne _ (by decide)) (hne _ (by decide)) (hne _ (by decide))
    fun ht => absurd ht (hne _ (by decide))

/-- How a head leaves the scope. -/
def HeadScope (m : Scope) (s s' : Source) : GroupHead → Scope → Prop
  | .comment, m' => m' = m
  | .reference _, m' => m' = m
  | .globalFlags, m' =>
    m'.outer = m.outer ∧ (m.verbose = s.flags.verbose → m'.verbose = s'.flags.verbose)
  | .switched on off, m' => m' = m.inside ((m.verbose || on.verbose) && !off.verbose) m.verbose
  | _, m' => m' = m.inside m.verbose m.verbose

/-- The name a head gives to its group. -/
def headNames : GroupHead → List String
  | .capture (some name) => [name]
  | _ => []

namespace Read

/-- A reference `(?P=name)` leaves the scope it was in. -/
theorem lays_reference {w : List Token} (hw : ∀ t ∈ w, t.Quiet) (m : Scope) (rest : List Token) :
    Lays m (.plain '(' :: .plain '?' :: .plain 'P' :: .plain '=' :: (w ++ .plain ')' :: rest))
      (.head [.plain '?'] :: (.plain 'P' :: .plain '=' :: (w ++ [.plain ')'])).map .token) m
      rest := by
  have hquestion : Cut m (.head [.plain '?']) (m.inside m.verbose m.verbose)
      (.plain 'P' :: .plain '=' :: (w ++ .plain ')' :: rest)) :=
    cut_question (fun t ht => by cases ht; rfl) (by simp [StartsName])
  have hinside := (lays_quiet hw (m.inside m.verbose m.verbose) (.plain ')' :: rest)).append
    (lays_close m.verbose m.verbose rest)
  have hall := Lays.cons_cut hquestion (.cons_cut (cut_plain (by decide) _ _)
    (.cons_cut (cut_plain (by decide) _ _) hinside))
  simpa [Part.tokens] using hall

/-- The group of a condition is a scope of its own, closed before the branches. -/
theorem lays_condition {w : List Token} (hw : ∀ t ∈ w, t.Quiet ∧ t ≠ .plain '?') (m : Scope)
    (rest : List Token) :
    Lays m (.plain '(' :: .plain '?' :: .plain '(' :: (w ++ .plain ')' :: rest))
      (.head [.plain '?'] :: .head [] :: (w ++ [Token.plain ')']).map .token)
      (m.inside m.verbose m.verbose) rest := by
  have hgroup : Cut (m.inside m.verbose m.verbose) (.head [])
      ((m.inside m.verbose m.verbose).inside m.verbose m.verbose) (w ++ .plain ')' :: rest) := by
    refine .group ?_
    cases w with
    | nil => simp
    | cons t w => simpa using (hw t (List.mem_cons_self ..)).2
  have hinside := (lays_quiet (fun t ht => (hw t ht).1)
    ((m.inside m.verbose m.verbose).inside m.verbose m.verbose) (.plain ')' :: rest)).append
    (lays_close m.verbose m.verbose rest)
  have hall := Lays.cons_cut (cut_mark (m := m) _ (by decide)) (.cons_cut hgroup hinside)
  simpa [Part.tokens, Scope.inside] using hall

/-- A head is laid out as parts, one of them the opener if the group has a name. -/
theorem HeadRead.lays {s s' : Source} {head : GroupHead} {u : List Token}
    (h : HeadRead s s' head u) (hu : s.rest = u ++ s'.rest) (hcomment : head ≠ .comment)
    (m : Scope) :
    ∃ parts m', Lays m (.plain '(' :: (u ++ s'.rest)) parts m' s'.rest ∧ HeadScope m s s' head m' ∧
      parts ≠ [] ∧ parts.filterMap Part.name? = headNames head ∧
      (∀ part ∈ parts, part.Spoken) ∧ ∀ name, .opener true name ∉ parts := by
  cases h with
  | group hkeeps hhead =>
    rw [hu] at hhead
    exact ⟨[.head []], _, Lays.cut (.group hhead), rfl, by simp, rfl, by simp [Part.Spoken],
      by simp⟩
  | @named name hkeeps hid =>
    refine ⟨[.opener false name.toList], m.inside m.verbose m.verbose, ?_, rfl, by simp, ?_,
      by simp [Part.Spoken], by simp⟩
    · exact Lays.cut (.opener false s'.rest hid)
    · simp [Part.name?, headNames]
  | @reference node w hkeeps hw =>
    refine ⟨.head [.plain '?'] :: (.plain 'P' :: .plain '=' :: (w ++ [.plain ')'])).map .token, m,
      ?_, rfl, by simp, name?_tokens _, ?_, by simp⟩
    · simpa using lays_reference hw m s'.rest
    · exact List.forall_mem_cons.mpr ⟨trivial, spoken_tokens _⟩
  | comment hkeeps hbody => exact absurd rfl hcomment
  | @condition group w hkeeps hw =>
    refine ⟨.head [.plain '?'] :: .head [] :: (w ++ [Token.plain ')']).map .token,
      m.inside m.verbose m.verbose, ?_, rfl, by simp, name?_tokens (w ++ [Token.plain ')']), ?_,
      by simp⟩
    · simpa using lays_condition hw m s'.rest
    · exact List.forall_mem_cons.mpr
        ⟨trivial, List.forall_mem_cons.mpr ⟨trivial, spoken_tokens _⟩⟩
  | @ahead negated hkeeps =>
    refine ⟨[.head [.plain '?'], .token (.plain (if negated then '!' else '='))], _, ?_, rfl,
      by simp, rfl, by simp [Part.Spoken], by simp⟩
    cases negated with
    | false => exact .cons_cut (cut_mark s'.rest (by decide)) (.cut (cut_plain (by decide) _ _))
    | true => exact .cons_cut (cut_mark s'.rest (by decide)) (.cut (cut_plain (by decide) _ _))
  | @behind negated hkeeps =>
    have hquestion : Cut m (.head [.plain '?']) (m.inside m.verbose m.verbose)
        (.plain '<' :: .plain (if negated then '!' else '=') :: s'.rest) := by
      refine cut_question (fun t ht => by cases ht; rfl) ?_
      cases negated <;> simp [StartsName, isBehindMark]
    refine ⟨[.head [.plain '?'], .token (.plain '<'),
      .token (.plain (if negated then '!' else '='))], _, ?_, rfl,
      by simp, rfl, by simp [Part.Spoken], by simp⟩
    refine .cons_cut hquestion (.cons_cut (cut_plain (by decide) _ _) ?_)
    cases negated with
    | false => exact .cut (cut_plain (by decide) _ _)
    | true => exact .cut (cut_plain (by decide) _ _)
  | atomic hkeeps =>
    refine ⟨[.head [.plain '?'], .token (.plain '>')], _, ?_, rfl, by simp, rfl,
      by simp [Part.Spoken], by simp⟩
    exact .cons_cut (cut_mark s'.rest (by decide)) (.cut (cut_plain (by decide) _ _))
  | @switched on off w hkeeps hflags hverbose =>
    have hcut : Cut m (.head (.plain '?' :: w)) _ (.plain ':' :: s'.rest) :=
      .flags hflags (fun t ht => by cases ht; rfl) (fun _ => by simp [StartsName])
    refine ⟨[.head (.plain '?' :: w), .token (.plain ':')],
      m.inside (verboseAfter m.verbose w) m.verbose, ?_, ?_, by simp, rfl,
      by simp [Part.Spoken], by simp⟩
    · have hall := Lays.cons_cut hcut (.cut (cut_plain (by decide) _ _))
      simpa [Part.tokens] using hall
    · change m.inside _ _ = m.inside _ _
      rw [hverbose]
  | @globalFlags on w hkeeps hletters hflags =>
    have hcut : Cut m (.head (.plain '?' :: w)) _ (.plain ')' :: s'.rest) :=
      .flags (fun t ht => (hletters.isFlagToken t ht).1) (fun t ht => by cases ht; rfl)
        (fun _ => by simp [StartsName])
    refine ⟨[.head (.plain '?' :: w), .token (.plain ')')],
      ⟨verboseAfter m.verbose w, m.outer⟩, ?_, ⟨rfl, ?_⟩, by simp, rfl,
      by simp [Part.Spoken], by simp⟩
    · have hall := Lays.cons_cut hcut (lays_close _ _ s'.rest)
      simpa [Part.tokens] using hall
    · intro hm
      rw [verboseAfter_letters hletters, hm, hflags]
      rfl

end Read

end Linting.Regex
