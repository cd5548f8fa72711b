import Linting.Proofs.Regex.Turns

/-! A text that is read as a regular expression has a layout, and every text with the same layout
but for what comments and remarks say is read as the same expression. Main facts: by one induction
on the bound of the reader, sequences and alternatives read parts. -/

namespace Linting.Regex
set_option autoImplicit false

variable {α : Type}

/-! ## Unfolding one step -/

namespace Reading

variable {m m' : Scope} {parts : List Part} {names : List String} {s s' : Source} {need : Nat}
  {a : α}

/-- Where one more unit of the bound lets `f` do what `g` does, given the place where it is. -/
theorem of_step {f : Nat → Read α} {g : Nat → Nat → Read α}
    (h : ∀ start, Reading need (g start) m parts m' names s a s')
    (hstep : ∀ n t, t.rest.head? = s.rest.head? → f (n + 1) t = g t.position n t) :
    Reading (need + 1) f m parts m' names s a s' where
  toTaken := (h 0).toTaken
  again := by
    intro parts' t r bound halike hbound hlike hrest hagree
    cases bound with
    | zero => exact absurd hbound (Nat.not_succ_le_zero need)
    | succ n =>
      have hhead : t.rest.head? = s.rest.head? := by
        rw [hrest, (h 0).lays.tokens]
        exact (halike.agree hagree).head?
      rw [hstep n t hhead]
      exact (h t.position).again halike (Nat.le_of_succ_le_succ hbound) hlike hrest hagree

/-- Going on as the flags tell. -/
theorem of_get_flags {g : Flags → Nat → Read α}
    (h : Reading need (g s.flags) m parts m' names s a s') :
    Reading need (fun n => get >>= fun t => g t.flags n) m parts m' names s a s' where
  toTaken := h.toTaken
  again := by
    intro parts' t r bound halike hbound hlike hrest hagree
    obtain ⟨t', ht', hrest', hlike'⟩ := h.again halike hbound hlike hrest hagree
    refine ⟨t', ?_, hrest', hlike'⟩
    rw [Read.get_bind, hlike.flags]
    exact ht'

end Reading

theorem Settles.of_and {top free : Bool} {m m' : Scope} {s s' : Source}
    (h : Settles (top && free) m m' s s') (hfree : top = true → m.verbose = s.flags.verbose) :
    Settles top m m' s s' := by
  cases top with
  | false => exact h
  | true =>
    cases free with
    | true => exact h
    | false =>
      obtain rfl := Settles.eq h
      exact .of_flags hfree (h.stays rfl).2

namespace Read

theorem sequence_stop {bound : Nat} {verbose first : Bool} {done : List Node} {s : Source}
    (h : ∀ t, s.rest.head? = some t → t = .plain '|' ∨ t = .plain ')') :
    sequence (bound + 1) verbose first done s = .ok (done.reverse.flatMap Node.items, s) := by
  rw [sequence, get_bind, peek_bind]
  cases hhead : s.rest.head? with
  | none => rfl
  | some t =>
    have ht : (decide (t = .plain '|') || decide (t = .plain ')')) = true := by
      simpa using h t hhead
    dsimp only
    rw [if_pos ht]
    rfl

theorem sequence_more {bound : Nat} {verbose first : Bool} {done : List Node} {s : Source}
    {t : Token} (h : s.rest.head? = some t) (hbar : t ≠ .plain '|') (hclose : t ≠ .plain ')') :
    sequence (bound + 1) verbose first done s =
      ((next >>= fun _ => turn (fun inner => alternatives bound inner false [])
          (sequence bound verbose false []) verbose first done s.position t) >>=
        fun p => sequence bound p.1 first p.2) s := by
  have ht : ¬ (decide (t = .plain '|') || decide (t = .plain ')')) = true := by
    simp [hbar, hclose]
  rw [sequence, get_bind, peek_bind, h]
  dsimp only
  rw [if_neg ht, bind_assoc]

/-! ## Sequences and alternatives -/

/-- Whether every sequence that is read under a bound reads parts. -/
def SequencesRead (bound : Nat) : Prop :=
  ∀ ⦃m : Scope⦄ ⦃first : Bool⦄ ⦃done : List Node⦄ ⦃s : Source⦄ ⦃items : List Node⦄ ⦃s' : Source⦄,
    (first = true → m.verbose = s.flags.verbose) →
    sequence bound m.verbose first done s = .ok (items, s') →
    ∃ parts m', Settles first m m' s s' ∧ Reading (2 * parts.length + 1)
      (fun n => sequence n m.verbose first done) m parts m' (parts.filterMap Part.name?) s items s'

def AlternativesRead (bound : Nat) : Prop :=
  ∀ ⦃m : Scope⦄ ⦃top : Bool⦄ ⦃done : List (List Node)⦄ ⦃s : Source⦄ ⦃items : List Node⦄
    ⦃s' : Source⦄, (top = true → m.verbose = s.flags.verbose) →
    alternatives bound m.verbose top done s = .ok (items, s') →
    ∃ parts m', Settles top m m' s s' ∧ Reading (2 * parts.length + 2)
      (fun n => alternatives n m.verbose top done) m parts m' (parts.filterMap Part.name?) s items
      s'

theorem SequencesRead.covers {bound : Nat} (h : SequencesRead bound) (m : Scope) :
    Covers 1 m (sequence bound m.verbose false []) (fun n => sequence n m.verbose false []) := by
  intro s items s' hok
  obtain ⟨parts, m', hsettles, hreading⟩ := h (fun hf => Bool.noConfusion hf) hok
  obtain rfl := hsettles.eq
  exact ⟨parts, (hsettles.stays rfl).2, hreading⟩

theorem AlternativesRead.covers {bound : Nat} (h : AlternativesRead bound) (m : Scope) :
    Covers 2 m (alternatives bound m.verbose false [])
      (fun n => alternatives n m.verbose false []) := by
  intro s items s' hok
  obtain ⟨parts, m', hsettles, hreading⟩ := h (fun hf => Bool.noConfusion hf) hok
  obtain rfl := hsettles.eq
  exact ⟨parts, (hsettles.stays rfl).2, hreading⟩

theorem sequence_reads {bound : Nat} (hseq : SequencesRead bound) (halt : AlternativesRead bound) :
    SequencesRead (bound + 1) := by
  intro m first done s items s' hfree h
  by_cases hstop : ∀ t, s.rest.head? = some t → t = .plain '|' ∨ t = .plain ')'
  · cases (sequence_stop hstop).symm.trans h
    refine ⟨[], m, .of_flags hfree rfl, ?_⟩
    refine Reading.of_step (g := fun _ _ => pure _) (fun _ => .of_pure m s _) fun n t hhead => ?_
    exact sequence_stop fun u hu => hstop u (hhead.symm.trans hu)
  · obtain ⟨t, hstop⟩ := Classical.not_forall.mp hstop
    rw [Classical.not_imp, not_or] at hstop
    obtain ⟨hhead, hbar, hclose⟩ := hstop
    rw [sequence_more hhead hbar hclose] at h
    obtain ⟨p, s₂, hnext, h⟩ := bind_ok.mp h
    obtain ⟨o, s₁, hnext, hturn⟩ := bind_ok.mp hnext
    obtain ⟨-, -, ⟨rfl, -⟩, -⟩ := next_local hnext
    rw [hhead] at hnext
    obtain ⟨parts₁, m₁, hne, hverbose, hsettles₁, hreading₁⟩ := turn_reading
      (fun n inner => alternatives n inner false []) (fun n => sequence n m.verbose false [])
      halt.covers (fun m' hm' => hm' ▸ hseq.covers m') hfree hnext hclose hturn
    rw [hverbose] at h
    obtain ⟨parts₂, m₂, hsettles₂, hreading₂⟩ := hseq hsettles₁.follows h
    refine ⟨parts₁ ++ parts₂, m₂, hsettles₁.trans hsettles₂, ?_⟩
    have hlength : parts₁.length ≠ 0 := fun h => hne (List.length_eq_zero_iff.mp h)
    rw [List.filterMap_append]
    have hreading₂ : Reading (2 * parts₂.length + 1) (fun n => sequence n p.1 first p.2) m₁ parts₂
        m₂ (parts₂.filterMap Part.name?) s₂ items s' := by
      rw [hverbose]
      exact hreading₂
    have hstep : ∀ start, Reading (2 * (parts₁ ++ parts₂).length) (fun n =>
        (next >>= fun _ => turn (fun inner => alternatives n inner false [])
          (sequence n m.verbose false []) m.verbose first done start t) >>=
        fun p => sequence n p.1 first p.2) m (parts₁ ++ parts₂) m₂
        (parts₁.filterMap Part.name? ++ parts₂.filterMap Part.name?) s items s' := by
      intro start
      refine (hreading₁ start).bind (g := fun p n => sequence n p.1 first p.2) hreading₂ ?_ ?_
      all_goals
        rw [List.length_append]
        omega
    exact .of_step hstep fun n t' hhead' => sequence_more (hhead'.trans hhead) hbar hclose

theorem orMore_reading {bound : Nat} (halt : AlternativesRead bound) {m : Scope}
    {verbose top : Bool} {read : List (List Node)} {bar : Bool} {s s' : Source} {items : List Node}
    (hverbose : (if top then s.flags.verbose else verbose) = m.verbose)
    (h : orMore (fun verbose => alternatives bound verbose top read) verbose top read bar s =
      .ok (items, s')) :
    ∃ parts m' need, Settles top m m' s s' ∧ Reading need
      (fun n => orMore (fun verbose => alternatives n verbose top read) verbose top read bar) m
      parts m' (parts.filterMap Part.name?) s items s' ∧
      need ≤ 2 * ((if bar then [Part.token (.plain '|')] else []) ++ parts).length := by
  have hfree : top = true → m.verbose = s.flags.verbose := by
    rintro rfl
    exact hverbose.symm
  cases bar with
  | false =>
    obtain ⟨rfl, rfl⟩ := pure_ok.mp h
    exact ⟨[], m, 0, .of_flags hfree rfl, .of_pure .., Nat.zero_le _⟩
  | true =>
    change alternatives bound (if top then s.flags.verbose else verbose) top read s = _ at h
    rw [hverbose] at h
    obtain ⟨parts, m', hsettles, hreading⟩ := halt hfree h
    rw [← hverbose] at hreading
    refine ⟨parts, m', 2 * parts.length + 2, hsettles, .of_get_flags (g := fun flags n =>
      alternatives n (if top then flags.verbose else verbose) top read) hreading, ?_⟩
    rw [List.length_append, if_pos rfl, List.length_singleton]
    omega

theorem alternatives_reads {bound : Nat} (hseq : SequencesRead bound)
    (halt : AlternativesRead bound) : AlternativesRead (bound + 1) := by
  intro m top done s items s' hfree h
  rw [alternatives] at h
  obtain ⟨branch, s₁, hbranch, h⟩ := bind_ok.mp h
  obtain ⟨bar, s₂, hskip, h⟩ := bind_ok.mp h
  have hfirst : (top && done.isEmpty) = true → m.verbose = s.flags.verbose :=
    fun hf => hfree (Bool.and_eq_true_iff.mp hf).1
  obtain ⟨parts₁, m₁, hsettles₁, hreading₁⟩ := hseq hfirst hbranch
  have hsettles₁ := hsettles₁.of_and hfree
  obtain ⟨hflags₂, hreading₂⟩ := skip_reading m₁ m₁ hskip (fun _ => cut_plain (by decide) _ _)
    (fun _ => rfl)
  have hsettles₂ : Settles top m₁ m₁ s₁ s₂ := .of_flags hsettles₁.follows hflags₂
  have hverbose : (if top then s₂.flags.verbose else m.verbose) = m₁.verbose := by
    cases top with
    | true => exact (hsettles₂.follows rfl).symm
    | false => exact (hsettles₁.stays rfl).1.symm
  obtain ⟨parts₃, m₃, need, hsettles₃, hreading₃, hneed⟩ := orMore_reading halt hverbose h
  have hbar : (if bar then [Part.token (.plain '|')] else []).filterMap Part.name? = [] := by
    cases bar <;> rfl
  refine ⟨parts₁ ++ ((if bar then [.token (.plain '|')] else []) ++ parts₃), m₃,
    hsettles₁.trans (hsettles₂.trans hsettles₃), ?_⟩
  rw [List.filterMap_append, List.filterMap_append, hbar]
  refine Reading.of_step (g := fun _ n => sequence n m.verbose (top && done.isEmpty) [] >>=
    fun branch => skip '|' >>= orMore (fun verbose => alternatives n verbose top (done ++ [branch]))
      m.verbose top (done ++ [branch])) (fun _ => ?_) fun n t _ => by rw [alternatives]
  refine hreading₁.bind (g := fun branch n => skip '|' >>= orMore
    (fun verbose => alternatives n verbose top (done ++ [branch])) m.verbose top (done ++ [branch]))
    (hreading₂.bind (g := fun bar n => orMore
      (fun verbose => alternatives n verbose top (done ++ [branch])) m.verbose top
      (done ++ [branch]) bar) hreading₃ (Nat.zero_le _) hneed) ?_ ?_
  all_goals
    simp only [List.length_append]
    omega

theorem reads (bound : Nat) : SequencesRead bound ∧ AlternativesRead bound := by
  induction bound with
  | zero =>
    refine ⟨?_, ?_⟩
    · intro m first done s items s' _ h
      exact absurd h (fail_ne_ok _ _ _ _)
    · intro m top done s items s' _ h
      exact absurd h (fail_ne_ok _ _ _ _)
  | succ bound ih => exact ⟨sequence_reads ih.1 ih.2, alternatives_reads ih.1 ih.2⟩

end Read

/-! ## Whole expressions -/

theorem finish_ok {root : Node} {s s' : Source} {e : Expression} :
    finish root s = .ok (e, s') ↔
      s.rest = [] ∧ (∀ c ∈ s.conditions, c.1 < s.groupCount) ∧ ∃ flags,
        settleAlphabet s.flags = .ok flags ∧ e = ⟨root, flags, s.groupCount - 1, s.names⟩ ∧
        s' = s := by
  have hmissing : s.missingGroup? = none ↔ ∀ c ∈ s.conditions, c.1 < s.groupCount := by
    simp [Source.missingGroup?, List.find?_eq_none]
  rw [finish, Read.get_bind, ← hmissing]
  cases hflags : settleAlphabet s.flags with
  | error failure =>
    constructor
    · intro h
      cases h
    · intro h
      obtain ⟨-, -, flags, h, -⟩ := h
      cases h
  | ok flags =>
    have hlift : ∀ k : Flags → Read Expression,
        ((liftM (Except.ok flags : Except Failure Flags) : Read Flags) >>= k) s = k flags s :=
      fun k => rfl
    rw [hlift]
    dsimp only
    by_cases hrest : s.rest = []
    · rw [hrest, if_pos List.isEmpty_nil]
      cases hfind : s.missingGroup? with
      | none =>
        constructor
        · intro h
          cases h
          exact ⟨rfl, rfl, flags, rfl, rfl, rfl⟩
        · intro h
          obtain ⟨-, -, flags', h, rfl, rfl⟩ := h
          cases h
          rfl
      | some c =>
        constructor
        · intro h
          exact absurd h (Read.failAt_ne_ok _ _ _ _)
        · intro h
          obtain ⟨-, h, -⟩ := h
          cases h
    · have hsome : ¬ s.rest.isEmpty = true := by simpa using hrest
      rw [if_neg hsome]
      constructor
      · intro h
        obtain ⟨_, _, hfail, -⟩ := Read.bind_ok.mp h
        exact absurd hfail (Read.fail_ne_ok _ _ _ _)
      · intro h
        obtain ⟨h, -⟩ := h
        exact absurd h hrest

theorem finish_again {root : Node} {s t : Source} {e : Expression}
    (h : finish root s = .ok (e, s)) (hlike : s.Like t) (hrest : t.rest = []) :
    finish root t = .ok (e, t) := by
  obtain ⟨-, hconditions, flags, hflags, rfl, -⟩ := finish_ok.mp h
  have hcount : t.groupCount = s.groupCount := by
    rw [Source.groupCount, Source.groupCount, hlike.widths]
  refine finish_ok.mpr ⟨hrest, ?_, flags, by rw [hlike.flags]; exact hflags, ?_, rfl⟩
  · intro c hc
    have hmem := List.mem_map_of_mem (f := Prod.fst) hc
    rw [hlike.conditions] at hmem
    obtain ⟨d, hd, hfst⟩ := List.mem_map.mp hmem
    rw [← hfst, hcount]
    exact hconditions d hd
  · rw [hcount, hlike.names]

theorem Part.tokens_ne_nil (part : Part) : part.tokens ≠ [] := by
  cases part with
  | opener short name => cases short <;> simp [Part.tokens]
  | _ => simp [Part.tokens]

theorem length_le_tokensOf (parts : List Part) : parts.length ≤ (tokensOf parts).length := by
  induction parts with
  | nil => exact Nat.zero_le _
  | cons part parts ih =>
    have hpart := List.length_pos_iff.mpr part.tokens_ne_nil
    rw [tokensOf, List.flatMap_cons, List.length_append, List.length_cons]
    have hrest : parts.length ≤ (parts.flatMap Part.tokens).length := ih
    omega

/-- The layout of a text that is read as an expression. -/
structure IsLayout (text : List Char) (flags : Flags) (parts : List Part) : Prop where
  tokens : tokens text = (tokensOf parts, false)
  lays : ∃ verbose, Lays ⟨flags.verbose, []⟩ (tokensOf parts) parts ⟨verbose, []⟩ []

theorem IsLayout.of_layout? {text : List Char} {flags : Flags} {parts : List Part} (verbose : Bool)
    (hlone : (Regex.tokens text).2 = false)
    (h : layout? (Regex.tokens text).1.length ⟨flags.verbose, []⟩ (Regex.tokens text).1 =
      some (parts, ⟨verbose, []⟩)) : IsLayout text flags parts := by
  have hlays := lays_of_layout? h
  have htokens : (Regex.tokens text).1 = tokensOf parts := by
    simpa using hlays.tokens
  refine ⟨Prod.ext htokens hlone, verbose, ?_⟩
  rw [← htokens]
  exact hlays

theorem IsLayout.unique {text : List Char} {flags : Flags} {parts parts' : List Part}
    (h : IsLayout text flags parts) (h' : IsLayout text flags parts') : parts = parts' := by
  obtain ⟨verbose, hlays⟩ := h.lays
  obtain ⟨verbose', hlays'⟩ := h'.lays
  have htokens : tokensOf parts = tokensOf parts' :=
    congrArg Prod.fst (h.tokens.symm.trans h'.tokens)
  rw [← htokens] at hlays'
  exact (hlays.unique hlays').1

/-- The state at the start of a text. -/
def startOf (text : List Char) (flags : Flags) : Source :=
  ⟨(tokens text).1, (tokens text).2, 0, flags, [], [], none, []⟩

theorem read_eq_ok_iff {text : List Char} {flags : Flags} {e : Expression} :
    Expression.read text flags = .ok e ↔
      ((tokens text).1 = [] → (tokens text).2 = false) ∧ ∃ items s, Read.alternatives
        (2 * (tokens text).1.length + 2) flags.verbose true [] (startOf text flags) =
          .ok (items, s) ∧ finish (Node.ofItems items) s = .ok (e, s) := by
  have hread : Expression.read text flags = (readAll (2 * (tokens text).1.length + 2) flags
      (startOf text flags)).map Prod.fst := rfl
  have hok : Expression.read text flags = .ok e ↔ ∃ s', readAll (2 * (tokens text).1.length + 2)
      flags (startOf text flags) = .ok (e, s') := by
    rw [hread]
    cases readAll (2 * (tokens text).1.length + 2) flags (startOf text flags) with
    | error failure => simp [Except.map]
    | ok p => simp [Except.map, Prod.ext_iff]
  rw [hok, readAll, Read.get_bind]
  constructor
  · intro h
    obtain ⟨s', h⟩ := h
    obtain ⟨_, s₁, hmove, h⟩ := Read.bind_ok.mp h
    obtain ⟨hlone, rfl⟩ := Read.moveTo_ok.mp hmove
    obtain ⟨items, s₂, halt, h⟩ := Read.bind_ok.mp h
    obtain ⟨-, -, -, -, -, rfl⟩ := finish_ok.mp h
    exact ⟨hlone, items, s', halt, h⟩
  · intro h
    obtain ⟨hlone, items, s, halt, h⟩ := h
    exact ⟨s, Read.bind_ok.mpr ⟨(), _, Read.moveTo_ok.mpr ⟨hlone, rfl⟩,
      Read.bind_ok.mpr ⟨items, s, halt, h⟩⟩⟩

/-- A text that is read as an expression has a layout, every opener in it has its letter and names
a group of the expression, and every text with the same layout but for what comments and remarks
say is read as the same expression. -/
theorem Expression.read_laid {text : List Char} {flags : Flags} {e : Expression}
    (h : Expression.read text flags = .ok e) :
    ∃ parts, IsLayout text flags parts ∧ (∀ name, .opener true name ∉ parts) ∧
      parts.filterMap Part.name? = e.names.map Prod.fst ∧
      ∀ ⦃parts' : List Part⦄ ⦃text' : List Char⦄, Alike parts parts' →
        Linting.Regex.tokens text' = (tokensOf parts', false) →
        Expression.read text' flags = .ok e := by
  obtain ⟨hlone, items, s, halt, hfinish⟩ := read_eq_ok_iff.mp h
  obtain ⟨hend, -, settled, -, rfl, -⟩ := finish_ok.mp hfinish
  obtain ⟨parts, ⟨verbose, outer⟩, hsettles, hreading⟩ :=
    (Read.reads _).2 (m := ⟨flags.verbose, []⟩) (fun _ => rfl) halt
  obtain rfl : outer = [] := hsettles.outer
  have hlays := hreading.lays
  rw [hend] at hlays
  have htokens : (tokens text).1 = tokensOf parts := by
    simpa [startOf] using hlays.tokens
  have hlone : (tokens text).2 = false := by
    cases hl : (tokens text).2 with
    | false => rfl
    | true =>
      refine absurd hend (hreading.open_ended ?_ (hreading.lone.trans hl))
      intro _ hnil
      exact Bool.noConfusion ((hlone hnil).symm.trans hl)
  refine ⟨parts, ⟨Prod.ext htokens hlone, verbose, ?_⟩, hreading.long, ?_, ?_⟩
  · rw [← htokens]
    exact hlays
  · simpa [startOf] using hreading.names.symm
  · intro parts' text' halike htext'
    have hlike : (startOf text flags).Like (startOf text' flags) :=
      ⟨by rw [startOf, startOf, htext', hlone], rfl, rfl, rfl, rfl, rfl⟩
    have hbound : 2 * parts.length + 2 ≤ 2 * (tokens text').1.length + 2 := by
      have hle := length_le_tokensOf parts'
      rw [halike.length] at hle
      rw [htext']
      dsimp only
      omega
    have hrest : (startOf text' flags).rest = tokensOf parts' ++ [] := by
      rw [startOf, htext', List.append_nil]
    obtain ⟨t, ht, hnil, hlike'⟩ :=
      hreading.again halike hbound hlike hrest (by rw [hend]; exact .nil)
    refine read_eq_ok_iff.mpr ⟨fun _ => by rw [htext'], items, t, ht, ?_⟩
    exact finish_again hfinish hlike' hnil

end Linting.Regex
