import Linting.Proofs.Regex.Reading

/-! The turns of a sequence read parts, and with them sequences, alternatives and whole expressions
do. What is read between the two parentheses of a group leaves the scope as it was. -/

namespace Linting.Regex
set_option autoImplicit false

variable {α β : Type}

/-! ## Scopes -/

theorem HeadScope.of_flags {m m' : Scope} {s s₁ s' : Source} {head : GroupHead}
    (h : HeadScope m s₁ s' head m') (hflags : s₁.flags = s.flags) : HeadScope m s s' head m' := by
  cases head with
  | globalFlags => exact ⟨h.1, fun hm => h.2 (hm.trans (by rw [hflags]))⟩
  | _ => exact h

/-- How the scope is left behind what has been read: the groups that were open still are, and the
verbose mode follows the flags where they may be set and stays where they may not. -/
structure Settles (free : Bool) (m m' : Scope) (s s' : Source) : Prop where
  outer : m'.outer = m.outer
  follows : free = true → m'.verbose = s'.flags.verbose
  stays : free = false → m'.verbose = m.verbose ∧ s'.flags = s.flags

namespace Settles

variable {free : Bool} {m m₁ m₂ : Scope} {s s₁ s₂ : Source}

theorem of_flags (hfree : free = true → m.verbose = s.flags.verbose) (h : s₁.flags = s.flags) :
    Settles free m m s s₁ :=
  ⟨rfl, fun hf => (hfree hf).trans (by rw [h]), fun _ => ⟨rfl, h⟩⟩

theorem trans (h₁ : Settles free m m₁ s s₁) (h₂ : Settles free m₁ m₂ s₁ s₂) :
    Settles free m m₂ s s₂ where
  outer := h₂.outer.trans h₁.outer
  follows := h₂.follows
  stays := fun hf =>
    ⟨(h₂.stays hf).1.trans (h₁.stays hf).1, (h₂.stays hf).2.trans (h₁.stays hf).2⟩

theorem eq (h : Settles false m m₁ s s₁) : m₁ = m := by
  obtain ⟨verbose, outer⟩ := m
  obtain ⟨verbose', outer'⟩ := m₁
  obtain rfl : outer' = outer := h.outer
  obtain rfl : verbose' = verbose := (h.stays rfl).1
  rfl

end Settles

/-! ## Turns that open no group -/

namespace Read

section Turns

variable (inside : Bool → Read (List Node)) (branch : Read (List Node)) (first : Bool)
  (done : List Node) (start : Nat)

theorem turn_blank {t : Token} (ht : t.isPlain isVerboseBlank = true) :
    turn inside branch true first done start t = pure (true, done) := by
  have hskip : skipVerbose t = pure true := if_pos ht
  unfold turn
  rw [if_pos rfl, hskip]
  rfl

theorem turn_remark :
    turn inside branch true first done start (.plain '#') =
      (upTo '\n' >>= fun _ => pure (true, done)) := by
  have hskip : skipVerbose (.plain '#') = (upTo '\n' >>= fun _ => pure true) := rfl
  unfold turn
  rw [if_pos rfl, hskip, bind_assoc]
  rfl

theorem turn_group (verbose : Bool) :
    turn inside branch verbose first done start (.plain '(') =
      (groupHead start >>= afterHead inside branch verbose first done start) := by
  cases verbose <;> rfl

theorem turn_item {verbose : Bool} {t : Token} (hopen : t ≠ .plain '(')
    (hblank : verbose = true → t.isPlain isVerboseBlank = false ∧ t ≠ .plain '#') :
    turn inside branch verbose first done start t =
      (itemOrLoop done start t >>= fun items => pure (verbose, items)) := by
  have hskip : (if verbose then skipVerbose t else pure false) = pure false := by
    cases verbose with
    | false => rfl
    | true =>
      obtain ⟨hb, hr⟩ := hblank rfl
      rw [if_pos rfl, skipVerbose, hb]
      exact if_neg hr
  unfold turn
  rw [hskip]
  exact if_neg hopen

end Turns

/-- A token that has been read is a part of its own where it may be one. -/
theorem next_reading {m m' : Scope} {t : Token} {s s₁ : Source} (h : next s = .ok (some t, s₁))
    (hcut : Cut m (.token t) m' s₁.rest) :
    Reading 0 (fun _ => next) m [.token t] m' [] s (some t) s₁ := by
  obtain ⟨u, hu, ⟨-, rfl, hkeeps⟩, again⟩ := next_local h
  exact .of_again hu hkeeps.without_flags (.cut hcut) (by simp [Part.Spoken]) (by simp) again

theorem alike_remark {body : List Token} {parts parts' : List Part}
    (h : Alike (.remark body :: parts) parts') :
    ∃ body' rest, parts' = .remark body' :: rest ∧ .plain '\n' ∉ body' ∧ Alike parts rest := by
  obtain ⟨part', rest, rfl, hbare, hclosed, hrest⟩ := h.of_cons
  cases part' with
  | remark body' => exact ⟨body', rest, rfl, hclosed, hrest⟩
  | _ => cases hbare

theorem alike_comment {body : List Token} {parts parts' : List Part}
    (h : Alike (.comment body :: parts) parts') :
    ∃ body' rest, parts' = .comment body' :: rest ∧ .plain ')' ∉ body' ∧ Alike parts rest := by
  obtain ⟨part', rest, rfl, hbare, hclosed, hrest⟩ := h.of_cons
  cases part' with
  | comment body' => exact ⟨body', rest, rfl, hclosed, hrest⟩
  | _ => cases hbare

theorem cut_blank {t : Token} (h : t.isPlain isVerboseBlank = true) (m : Scope)
    (rest : List Token) : Cut m (.token t) m rest := by
  cases t with
  | escaped c => cases h
  | plain c =>
    refine cut_plain ?_ m rest
    intro hc
    simp only [List.mem_cons, List.not_mem_nil, or_false] at hc
    rcases hc with rfl | rfl | rfl | rfl <;> cases h

/-- A remark that goes on to the end of the text. -/
theorem last_remark_reading {m : Scope} {s s₁ s₂ : Source} (hverbose : m.verbose = true)
    (hs : s.rest = .plain '#' :: s₁.rest) (hmoved : s.Moved s₂) (hend : s₂.rest = [])
    (hbody : .plain '\n' ∉ s₁.rest) (a : α) :
    Reading 0 (fun _ => next >>= fun _ => upTo '\n' >>= fun _ => pure a) m [.remark s₁.rest] m []
      s a s₂ := by
  have hne : s.rest ≠ [] := by simp [hs]
  refine ⟨⟨?_, hmoved.keeps.lone, hmoved.open_ended, ?_, by simp⟩, ?_⟩
  · rw [hs, hend]
    have hcut : Cut m (.remark s₁.rest) m [] := .remark hverbose hbody (by simp)
    simpa [Part.tokens] using Lays.cut hcut
  · rw [hmoved.keeps.names, List.append_nil]
  · intro parts' t r bound halike _ hlike hrest hagree
    obtain ⟨body', rest, rfl, hbody', hnil⟩ := alike_remark halike
    rw [hend] at hagree
    obtain rfl := hagree.eq_nil_iff.mpr rfl
    obtain rfl := List.map_eq_nil_iff.mp hnil.bare
    have hlone : t.lone = false := hlike.lone.trans (hmoved.keeps.closed hne hend)
    have hrest : t.rest = .plain '#' :: body' := by simpa [tokensOf, Part.tokens] using hrest
    have hnext := next_again hrest fun _ => hlone
    obtain ⟨q, hq⟩ := upTo_again_none (t := { t with
      rest := body'
      position := t.position + Token.size (.plain '#') }) hbody' hlone
    exact ⟨_, bind_ok.mpr ⟨_, _, hnext, bind_ok.mpr ⟨_, _, hq, rfl⟩⟩, rfl, hmoved.like hlike [] q⟩

/-- A remark that goes on to the end of its line. -/
theorem line_remark_reading {m : Scope} {s s₂ : Source} {w : List Token}
    (hverbose : m.verbose = true) (hs : s.rest = .plain '#' :: (w ++ .plain '\n' :: s₂.rest))
    (hmoved : s.Moved s₂) (hw : .plain '\n' ∉ w) (a : α) :
    Reading 0 (fun _ => next >>= fun _ => upTo '\n' >>= fun _ => pure a) m
      [.remark w, .token (.plain '\n')] m [] s a s₂ := by
  have hne : s.rest ≠ [] := by simp [hs]
  refine ⟨⟨?_, hmoved.keeps.lone, hmoved.open_ended, ?_, by simp⟩, ?_⟩
  · rw [hs]
    have hcut : Cut m (.remark w) m (.plain '\n' :: s₂.rest) :=
      .remark hverbose hw (fun t ht => (Option.some.inj ht).symm)
    exact .cons_cut hcut (.cut (cut_plain (by decide) _ _))
  · rw [hmoved.keeps.names, List.append_nil]
  · intro parts' t r bound halike _ hlike hrest hagree
    obtain ⟨body', rest, rfl, hbody', htail⟩ := alike_remark halike
    obtain rfl := htail.eq_of_spoken (by simp [Part.Spoken])
    have hlone := hmoved.keeps.lone_of_agree hne hlike hagree
    have hrest : t.rest = .plain '#' :: (body' ++ .plain '\n' :: r) := by
      simpa [tokensOf, Part.tokens] using hrest
    have hnext := next_again hrest (by simp)
    obtain ⟨q, hq⟩ := upTo_again (t := { t with
      rest := body' ++ .plain '\n' :: r
      position := t.position + Token.size (.plain '#') }) hbody' rfl hlone
    exact ⟨_, bind_ok.mpr ⟨_, _, hnext, bind_ok.mpr ⟨_, _, hq, rfl⟩⟩, rfl, hmoved.like hlike r q⟩

theorem remark_reading {m : Scope} {s s₁ s₂ : Source} {text : Option (List Char)}
    (hverbose : m.verbose = true) (h : next s = .ok (some (.plain '#'), s₁))
    (hupTo : upTo '\n' s₁ = .ok (text, s₂)) (a : α) :
    ∃ parts, parts ≠ [] ∧ parts.filterMap Part.name? = [] ∧
      Reading 0 (fun _ => next >>= fun _ => upTo '\n' >>= fun _ => pure a) m parts m [] s a s₂ := by
  obtain ⟨hs, hmoved₁⟩ := next_ok h
  obtain ⟨hmoved₂, hcases⟩ := upTo_ok hupTo
  have hmoved := hmoved₁.trans hmoved₂
  rcases hcases with ⟨-, hend, hbody⟩ | ⟨w, -, hrest, hw⟩
  · exact ⟨_, by simp, rfl, last_remark_reading hverbose hs hmoved hend hbody a⟩
  · rw [hrest] at hs
    exact ⟨_, by simp, rfl, line_remark_reading hverbose hs hmoved hw a⟩

/-! ## Heads of groups -/

theorem comment_reading {m : Scope} {start : Nat} {s s₁ s₂ : Source} {body : List Token}
    (h : next s = .ok (some (.plain '('), s₁))
    (hrest : s₁.rest = .plain '?' :: .plain '#' :: (body ++ .plain ')' :: s₂.rest))
    (hbody : .plain ')' ∉ body) (hkeeps : s.Keeps { s₂ with flags := s.flags })
    (hagain : Again (groupHead start) s₁ (.plain '?' :: .plain '#' :: (body ++ [.plain ')']))
      .comment s₂) :
    Reading 0 (fun _ => next >>= fun _ => groupHead start) m
      [.comment body, .token (.plain ')')] m [] s .comment s₂ := by
  obtain ⟨hs, hmoved⟩ := next_ok h
  refine ⟨⟨?_, hkeeps.lone, hkeeps.open_ended, ?_, by simp⟩, ?_⟩
  · rw [hs, hrest]
    have hcut : Cut m (.comment body) (m.inside m.verbose m.verbose) (.plain ')' :: s₂.rest) :=
      .comment hbody (fun t ht => (Option.some.inj ht).symm)
    exact .cons_cut hcut (lays_close m.verbose m.verbose s₂.rest)
  · rw [List.append_nil]
    exact congrArg _ hkeeps.names
  · intro parts' t r bound halike _ hlike hrest' hagree
    obtain ⟨body', rest, rfl, hbody', htail⟩ := alike_comment halike
    obtain rfl := htail.eq_of_spoken (by simp [Part.Spoken])
    have hlone : r = [] → t.lone = false := by
      intro hr
      rw [hlike.lone]
      exact hkeeps.closed (by simp [hs]) (hagree.eq_nil_iff.mp hr)
    have hrest' : t.rest =
        .plain '(' :: .plain '?' :: .plain '#' :: (body' ++ .plain ')' :: r) := by
      simpa [tokensOf, Part.tokens] using hrest'
    have hnext := next_again hrest' (by simp)
    obtain ⟨q, hq⟩ := groupHead_comment start (t := { t with
      rest := .plain '?' :: .plain '#' :: (body' ++ .plain ')' :: r)
      position := t.position + Token.size (.plain '(') }) hbody' rfl hlone
    refine ⟨_, bind_ok.mpr ⟨_, _, hnext, hq⟩, rfl, ?_⟩
    -- the state behind the new comment knows what the one behind the old comment does
    have hlike₁ := hmoved.like hlike (.plain '?' :: .plain '#' :: (body ++ .plain ')' :: r))
      t.position
    obtain ⟨t', ht', -, hlike'⟩ := hagain hlike₁ (by simp) hagree
    obtain ⟨q', hq'⟩ := groupHead_comment start (t := { t with
      rest := .plain '?' :: .plain '#' :: (body ++ .plain ')' :: r)
      position := t.position }) hbody rfl hlone
    cases ht'.symm.trans hq'
    exact ⟨hlike'.lone, hlike'.flags, hlike'.names, hlike'.widths, hlike'.lookbehind,
      hlike'.conditions⟩

/-- The parenthesis and the head of a group. -/
theorem head_reading {m : Scope} {start : Nat} {s s₁ s₂ : Source} {head : GroupHead}
    (h : next s = .ok (some (.plain '('), s₁)) (hhead : groupHead start s₁ = .ok (head, s₂)) :
    ∃ parts m', parts ≠ [] ∧ parts.filterMap Part.name? = headNames head ∧
      HeadScope m s s₂ head m' ∧ (head ≠ .globalFlags → s₂.flags = s.flags) ∧
      ∀ start', Reading 0 (fun _ => next >>= fun _ => groupHead start') m parts m' [] s head
        s₂ := by
  obtain ⟨v, hv, ⟨-, rfl, hkeeps₁⟩, again₁⟩ := next_local h
  obtain ⟨u, hu, hread, -⟩ := groupHead_local start start hhead
  have again₂ : ∀ start', Again (groupHead start') s₁ u head s₂ := by
    intro start'
    obtain ⟨u', hu', -, again⟩ := groupHead_local start start' hhead
    rw [List.append_cancel_right (hu.symm.trans hu')]
    exact again
  obtain ⟨hkeeps₂, hflags⟩ := hread.keeps
  have hkeeps : s.Keeps { s₂ with flags := s.flags } :=
    ⟨hkeeps₂.lone.trans hkeeps₁.lone, rfl, hkeeps₂.names.trans hkeeps₁.names,
      fun ho => hkeeps₂.open_ended (hkeeps₁.open_ended ho)⟩
  have hflags' : head ≠ .globalFlags → s₂.flags = s.flags :=
    fun hne => (hflags hne).trans hkeeps₁.flags
  by_cases hcomment : head = .comment
  · subst hcomment
    cases hread with
    | @comment body _ hbody =>
      have hrest : s₁.rest = .plain '?' :: .plain '#' :: (body ++ .plain ')' :: s₂.rest) := by
        rw [hu]
        simp
      exact ⟨_, m, by simp, rfl, rfl, hflags',
        fun start' => comment_reading h hrest hbody hkeeps (again₂ start')⟩
  · obtain ⟨parts, m', hlays, hscope, hne, hnames, hspoken, hlong⟩ := hread.lays hu hcomment m
    refine ⟨parts, m', hne, hnames, hscope.of_flags hkeeps₁.flags, hflags', fun start' => ?_⟩
    have hrest : s.rest = .plain '(' :: u ++ s₂.rest := by
      rw [hv, hu]
      rfl
    exact .of_again hrest hkeeps hlays hspoken hlong (again₁.bind hu (again₂ start'))

/-! ## What groups hold -/

/-- An action that reads nothing and names no group. -/
theorem still_reading {f : Read α} {m : Scope} {s s₁ : Source} {a : α}
    (hkeeps : s.Keeps { s₁ with flags := s.flags }) (hrest : s₁.rest = s.rest)
    (again : Again f s [] a s₁) : Reading 0 (fun _ => f) m [] m [] s a s₁ :=
  .of_again (u := []) hrest.symm hkeeps (.nil ..) (by simp) (by simp) again

theorem openGroup_reading {name : Option String} {m : Scope} {s s₁ : Source} {group : Nat}
    (h : openGroup name s = .ok (group, s₁)) :
    s₁.flags = s.flags ∧ Reading 0 (fun _ => openGroup name) m [] m name.toList s group s₁ := by
  have hsilent : ∀ t : Source, s.Like t → openGroup name t = .ok (group, { t with
      widths := s₁.widths
      names := s₁.names }) ∧ s₁.widths = s.widths ++ [none] ∧
      s₁.names.map Prod.fst = s.names.map Prod.fst ++ name.toList ∧
      s₁ = { s with widths := s₁.widths, names := s₁.names } := by
    intro t hlike
    rw [openGroup, get_bind] at h ⊢
    rw [Source.groupCount, hlike.widths, hlike.names]
    cases name with
    | none =>
      cases h
      have hnames : t.names = s.names := hlike.names
      exact ⟨by rw [← hnames]; rfl, rfl, (List.append_nil _).symm, rfl⟩
    | some n =>
      dsimp only at h ⊢
      cases hlookup : s.names.lookup n with
      | some earlier =>
        rw [hlookup] at h
        obtain ⟨_, _, hfail, -⟩ := bind_ok.mp h
        exact absurd hfail (fail_ne_ok _ _ _ _)
      | none =>
        rw [hlookup] at h
        cases h
        exact ⟨rfl, rfl, by simp, rfl⟩
  obtain ⟨-, -, hnames, hs₁⟩ := hsilent s ⟨rfl, rfl, rfl, rfl, rfl, rfl⟩
  have hrest : s₁.rest = s.rest := by rw [hs₁]
  have hlone : s₁.lone = s.lone := by rw [hs₁]
  have hflags : s₁.flags = s.flags := by rw [hs₁]
  refine ⟨hflags, ⟨by rw [hrest]; exact .nil .., hlone, ?_, hnames, by simp⟩, ?_⟩
  · intro ho hl
    rw [hrest]
    exact ho (hlone.symm.trans hl)
  · intro parts' t r bound halike _ hlike hrest' _
    obtain rfl := List.map_eq_nil_iff.mp halike.bare
    refine ⟨_, (hsilent t hlike).1, hrest', hlike.lone.trans hlone.symm, ?_, rfl, rfl, ?_, ?_⟩
    · exact hlike.flags.trans hflags.symm
    · rw [hs₁]
      exact hlike.lookbehind
    · rw [hs₁]
      exact hlike.conditions

theorem closeGroup_reading {group : Nat} {width : Width} {m : Scope} {s s₁ : Source}
    (h : closeGroup group width s = .ok ((), s₁)) :
    s₁.flags = s.flags ∧ Reading 0 (fun _ => closeGroup group width) m [] m [] s () s₁ := by
  obtain ⟨u, hu, ⟨rfl, rfl⟩, again⟩ := Local.of_modify (φ := fun s : Source =>
    { s with widths := s.widths.set (group - 1) (some width) }) (fun _ => rfl) (by
      intro s t hlike
      exact ⟨hlike.lone, hlike.flags, hlike.names, by rw [hlike.widths], hlike.lookbehind,
        hlike.conditions⟩) h
  exact ⟨rfl, still_reading ⟨rfl, rfl, rfl, id⟩ rfl again⟩

theorem leaveLookbehind_reading {outer : Option Nat} {m : Scope} {s s₁ : Source}
    (h : leaveLookbehind outer s = .ok ((), s₁)) :
    s₁.flags = s.flags ∧ Reading 0 (fun _ => leaveLookbehind outer) m [] m [] s () s₁ := by
  obtain ⟨u, hu, ⟨rfl, rfl⟩, again⟩ := Local.of_modify (φ := fun s : Source =>
    { s with groupsBeforeLookbehind := outer }) (fun _ => rfl) (by
      intro s t hlike
      exact ⟨hlike.lone, hlike.flags, hlike.names, hlike.widths, rfl, hlike.conditions⟩) h
  exact ⟨rfl, still_reading ⟨rfl, rfl, rfl, id⟩ rfl again⟩

theorem enterLookbehind_reading {outer : Option Nat} {m : Scope} {s s₁ : Source}
    (h : enterLookbehind s = .ok (outer, s₁)) :
    s₁.flags = s.flags ∧ Reading 0 (fun _ => enterLookbehind) m [] m [] s outer s₁ := by
  cases h
  refine ⟨rfl, still_reading ⟨rfl, rfl, rfl, id⟩ rfl ?_⟩
  intro t r hlike hrest _
  refine ⟨{ t with
    groupsBeforeLookbehind := some (s.groupsBeforeLookbehind.getD s.groupCount) }, ?_, hrest,
    hlike.lone, hlike.flags, hlike.names, hlike.widths, rfl, hlike.conditions⟩
  rw [enterLookbehind, get_bind, hlike.lookbehind, Source.groupCount, hlike.widths]
  rfl

theorem skip_reading {c : Char} (m m' : Scope) {s s₁ : Source} {found : Bool}
    (h : skip c s = .ok (found, s₁)) (hcut : found = true → Cut m (.token (.plain c)) m' s₁.rest)
    (hstay : found = false → m' = m) :
    s₁.flags = s.flags ∧ Reading 0 (fun _ => skip c) m
      (if found then [.token (.plain c)] else []) m' [] s found s₁ := by
  obtain ⟨u, hu, ⟨rfl, hkeeps, -⟩, again⟩ := skip_local c h
  refine ⟨hkeeps.flags, ?_⟩
  cases found with
  | false =>
    obtain rfl := hstay rfl
    exact still_reading hkeeps.without_flags hu.symm again
  | true =>
    exact .of_again hu hkeeps.without_flags (.cut (hcut rfl)) (by simp [Part.Spoken]) (by simp)
      again

/-- The parenthesis that closes a group leads back to the scope behind the group. -/
theorem closeParenthesis_reading {start : Nat} (m : Scope) (inner behind : Bool) {s s₁ : Source}
    (h : closeParenthesis start s = .ok ((), s₁)) (start' : Nat) :
    s₁.flags = s.flags ∧ Reading 0 (fun _ => closeParenthesis start') (m.inside inner behind)
      [.token (.plain ')')] ⟨behind, m.outer⟩ [] s () s₁ := by
  obtain ⟨found, s₂, hskip, h⟩ := bind_ok.mp h
  cases found with
  | false => exact absurd h (failAt_ne_ok _ _ _ _)
  | true =>
    obtain ⟨-, rfl⟩ := pure_ok.mp h
    obtain ⟨hflags, hreading⟩ := skip_reading (m.inside inner behind) ⟨behind, m.outer⟩ hskip
      (fun _ => .close _ rfl) (fun h => Bool.noConfusion h)
    exact ⟨hflags, hreading.bind (.of_pure ..) (Nat.le_refl 0) (Nat.le_refl 0)⟩

/-- Whether `f` reads parts and leaves the scope and the flags as they were, and `g` reads them
again under every bound of twice their number and some more. -/
def Covers (more : Nat) (m : Scope) (f : Read α) (g : Nat → Read α) : Prop :=
  ∀ ⦃s : Source⦄ ⦃a : α⦄ ⦃s' : Source⦄, f s = .ok (a, s') →
    ∃ parts, s'.flags = s.flags ∧
      Reading (2 * parts.length + more) g m parts m (parts.filterMap Part.name?) s a s'

/-- Whether what follows the inside of a group reads its parenthesis and leads behind the group. -/
def Closes (m : Scope) (inner behind : Bool) (f : α → Read (Bool × β))
    (g : Nat → α → Read (Bool × β)) : Prop :=
  ∀ ⦃a : α⦄ ⦃s : Source⦄ ⦃b : Bool × β⦄ ⦃s' : Source⦄, f a s = .ok (b, s') →
    b.1 = behind ∧ s'.flags = s.flags ∧ ∀ start, Reading 0 (fun _ => g start a)
      (m.inside inner behind) [.token (.plain ')')] ⟨behind, m.outer⟩ [] s b s'

theorem closes_pure (start : Nat) (m : Scope) (inner behind : Bool) (result : α → β) :
    Closes m inner behind
      (fun a => closeParenthesis start >>= fun _ => pure (behind, result a))
      (fun start' a => closeParenthesis start' >>= fun _ => pure (behind, result a)) := by
  intro a s b s' h
  obtain ⟨_, s₁, hclose, h⟩ := bind_ok.mp h
  obtain ⟨rfl, rfl⟩ := pure_ok.mp h
  refine ⟨rfl, (closeParenthesis_reading m inner behind hclose start).1, fun start' => ?_⟩
  have hreading := (closeParenthesis_reading m inner behind hclose start').2
  exact hreading.map _

theorem closes_capture (start : Nat) (m : Scope) (inner behind : Bool) (group : Nat)
    (done : List Node) :
    Closes m inner behind
      (fun items : List Node => closeParenthesis start >>= fun _ =>
        closeGroup group (Node.ofItems items).width >>= fun _ =>
          pure (behind, .capture group (.ofItems items) :: done))
      (fun start' items => closeParenthesis start' >>= fun _ =>
        closeGroup group (Node.ofItems items).width >>= fun _ =>
          pure (behind, .capture group (.ofItems items) :: done)) := by
  intro items s b s' h
  obtain ⟨_, s₁, hclose, h⟩ := bind_ok.mp h
  obtain ⟨_, s₂, hgroup, h⟩ := bind_ok.mp h
  obtain ⟨rfl, rfl⟩ := pure_ok.mp h
  obtain ⟨hflags₁, -⟩ := closeParenthesis_reading m inner behind hclose start
  obtain ⟨hflags₂, hreading₂⟩ := closeGroup_reading (m := ⟨behind, m.outer⟩) hgroup
  refine ⟨rfl, hflags₂.trans hflags₁, fun start' => ?_⟩
  have hreading₁ := (closeParenthesis_reading m inner behind hclose start').2
  exact hreading₁.bind (hreading₂.map _) (Nat.le_refl 0) (Nat.le_refl 0)

theorem closes_behind (start : Nat) (m : Scope) (inner behind : Bool) (outer : Option Nat)
    (negated : Bool) (done : List Node) :
    Closes m inner behind
      (fun items : List Node => leaveLookbehind outer >>= fun _ =>
        closeParenthesis start >>= fun _ =>
          pure (behind, .behind negated (Node.ofItems items).width (.ofItems items) :: done))
      (fun start' items => leaveLookbehind outer >>= fun _ =>
        closeParenthesis start' >>= fun _ =>
          pure (behind, .behind negated (Node.ofItems items).width (.ofItems items) :: done)) := by
  intro items s b s' h
  obtain ⟨_, s₁, hleave, h⟩ := bind_ok.mp h
  obtain ⟨hflags₁, hreading₁⟩ := leaveLookbehind_reading (m := m.inside inner behind) hleave
  obtain ⟨hb, hflags₂, hreading₂⟩ := closes_pure start m inner behind (fun items =>
    Node.behind negated (Node.ofItems items).width (.ofItems items) :: done) h
  exact ⟨hb, hflags₂.trans hflags₁,
    fun start' => hreading₁.bind (hreading₂ start') (Nat.le_refl 0) (Nat.le_refl 0)⟩

theorem enclosed_reading {more : Nat} {m : Scope} {inner behind : Bool} {f : Read α}
    {f' : Nat → Read α} {closing : α → Read (Bool × β)} {closing' : Nat → α → Read (Bool × β)}
    {s s' : Source} {b : Bool × β} (hin : Covers more (m.inside inner behind) f f')
    (hmore : more ≤ 2) (hclosing : Closes m inner behind closing closing')
    (h : (f >>= closing) s = .ok (b, s')) :
    ∃ parts, b.1 = behind ∧ s'.flags = s.flags ∧ ∀ start, Reading (2 * parts.length)
      (fun n => f' n >>= closing' start) (m.inside inner behind) parts ⟨behind, m.outer⟩
      (parts.filterMap Part.name?) s b s' := by
  obtain ⟨a, s₁, hf, h⟩ := bind_ok.mp h
  obtain ⟨parts, hflags₁, hreading₁⟩ := hin hf
  obtain ⟨hb, hflags₂, hreading₂⟩ := hclosing h
  refine ⟨parts ++ [.token (.plain ')')], hb, hflags₂.trans hflags₁, fun start => ?_⟩
  have hlength : 2 * parts.length + more ≤ 2 * (parts ++ [Part.token (.plain ')')]).length := by
    rw [List.length_append]
    simp only [List.length_singleton]
    omega
  have hnames : (parts ++ [Part.token (.plain ')')]).filterMap Part.name? =
      parts.filterMap Part.name? ++ [] := List.filterMap_append
  rw [hnames]
  exact hreading₁.bind (hreading₂ start) hlength (Nat.zero_le _)

theorem peek_again {c : Token} {s : Source} (f : Read α) (a : α) (h : s.rest.head? ≠ some c) :
    Again (peek >>= fun t => if t = some c then f else pure a) s [] a s := by
  intro t r hlike hrest hagree
  refine ⟨t, ?_, hrest, hlike⟩
  rw [peek_bind, hrest, List.nil_append, hagree.head?, if_neg h]
  rfl

/-- The branch of a condition behind a bar, if there is one. -/
theorem orElse_covers {branch : Read (List Node)} {branch' : Nat → Read (List Node)} {m : Scope}
    (hbranch : Covers 1 m branch branch') (group : Nat) (yes : Node) (bar : Bool) :
    Covers 1 m (orElse branch group yes bar) (fun n => orElse (branch' n) group yes bar) := by
  intro s node s' h
  cases bar with
  | false =>
    obtain ⟨rfl, rfl⟩ := pure_ok.mp h
    exact ⟨[], rfl, (Reading.of_pure ..).mono (Nat.zero_le _)⟩
  | true =>
    obtain ⟨no, s₁, hno, h⟩ := bind_ok.mp h
    obtain ⟨parts, hflags, hreading⟩ := hbranch hno
    rw [peek_bind] at h
    by_cases hbar : s₁.rest.head? = some (.plain '|')
    · rw [if_pos hbar] at h
      obtain ⟨_, _, hfail, -⟩ := bind_ok.mp h
      exact absurd hfail (fail_ne_ok _ _ _ _)
    · rw [if_neg hbar] at h
      obtain ⟨rfl, rfl⟩ := pure_ok.mp h
      refine ⟨parts, hflags, ?_⟩
      have hall := hreading.bind
        (g := fun no _ => peek >>= fun t => if t = some (.plain '|')
          then fail .tooManyBranches 0 >>= fun _ : Unit =>
            pure (Node.ifGroup group yes (.ofItems no))
          else pure (Node.ifGroup group yes (.ofItems no)))
        (still_reading (.without_flags (.refl s')) rfl (peek_again _ _ hbar)) (Nat.le_refl _)
        (Nat.zero_le _)
      rw [List.append_nil, List.append_nil] at hall
      exact hall

theorem branches_covers {branch : Read (List Node)} {branch' : Nat → Read (List Node)}
    {m : Scope} (hbranch : Covers 1 m branch branch') (group : Nat) :
    Covers 1 m (branches branch group) (fun n => branches (branch' n) group) := by
  intro s node s' h
  obtain ⟨yes, s₁, hyes, h⟩ := bind_ok.mp h
  obtain ⟨bar, s₂, hskip, h⟩ := bind_ok.mp h
  obtain ⟨parts₁, hflags₁, hreading₁⟩ := hbranch hyes
  obtain ⟨hflags₂, hreading₂⟩ := skip_reading m m hskip (fun _ => cut_plain (by decide) _ _)
    (fun _ => rfl)
  obtain ⟨parts₃, hflags₃, hreading₃⟩ := orElse_covers hbranch group (.ofItems yes) bar h
  have hbar : (if bar then [Part.token (.plain '|')] else []).filterMap Part.name? = [] := by
    cases bar <;> rfl
  refine ⟨parts₁ ++ ((if bar then [.token (.plain '|')] else []) ++ parts₃),
    hflags₃.trans (hflags₂.trans hflags₁), ?_⟩
  rw [List.filterMap_append, List.filterMap_append, hbar]
  refine hreading₁.bind (hreading₂.bind hreading₃ (Nat.zero_le _) (Nat.le_refl _)) ?_ ?_
  all_goals
    rw [List.length_append, List.length_append]
    omega

/-- Flags for the whole expression stand at its start, and the verbose mode follows them from there
on. -/
theorem globalFlags_reading {inside : Bool → Read (List Node)} {branch : Read (List Node)}
    {inside' : Nat → Bool → Read (List Node)} {branch' : Nat → Read (List Node)}
    {m m₁ : Scope} {first : Bool} {done : List Node} {start : Nat} {s₀ s s' : Source}
    {a : Bool × List Node} (hscope : HeadScope m s₀ s .globalFlags m₁)
    (hfree : first = true → m.verbose = s₀.flags.verbose)
    (h : afterHead inside branch m.verbose first done start .globalFlags s = .ok (a, s')) :
    ∃ parts m', a.1 = m'.verbose ∧ Settles first m m' s₀ s' ∧ ∀ start', Reading
      (2 * parts.length)
      (fun n => afterHead (inside' n) (branch' n) m.verbose first done start' .globalFlags) m₁
      parts m' (headNames .globalFlags ++ parts.filterMap Part.name?) s a s' := by
  by_cases hplace : (!first || !done.isEmpty) = true
  · rw [afterHead, if_pos hplace] at h
    obtain ⟨_, _, hfail, -⟩ := bind_ok.mp h
    exact absurd hfail (failAt_ne_ok _ _ _ _)
  · have hget : ∀ start' (t : Source), afterHead inside branch m.verbose first done start'
        .globalFlags t = .ok ((t.flags.verbose, done), t) := by
      intro start' t
      rw [afterHead, if_neg hplace]
      rfl
    cases (hget start s).symm.trans h
    rw [Bool.or_eq_true, not_or, Bool.not_eq_true, Bool.not_eq_false'] at hplace
    have hverbose := hscope.2 (hfree hplace.1)
    refine ⟨[], m₁, hverbose.symm, ⟨hscope.1, fun _ => hverbose, ?_⟩, fun start' => ?_⟩
    · intro hfirst
      exact Bool.noConfusion (hplace.1.symm.trans hfirst)
    · refine still_reading (.without_flags (.refl s)) rfl ?_
      intro t r hlike hrest _
      refine ⟨t, ?_, hrest, hlike⟩
      rw [← hlike.flags]
      exact hget start' t

theorem afterHead_reading {inside : Bool → Read (List Node)} {branch : Read (List Node)}
    {inside' : Nat → Bool → Read (List Node)} {branch' : Nat → Read (List Node)}
    {m m₁ : Scope} {first : Bool} {done : List Node} {start : Nat} {head : GroupHead}
    {s₀ s s' : Source} {a : Bool × List Node}
    (hin : ∀ m' : Scope, Covers 2 m' (inside m'.verbose) (fun n => inside' n m'.verbose))
    (hbranch : ∀ m' : Scope, m'.verbose = m.verbose → Covers 1 m' branch branch')
    (hscope : HeadScope m s₀ s head m₁) (hfree : first = true → m.verbose = s₀.flags.verbose)
    (hflags : head ≠ .globalFlags → s.flags = s₀.flags)
    (h : afterHead inside branch m.verbose first done start head s = .ok (a, s')) :
    ∃ parts m', a.1 = m'.verbose ∧ Settles first m m' s₀ s' ∧ ∀ start', Reading
      (2 * parts.length)
      (fun n => afterHead (inside' n) (branch' n) m.verbose first done start' head) m₁ parts m'
      (headNames head ++ parts.filterMap Part.name?) s a s' := by
  cases head with
  | comment =>
    obtain ⟨rfl, rfl⟩ := pure_ok.mp h
    obtain rfl : m₁ = m := hscope
    exact ⟨[], m₁, rfl, .of_flags hfree (hflags (by simp)), fun _ => .of_pure ..⟩
  | reference node =>
    obtain ⟨rfl, rfl⟩ := pure_ok.mp h
    obtain rfl : m₁ = m := hscope
    exact ⟨[], m₁, rfl, .of_flags hfree (hflags (by simp)), fun _ => .of_pure ..⟩
  | globalFlags =>
    exact globalFlags_reading hscope hfree h
  | capture name =>
    obtain rfl : m₁ = m.inside m.verbose m.verbose := hscope
    obtain ⟨group, s₁, hopen, h⟩ := bind_ok.mp h
    obtain ⟨hflags₁, hreading₁⟩ := openGroup_reading (m := m.inside m.verbose m.verbose) hopen
    obtain ⟨parts, hverbose, hflags', hreading⟩ := enclosed_reading
      (hin (m.inside m.verbose m.verbose)) (Nat.le_refl 2)
      (closes_capture start m m.verbose m.verbose group done) h
    have hnames : headNames (.capture name) = name.toList := by
      cases name <;> rfl
    rw [hnames]
    exact ⟨parts, m, hverbose, .of_flags hfree (hflags'.trans (hflags₁.trans (hflags (by simp)))),
      fun start' => hreading₁.bind (hreading start') (Nat.zero_le _) (Nat.le_refl _)⟩
  | switched on off =>
    obtain rfl : m₁ = m.inside ((m.verbose || on.verbose) && !off.verbose) m.verbose := hscope
    obtain ⟨parts, hverbose, hflags', hreading⟩ := enclosed_reading
      (hin (m.inside ((m.verbose || on.verbose) && !off.verbose) m.verbose)) (Nat.le_refl 2)
      (closes_pure start m _ m.verbose fun items => Node.switched on off (.ofItems items) :: done) h
    exact ⟨parts, m, hverbose, .of_flags hfree (hflags'.trans (hflags (by simp))), hreading⟩
  | atomic =>
    obtain rfl : m₁ = m.inside m.verbose m.verbose := hscope
    obtain ⟨parts, hverbose, hflags', hreading⟩ := enclosed_reading
      (hin (m.inside m.verbose m.verbose)) (Nat.le_refl 2)
      (closes_pure start m _ m.verbose fun items => Node.atomic (.ofItems items) :: done) h
    exact ⟨parts, m, hverbose, .of_flags hfree (hflags'.trans (hflags (by simp))), hreading⟩
  | ahead negated =>
    obtain rfl : m₁ = m.inside m.verbose m.verbose := hscope
    obtain ⟨parts, hverbose, hflags', hreading⟩ := enclosed_reading
      (hin (m.inside m.verbose m.verbose)) (Nat.le_refl 2)
      (closes_pure start m _ m.verbose fun items => Node.ahead negated (.ofItems items) :: done) h
    exact ⟨parts, m, hverbose, .of_flags hfree (hflags'.trans (hflags (by simp))), hreading⟩
  | behind negated =>
    obtain rfl : m₁ = m.inside m.verbose m.verbose := hscope
    obtain ⟨outer, s₁, henter, h⟩ := bind_ok.mp h
    obtain ⟨hflags₁, hreading₁⟩ :=
      enterLookbehind_reading (m := m.inside m.verbose m.verbose) henter
    obtain ⟨parts, hverbose, hflags', hreading⟩ := enclosed_reading
      (hin (m.inside m.verbose m.verbose)) (Nat.le_refl 2)
      (closes_behind start m m.verbose m.verbose outer negated done) h
    exact ⟨parts, m, hverbose, .of_flags hfree (hflags'.trans (hflags₁.trans (hflags (by simp)))),
      fun start' => hreading₁.bind (hreading start') (Nat.zero_le _) (Nat.le_refl _)⟩
  | condition group =>
    obtain rfl : m₁ = m.inside m.verbose m.verbose := hscope
    obtain ⟨parts, hverbose, hflags', hreading⟩ := enclosed_reading
      (branches_covers (hbranch (m.inside m.verbose m.verbose) rfl) group) (by omega)
      (closes_pure start m _ m.verbose fun node => node :: done) h
    exact ⟨parts, m, hverbose, .of_flags hfree (hflags'.trans (hflags (by simp))), hreading⟩

/-! ## Turns -/

/-- An item or a repetition, with its first token. -/
theorem itemOrLoop_reading {m : Scope} {done items : List Node} {start : Nat} {t : Token}
    {s s₁ s₂ : Source} (h : next s = .ok (some t, s₁)) (hopen : t ≠ .plain '(')
    (hclose : t ≠ .plain ')') (hremark : t = .plain '#' → m.verbose = false)
    (hitem : itemOrLoop done start t s₁ = .ok (items, s₂)) :
    ∃ parts, parts ≠ [] ∧ parts.filterMap Part.name? = [] ∧ s₂.flags = s.flags ∧
      ∀ start', Reading 0 (fun _ => next >>= fun _ => itemOrLoop done start' t) m parts m [] s
        items s₂ := by
  obtain ⟨v, hv, ⟨-, rfl, hkeeps₁⟩, again₁⟩ := next_local h
  by_cases hset : t = .plain '['
  · subst hset
    obtain ⟨u, hu, ⟨hkeeps₂, hbody⟩, -⟩ := itemOrLoop_set done start start hitem
    have hrest : s.rest = .plain '[' :: u ++ s₂.rest := by
      rw [hv, hu]
      rfl
    refine ⟨[.bracket u], by simp, rfl, hkeeps₂.flags.trans hkeeps₁.flags, fun start' => ?_⟩
    obtain ⟨u', hu', -, again₂⟩ := itemOrLoop_set done start start' hitem
    obtain rfl := List.append_cancel_right (hu.symm.trans hu')
    exact .of_again hrest (hkeeps₁.trans hkeeps₂).without_flags (.cut (.bracket s₂.rest hbody))
      (by simp [Part.Spoken]) (by simp) (again₁.bind hu again₂)
  · obtain ⟨u, hu, ⟨hquiet, hkeeps₂⟩, -⟩ := itemOrLoop_tame done start start hset hitem
    have hrest : s.rest = t :: u ++ s₂.rest := by
      rw [hv, hu]
      rfl
    refine ⟨(t :: u).map .token, by simp, name?_tokens _, hkeeps₂.flags.trans hkeeps₁.flags,
      fun start' => ?_⟩
    obtain ⟨u', hu', -, again₂⟩ := itemOrLoop_tame done start start' hset hitem
    obtain rfl := List.append_cancel_right (hu.symm.trans hu')
    have hfirst : Cut m (.token t) m (u ++ s₂.rest) := .token _ hopen hclose hset hremark
    exact .of_again hrest (hkeeps₁.trans hkeeps₂).without_flags
      (.cons_cut hfirst (lays_quiet hquiet m s₂.rest)) (spoken_tokens _) (long_tokens _)
      (again₁.bind hu again₂)

/-- A turn reads one part or more. -/
theorem turn_reading {inside : Bool → Read (List Node)} {branch : Read (List Node)}
    (inside' : Nat → Bool → Read (List Node)) (branch' : Nat → Read (List Node)) {m : Scope}
    {first : Bool} {done : List Node} {start : Nat} {t : Token} {s s₁ s₂ : Source}
    {a : Bool × List Node}
    (hin : ∀ m' : Scope, Covers 2 m' (inside m'.verbose) (fun n => inside' n m'.verbose))
    (hbranch : ∀ m' : Scope, m'.verbose = m.verbose → Covers 1 m' branch branch')
    (hfree : first = true → m.verbose = s.flags.verbose)
    (h : next s = .ok (some t, s₁)) (hclose : t ≠ .plain ')')
    (hturn : turn inside branch m.verbose first done start t s₁ = .ok (a, s₂)) :
    ∃ parts m', parts ≠ [] ∧ a.1 = m'.verbose ∧ Settles first m m' s s₂ ∧ ∀ start', Reading
      (2 * parts.length)
      (fun n => next >>= fun _ => turn (inside' n) (branch' n) m.verbose first done start' t)
      m parts m' (parts.filterMap Part.name?) s a s₂ := by
  by_cases hopen : t = .plain '('
  · subst hopen
    rw [turn_group] at hturn
    obtain ⟨head, s₃, hhead, hafter⟩ := bind_ok.mp hturn
    obtain ⟨parts₁, m₁, hne, hnames, hscope, hflags, hreading₁⟩ := head_reading (m := m) h hhead
    obtain ⟨parts₂, m₂, hverbose, hsettles, hreading₂⟩ :=
      afterHead_reading hin hbranch hscope hfree hflags hafter
    refine ⟨parts₁ ++ parts₂, m₂, by simp [hne], hverbose, hsettles, fun start' => ?_⟩
    have hlength : 2 * parts₂.length ≤ 2 * (parts₁ ++ parts₂).length := by
      rw [List.length_append]
      omega
    have hall := (hreading₁ start').bind
      (g := fun head n => afterHead (inside' n) (branch' n) m.verbose first done start' head)
      (hreading₂ start') (Nat.zero_le _) hlength
    rw [List.filterMap_append, hnames]
    simpa only [turn_group, bind_assoc, List.nil_append] using hall
  by_cases hblank : m.verbose = true ∧ t.isPlain isVerboseBlank = true
  · obtain ⟨hv, hblank⟩ := hblank
    rw [hv] at hturn ⊢
    rw [turn_blank inside branch first done start hblank] at hturn
    obtain ⟨rfl, rfl⟩ := pure_ok.mp hturn
    have hflags := (next_ok h).2.keeps.flags
    refine ⟨[.token t], m, by simp, hv.symm, .of_flags hfree hflags, fun start' => ?_⟩
    have hread := (next_reading h (cut_blank hblank m s₂.rest)).map fun _ => (true, done)
    change Reading _ _ m [.token t] m [] s _ s₂
    simpa only [turn_blank _ _ first done start' hblank] using hread.mono (Nat.zero_le _)
  by_cases hremark : m.verbose = true ∧ t = .plain '#'
  · obtain ⟨hv, rfl⟩ := hremark
    rw [hv] at hturn ⊢
    rw [turn_remark] at hturn
    obtain ⟨text, s₃, hupTo, hturn⟩ := bind_ok.mp hturn
    obtain ⟨rfl, rfl⟩ := pure_ok.mp hturn
    have hflags := ((next_ok h).2.trans (upTo_ok hupTo).1).keeps.flags
    obtain ⟨parts, hne, hnames, hreading⟩ := remark_reading hv h hupTo (true, done)
    refine ⟨parts, m, hne, hv.symm, .of_flags hfree hflags, fun start' => ?_⟩
    rw [hnames]
    simpa only [turn_remark] using hreading.mono (Nat.zero_le _)
  · have hskip : m.verbose = true → t.isPlain isVerboseBlank = false ∧ t ≠ .plain '#' :=
      fun hv => ⟨by simpa using fun hb => hblank ⟨hv, hb⟩, fun ht => hremark ⟨hv, ht⟩⟩
    rw [turn_item inside branch first done start hopen hskip] at hturn
    obtain ⟨items, s₃, hitem, hturn⟩ := bind_ok.mp hturn
    obtain ⟨rfl, rfl⟩ := pure_ok.mp hturn
    have hsharp : t = .plain '#' → m.verbose = false :=
      fun ht => by simpa using fun hv => (hskip hv).2 ht
    obtain ⟨parts, hne, hnames, hflags, hreading⟩ :=
      itemOrLoop_reading h hopen hclose hsharp hitem
    refine ⟨parts, m, hne, rfl, .of_flags hfree hflags, fun start' => ?_⟩
    have hread := (hreading start').map fun items => (m.verbose, items)
    rw [hnames]
    simpa only [turn_item _ _ first done start' hopen hskip, bind_assoc]
      using hread.mono (Nat.zero_le _)

end Read

end Linting.Regex
