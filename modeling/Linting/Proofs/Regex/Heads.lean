import Linting.Proofs.Regex.Items

/-! Heads of groups are read locally. What a head says about its group goes with the tokens it is
written with: a name with the opener of a named group, flags with their letters. -/

namespace Linting.Regex
set_option autoImplicit false

namespace Read

/-! ## Names and numbers of groups -/

theorem groupName_local (terminator : Char) :
    Local (fun s a u s' => s.Keeps s' ∧ Unicode.isIdentifier a.toList = true ∧
        u = a.toList.map .plain ++ [.plain terminator])
      (groupName terminator) (groupName terminator) := by
  refine Local.bind (name_local terminator "group name") ?_
  intro s text u s₁ hfits
  obtain ⟨hkeeps, w, htext, rfl, -⟩ := hfits
  refine Local.ite (fun hid => Local.of_pure ?_) fun _ => Local.fail_bind ..
  · rintro _ rfl
    have hw := Unicode.isIdentifier_quiet hid
    rw [htext] at hw
    refine ⟨hkeeps, hid, ?_⟩
    rw [List.append_nil, htext, ← eq_map_plain_of_quiet hw]

theorem lookup_isSome {conditions : List (Nat × Nat)} {group : Nat} :
    (conditions.lookup group).isSome = (conditions.map Prod.fst).contains group := by
  induction conditions with
  | nil => rfl
  | cons c rest ih =>
    obtain ⟨g, place⟩ := c
    rw [List.lookup_cons, List.map_cons, List.contains_cons]
    cases hg : group == g with
    | true => rfl
    | false => exact ih

/-- Notes where a group number is used as a condition. -/
theorem conditionNumber_local (text : String) :
    Local (fun s _ u s' => s.Keeps s' ∧ u = [] ∧ ∀ c ∈ text.toList, QuietChar c)
      (conditionNumber text) (conditionNumber text) := by
  unfold conditionNumber
  split
  · exact Local.of_fail ..
  · next group hgroup =>
    have hquiet := Text.readInteger?_quiet hgroup
    refine Local.ite (fun _ => Local.fail_bind ..) fun _ => ?_
    refine Local.bind (Local.of_modify ?_ ?_) ?_
    · intro s
      split <;> rfl
    · intro s t hlike
      have hsome : (t.conditions.lookup (group + 1)).isSome =
          (s.conditions.lookup (group + 1)).isSome := by
        rw [lookup_isSome, lookup_isSome, hlike.conditions]
      rw [hsome]
      split
      · exact hlike
      · refine ⟨hlike.lone, hlike.flags, hlike.names, hlike.widths, hlike.lookbehind, ?_⟩
        rw [List.map_append, List.map_append, hlike.conditions]
        rfl
    · intro s a u s₁ hfits
      obtain ⟨rfl, rfl⟩ := hfits
      refine Local.of_pure ?_
      rintro _ rfl
      refine ⟨?_, rfl, hquiet⟩
      split
      · exact .refl s
      · exact ⟨rfl, rfl, rfl, id⟩
  · exact Local.of_fail ..

theorem namedOrNumbered_local (text : String) :
    Local (fun s _ u s' => s.Keeps s' ∧ u = [] ∧ ∀ c ∈ text.toList, QuietChar c)
      (namedOrNumbered text) (namedOrNumbered text) := by
  refine Local.ite (fun hid => ?_) fun _ => conditionNumber_local text
  refine Local.of_get fun s t hlike => ?_
  rw [hlike.names]
  cases s.names.lookup text with
  | none => exact Local.of_fail ..
  | some group => exact Local.of_pure fun s => ⟨.refl s, rfl, Unicode.isIdentifier_quiet hid⟩

/-- A condition is a quiet stretch up to the parenthesis that closes it. -/
theorem conditionGroup_local :
    Local (fun s _ u s' => s.Keeps s' ∧
        ∃ w, u = w ++ [.plain ')'] ∧ ∀ t ∈ w, t.Quiet ∧ t ≠ .plain '?')
      conditionGroup conditionGroup := by
  refine Local.bind (name_local ')' "group name") ?_
  intro s text u s₁ hfits
  obtain ⟨hkeeps, w, htext, rfl, -⟩ := hfits
  refine Local.bind (namedOrNumbered_local text) ?_
  intro s₂ group v s₃ hfits
  obtain ⟨hkeeps', rfl, hquiet⟩ := hfits
  rw [htext] at hquiet
  refine Local.bind (checkLookbehind_local group) ?_
  intro s₄ _ x s₅ hfits
  obtain ⟨rfl, rfl⟩ := hfits
  refine Local.of_pure ?_
  rintro _ rfl rfl rfl
  exact ⟨hkeeps.trans hkeeps', w, by simp, quiet_of_text hquiet⟩

/-! ## Inline flags -/

theorem withNext_local (ending : Cause) (flags : Flags) :
    Local (fun s a u s' => s.Keeps s' ∧ u = [a.2] ∧ a.1 = flags)
      (withNext ending flags) (withNext ending flags) := by
  refine Local.bind next_local ?_
  intro s a u s₁ hfits
  obtain ⟨-, rfl, hkeeps⟩ := hfits
  cases a with
  | none => exact Local.of_fail ..
  | some b =>
    refine Local.of_pure ?_
    rintro _ rfl
    exact ⟨hkeeps, rfl, rfl⟩

/-- What adding the flag of a letter to others does: the letter has a flag, and the token behind it
is read. -/
def AddsFlag (add : Token → Flags → Read (Flags × Token)) : Prop :=
  ∀ t flags, Local (fun s a u s' => s.Keeps s' ∧ u = [a.2] ∧
      ∃ flag, t.char?.bind inlineFlag? = some flag ∧ a.1 = flags.union flag)
    (add t flags) (add t flags)

theorem addFlag_adds : AddsFlag addFlag := by
  intro t on
  refine Local.ite (fun _ => Local.fail_bind ..) fun _ => ?_
  cases hflag : t.char?.bind inlineFlag? with
  | none => exact Local.of_fail ..
  | some flag =>
    refine Local.ite (fun _ => Local.fail_bind ..) fun _ => ?_
    refine (withNext_local .missingFlagsEnd (on.union flag)).mono ?_
    rintro s a u s' - ⟨hkeeps, hu, ha⟩
    exact ⟨hkeeps, hu, flag, rfl, ha⟩

theorem dropFlag_adds : AddsFlag dropFlag := by
  intro t off
  refine Local.ite (fun _ => Local.fail_bind ..) fun _ => ?_
  cases hflag : t.char?.bind inlineFlag? with
  | none => exact Local.of_fail ..
  | some flag =>
    refine Local.ite (fun _ => Local.fail_bind ..) fun _ => ?_
    refine (withNext_local .missingColon (off.union flag)).mono ?_
    rintro s a u s' - ⟨hkeeps, hu, ha⟩
    exact ⟨hkeeps, hu, flag, rfl, ha⟩

/-- The flags that letters stand for, added to others. -/
def withLetters (flags : Flags) (w : List Token) : Flags :=
  (w.filterMap fun t => t.char?.bind inlineFlag?).foldl Flags.union flags

theorem withLetters_cons {t : Token} {flag : Flags} (h : t.char?.bind inlineFlag? = some flag)
    (flags : Flags) (w : List Token) :
    withLetters flags (t :: w) = withLetters (flags.union flag) w := by
  simp only [withLetters, List.filterMap_cons, h, List.foldl_cons]

/-- Letters of flags and what they turn on. -/
def Letters (w : List Token) (flags : Flags) : Prop :=
  (∀ t ∈ w, (t.char?.bind inlineFlag?).isSome) ∧ flags = withLetters .none w

/-- A switch is on where it was on before or its letter is there. -/
theorem withLetters_switch {switch : Flags → Bool} {letter : Char}
    (hunion : ∀ a b, switch (a.union b) = (switch a || switch b))
    (hletter : ∀ c flag, inlineFlag? c = some flag → switch flag = (letter == c)) {w : List Token}
    (hw : ∀ t ∈ w, (t.char?.bind inlineFlag?).isSome) (flags : Flags) :
    switch (withLetters flags w) = (switch flags || w.contains (.plain letter)) := by
  induction w generalizing flags with
  | nil => exact (Bool.or_false _).symm
  | cons t w ih =>
    obtain ⟨ht, hw⟩ := List.forall_mem_cons.mp hw
    obtain ⟨flag, hflag⟩ := Option.isSome_iff_exists.mp ht
    have hhead : switch flag = (Token.plain letter == t) := by
      cases t with
      | escaped c => cases hflag
      | plain c =>
        rw [hletter c flag hflag, Bool.eq_iff_iff, beq_iff_eq, beq_iff_eq]
        exact ⟨congrArg _, Token.plain.inj⟩
    rw [withLetters_cons hflag, ih hw, hunion, hhead, List.contains_cons, Bool.or_assoc]

theorem Letters.switch {switch : Flags → Bool} {letter : Char}
    (hunion : ∀ a b, switch (a.union b) = (switch a || switch b))
    (hletter : ∀ c flag, inlineFlag? c = some flag → switch flag = (letter == c))
    (hnone : switch .none = false) {w : List Token} {flags : Flags} (h : Letters w flags) :
    switch flags = w.contains (.plain letter) := by
  rw [h.2, withLetters_switch hunion hletter h.1, hnone, Bool.false_or]

/-- A letter turns on the verbose mode, an alphabet or something else. -/
theorem inlineFlag?_switches (c : Char) (flag : Flags) (h : inlineFlag? c = some flag) :
    flag.verbose = ('x' == c) ∧ flag.ascii = ('a' == c) ∧ flag.unicode = ('u' == c) := by
  unfold inlineFlag? at h
  split at h
  all_goals cases h
  all_goals exact ⟨rfl, rfl, rfl⟩

theorem Letters.verbose {w : List Token} {flags : Flags} (h : Letters w flags) :
    flags.verbose = w.contains (.plain 'x') :=
  h.switch (fun _ _ => rfl) (fun c flag hc => (inlineFlag?_switches c flag hc).1) rfl

/-- A loop over flags reads letters up to a token that ends them. It reads them again under every
bound that lets each token be a letter. -/
theorem flagLoop_ok {add : Token → Flags → Read (Flags × Token)} (hadd : AddsFlag add)
    {ends : Token → Bool} {ending : Cause} {bound : Nat} {t stop : Token} {flags flags' : Flags}
    {s s' : Source} (h : flagLoop add ends ending bound t flags s = .ok ((flags', stop), s')) :
    ∃ u w, s.rest = u ++ s'.rest ∧ t :: u = w ++ [stop] ∧ s.Keeps s' ∧ ends stop = true ∧
      (∀ a ∈ w, (a.char?.bind inlineFlag?).isSome) ∧ flags' = withLetters flags w ∧
      ∀ ⦃bound' : Nat⦄ ⦃t' : Source⦄ ⦃r : List Token⦄, u.length ≤ bound' → s.Like t' →
        t'.rest = u ++ r → Agree s'.rest r →
        ∃ t'', flagLoop add ends ending bound' t flags t' = .ok ((flags', stop), t'') ∧
          t''.rest = r ∧ s'.Like t'' := by
  induction bound generalizing t flags s with
  | zero => exact (fail_ne_ok _ _ _ _ h).elim
  | succ bound ih =>
    obtain ⟨⟨more, b⟩, s₁, hmore, h⟩ := bind_ok.mp h
    obtain ⟨v, hv, ⟨hkeeps, rfl, flag, hflag, rfl⟩, again₁⟩ := hadd t flags hmore
    by_cases hends : ends b = true
    · dsimp only at h
      rw [if_pos hends] at h
      obtain ⟨heq, rfl⟩ := pure_ok.mp h
      cases heq
      refine ⟨[stop], [t], hv, rfl, hkeeps, hends, ?_, ?_, ?_⟩
      · simp [hflag]
      · exact (withLetters_cons hflag flags []).symm
      · intro bound' t' r hbound hlike hrest hagree
        obtain ⟨k, rfl⟩ : ∃ k, bound' = k + 1 := ⟨bound' - 1, by simp at hbound; omega⟩
        obtain ⟨t'', ht'', hr, hlike'⟩ := again₁ hlike hrest hagree
        refine ⟨t'', bind_ok.mpr ⟨_, t'', ht'', ?_⟩, hr, hlike'⟩
        dsimp only
        rw [if_pos hends]
        rfl
    · dsimp only at h
      rw [if_neg hends] at h
      obtain ⟨u, w, hu, hw, hkeeps', hstop, hletters, hon, again₂⟩ := ih h
      refine ⟨b :: u, t :: w, by rw [hv, hu]; rfl, by rw [hw]; rfl, hkeeps.trans hkeeps', hstop,
        ?_, ?_, ?_⟩
      · exact List.forall_mem_cons.mpr ⟨by rw [hflag]; rfl, hletters⟩
      · rw [hon, withLetters_cons hflag]
      · intro bound' t' r hbound hlike hrest hagree
        obtain ⟨k, rfl⟩ : ∃ k, bound' = k + 1 := ⟨bound' - 1, by simp at hbound; omega⟩
        have hmid : Agree s₁.rest (u ++ r) := by
          rw [hu]
          exact hagree.append u
        obtain ⟨t₁, ht₁, hr₁, hlike₁⟩ := again₁ hlike hrest hmid
        obtain ⟨t'', ht'', hr, hlike'⟩ := again₂ (Nat.le_of_succ_le_succ hbound) hlike₁ hr₁ hagree
        refine ⟨t'', bind_ok.mpr ⟨_, t₁, ht₁, ?_⟩, hr, hlike'⟩
        dsimp only
        rw [if_neg hends]
        exact ht''

theorem flagRun_local {add : Token → Flags → Read (Flags × Token)} (hadd : AddsFlag add)
    (ends : Token → Bool) (ending : Cause) (t : Token) :
    Local (fun s a u s' => s.Keeps s' ∧ ends a.2 = true ∧
        ∃ w, t :: u = w ++ [a.2] ∧ Letters w a.1)
      (flagRun add ends ending t) (flagRun add ends ending t) := by
  intro s a s' h
  rw [flagRun, get_bind] at h
  obtain ⟨u, w, hu, hw, hkeeps, hstop, hletters, hon, again⟩ := flagLoop_ok hadd h
  refine ⟨u, hu, ⟨hkeeps, hstop, w, hw, hletters, hon⟩, ?_⟩
  intro t' r hlike hrest hagree
  have hbound : u.length ≤ t'.rest.length + 1 := by
    rw [hrest, List.length_append]
    omega
  exact again hbound hlike hrest hagree

theorem flagsOn_local (t : Token) :
    Local (fun s a u s' => s.Keeps s' ∧ endsFlags a.2 = true ∧
        ∃ w, t :: u = w ++ [a.2] ∧ Letters w a.1)
      (flagsOn t) (flagsOn t) := by
  refine Local.ite (fun ht => Local.of_pure fun s => ?_) fun _ =>
    flagRun_local addFlag_adds _ _ t
  exact ⟨.refl s, by rw [ht]; rfl, [], rfl, by simp, rfl⟩

theorem flagsOff_local (stop : Token) :
    Local (fun s a u s' => s.Keeps s' ∧
        if stop = .plain '-' then ∃ w, u = w ++ [.plain ':'] ∧ Letters w a
        else u = [] ∧ a = .none)
      (flagsOff stop) (flagsOff stop) := by
  refine Local.ite (fun hstop => Local.of_pure fun s => ?_) fun hstop => ?_
  · rw [if_neg hstop]
    exact ⟨.refl s, rfl, rfl⟩
  rw [Decidable.not_not] at hstop
  refine Local.bind next_local ?_
  intro s o u s₁ hfits
  obtain ⟨-, rfl, hkeeps⟩ := hfits
  cases o with
  | none => exact Local.of_fail ..
  | some t =>
    refine Local.bind (flagRun_local dropFlag_adds _ _ t) ?_
    rintro s₂ ⟨flags, last⟩ v s₃ ⟨hkeeps', hlast, w, hw, hletters⟩
    refine Local.of_pure ?_
    rintro _ rfl rfl
    rw [decide_eq_true_eq] at hlast
    rw [if_pos hstop]
    refine ⟨hkeeps.trans hkeeps', w, ?_, hletters⟩
    rw [List.append_nil, ← hlast, ← hw]
    rfl

/-! ## Heads -/

/-- What has been read of a group between its parenthesis and its inside, for each kind of head. -/
inductive HeadRead (s s' : Source) : GroupHead → List Token → Prop where
  | group (hkeeps : s.Keeps s') (h : s.rest.head? ≠ some (.plain '?')) :
    HeadRead s s' (.capture none) []
  | named {name : String} (hkeeps : s.Keeps s')
    (h : Unicode.isIdentifier name.toList = true) :
    HeadRead s s' (.capture (some name))
      (.plain '?' :: .plain 'P' :: .plain '<' :: (name.toList.map .plain ++ [.plain '>']))
  | reference {node : Node} {w : List Token} (hkeeps : s.Keeps s') (h : ∀ t ∈ w, t.Quiet) :
    HeadRead s s' (.reference node)
      (.plain '?' :: .plain 'P' :: .plain '=' :: (w ++ [.plain ')']))
  | comment {body : List Token} (hkeeps : s.Keeps s') (h : .plain ')' ∉ body) :
    HeadRead s s' .comment (.plain '?' :: .plain '#' :: (body ++ [.plain ')']))
  | condition {group : Nat} {w : List Token} (hkeeps : s.Keeps s')
    (h : ∀ t ∈ w, t.Quiet ∧ t ≠ .plain '?') :
    HeadRead s s' (.condition group) (.plain '?' :: .plain '(' :: (w ++ [.plain ')']))
  | ahead {negated : Bool} (hkeeps : s.Keeps s') :
    HeadRead s s' (.ahead negated) [.plain '?', .plain (if negated then '!' else '=')]
  | behind {negated : Bool} (hkeeps : s.Keeps s') :
    HeadRead s s' (.behind negated)
      [.plain '?', .plain '<', .plain (if negated then '!' else '=')]
  | atomic (hkeeps : s.Keeps s') : HeadRead s s' .atomic [.plain '?', .plain '>']
  | switched {on off : Flags} {w : List Token} (hkeeps : s.Keeps s')
    (hflags : ∀ t ∈ w, isFlagToken t = true)
    (hverbose : ∀ v, verboseAfter v w = ((v || on.verbose) && !off.verbose)) :
    HeadRead s s' (.switched on off) (.plain '?' :: (w ++ [.plain ':']))
  | globalFlags {on : Flags} {w : List Token} (hkeeps : s.Keeps { s' with flags := s.flags })
    (hletters : Letters w on) (hflags : s'.flags = s.flags.union on) :
    HeadRead s s' .globalFlags (.plain '?' :: (w ++ [.plain ')']))

theorem Letters.isFlagToken {w : List Token} {flags : Flags} (h : Letters w flags) :
    ∀ t ∈ w, isFlagToken t = true ∧ t ≠ .plain '-' := by
  intro t ht
  have hsome := h.1 t ht
  cases t with
  | escaped c => cases hsome
  | plain c =>
    change (inlineFlag? c).isSome = true at hsome
    refine ⟨?_, ?_⟩
    · change (decide (c = '-') || (inlineFlag? c).isSome) = true
      rw [hsome, Bool.or_true]
    · intro heq
      rw [Token.plain.inj heq] at hsome
      cases hsome

/-- The verbose mode behind letters. -/
theorem verboseAfter_letters {w : List Token} {on : Flags} (h : Letters w on) (v : Bool) :
    verboseAfter v w = (v || on.verbose) := by
  have hstretch : (w ++ []).takeWhile (· != Token.plain '-') = w ∧
      (w ++ []).dropWhile (· != Token.plain '-') = [] :=
    takeWhile_ne_stretch (fun hmem => (h.isFlagToken _ hmem).2 rfl) (fun t ht => by cases ht)
  rw [List.append_nil] at hstretch
  unfold verboseAfter
  dsimp only
  rw [hstretch.1, hstretch.2, h.verbose]
  exact Bool.and_true _

/-- The verbose mode behind letters, a hyphen and letters. -/
theorem verboseAfter_hyphen {w w' : List Token} {on off : Flags} (h : Letters w on)
    (h' : Letters w' off) (v : Bool) :
    verboseAfter v (w ++ .plain '-' :: w') = ((v || on.verbose) && !off.verbose) := by
  have hstretch : (w ++ .plain '-' :: w').takeWhile (· != Token.plain '-') = w ∧
      (w ++ .plain '-' :: w').dropWhile (· != Token.plain '-') = .plain '-' :: w' :=
    takeWhile_ne_stretch (fun hmem => (h.isFlagToken _ hmem).2 rfl)
      (fun t ht => (Option.some.inj ht).symm)
  unfold verboseAfter
  dsimp only
  rw [hstretch.1, hstretch.2, h.verbose, h'.verbose]
  rfl

theorem flagsHead_local (t : Token) :
    Local (fun s head u s' => HeadRead s s' head (.plain '?' :: t :: u))
      (flagsHead t) (flagsHead t) := by
  refine Local.bind (flagsOn_local t) ?_
  rintro s ⟨on, stop⟩ u s₁ ⟨hkeeps, hends, w, hw, hletters⟩
  refine Local.ite (fun hclose => ?_) fun hclose => ?_
  · refine Local.bind (Local.of_modify (fun _ => rfl) ?_) ?_
    · intro s t hlike
      exact ⟨hlike.lone, by rw [hlike.flags], hlike.names, hlike.widths, hlike.lookbehind,
        hlike.conditions⟩
    · intro s₂ _ v s₃ hfits
      obtain ⟨rfl, rfl⟩ := hfits
      refine Local.of_pure ?_
      rintro _ rfl rfl
      rw [List.append_nil, List.append_nil, hw, hclose]
      refine .globalFlags ⟨hkeeps.lone, rfl, hkeeps.names, hkeeps.open_ended⟩ hletters ?_
      rw [hkeeps.flags]
  · refine Local.ite (fun _ => Local.fail_bind ..) fun _ => ?_
    refine Local.bind (flagsOff_local stop) ?_
    intro s₂ off v s₃ hfits
    obtain ⟨hkeeps', hoff⟩ := hfits
    refine Local.ite (fun _ => Local.fail_bind ..) fun _ => ?_
    refine Local.ite (fun _ => Local.fail_bind ..) fun _ => ?_
    refine Local.of_pure ?_
    rintro _ rfl rfl
    have hkeeps := hkeeps.trans hkeeps'
    by_cases hyphen : stop = .plain '-'
    · rw [if_pos hyphen] at hoff
      obtain ⟨w', rfl, hletters'⟩ := hoff
      have htext : t :: (u ++ (w' ++ [.plain ':'] ++ [])) =
          (w ++ .plain '-' :: w') ++ [.plain ':'] := by
        rw [← List.cons_append, hw, hyphen]
        simp
      rw [htext]
      refine .switched hkeeps ?_ (verboseAfter_hyphen hletters hletters')
      intro a ha
      rcases List.mem_append.mp ha with ha | ha
      · exact (hletters.isFlagToken a ha).1
      · rcases List.mem_cons.mp ha with rfl | ha
        · rfl
        · exact (hletters'.isFlagToken a ha).1
    · rw [if_neg hyphen] at hoff
      obtain ⟨rfl, rfl⟩ := hoff
      have hstop : stop = .plain ':' := by
        simpa [endsFlags, hclose, hyphen] using hends
      rw [List.append_nil, List.append_nil, hw, hstop]
      refine .switched hkeeps (fun a ha => (hletters.isFlagToken a ha).1) ?_
      intro v
      rw [verboseAfter_letters hletters]
      exact (Bool.and_true _).symm

/-- A head that is more than the parenthesis, read from further left where nothing has changed. -/
theorem HeadRead.of_keeps {s s₁ s' : Source} {head : GroupHead} {u : List Token} {t : Token}
    (hkeeps : s.Keeps s₁) (h : HeadRead s₁ s' head (t :: u)) : HeadRead s s' head (t :: u) := by
  cases h with
  | named h hid => exact .named (hkeeps.trans h) hid
  | reference h hw => exact .reference (hkeeps.trans h) hw
  | comment h hbody => exact .comment (hkeeps.trans h) hbody
  | condition h hw => exact .condition (hkeeps.trans h) hw
  | ahead h => exact .ahead (hkeeps.trans h)
  | behind h => exact .behind (hkeeps.trans h)
  | atomic h => exact .atomic (hkeeps.trans h)
  | switched h hflags hverbose => exact .switched (hkeeps.trans h) hflags hverbose
  | globalFlags h hletters hflags =>
    rw [hkeeps.flags] at hflags
    refine .globalFlags ⟨?_, rfl, ?_, ?_⟩ hletters hflags
    · exact h.lone.trans hkeeps.lone
    · exact h.names.trans hkeeps.names
    · exact fun ho => h.open_ended (hkeeps.open_ended ho)

theorem namedHead_local :
    Local (fun s head u s' => HeadRead s s' head (.plain '?' :: .plain 'P' :: u))
      namedHead namedHead := by
  refine Local.bind (skip_local '<') ?_
  intro s opened u s₁ hfits
  obtain ⟨rfl, hkeeps, -⟩ := hfits
  cases opened with
  | true =>
    refine Local.bind (groupName_local '>') ?_
    intro s₂ name v s₃ hfits
    obtain ⟨hkeeps', hid, rfl⟩ := hfits
    refine Local.of_pure ?_
    rintro _ rfl rfl
    rw [List.append_nil]
    exact .named (hkeeps.trans hkeeps') hid
  | false =>
    refine Local.bind (skip_local '=') ?_
    intro s₂ equals v s₃ hfits
    obtain ⟨rfl, hkeeps', -⟩ := hfits
    cases equals with
    | true =>
      refine Local.bind (groupName_local ')') ?_
      intro s₄ name w s₅ hfits
      obtain ⟨hkeeps'', hid, rfl⟩ := hfits
      have hquiet : ∀ t ∈ name.toList.map Token.plain, t.Quiet := by
        intro t ht
        obtain ⟨c, hc, rfl⟩ := List.mem_map.mp ht
        exact (Unicode.isIdentifier_quiet hid c hc).1
      refine Local.of_get fun s₆ t hlike => ?_
      rw [hlike.names]
      cases s₆.names.lookup name with
      | none => exact Local.of_fail ..
      | some group =>
        refine Local.bind (reference_local group (name.length + 1)) ?_
        intro s₇ node x s₈ hfits
        obtain ⟨rfl, rfl⟩ := hfits
        refine Local.of_pure ?_
        rintro _ rfl rfl rfl rfl
        rw [List.append_nil, List.append_nil]
        exact .reference ((hkeeps.trans hkeeps').trans hkeeps'') hquiet
    | false =>
      refine Local.bind next_local ?_
      rintro s₄ t w s₅ -
      cases t with
      | none => exact Local.of_fail ..
      | some t => exact Local.of_fail ..

theorem behindHead_local :
    Local (fun s head u s' => HeadRead s s' head (.plain '?' :: .plain '<' :: u))
      behindHead behindHead := by
  refine Local.bind next_local ?_
  intro s t u s₁ hfits
  obtain ⟨-, rfl, hkeeps⟩ := hfits
  cases t with
  | none => exact Local.of_fail ..
  | some t =>
    refine Local.ite (fun ht => Local.of_pure ?_) fun _ => ?_
    · rintro _ rfl
      rw [ht]
      exact .behind hkeeps
    · refine Local.ite (fun ht => Local.of_pure ?_) fun _ => Local.of_fail ..
      rintro _ rfl
      rw [ht]
      exact .behind hkeeps

theorem commentHead_local (start start' : Nat) :
    Local (fun s head u s' => HeadRead s s' head (.plain '?' :: .plain '#' :: u))
      (upTo ')' >>= fun text => if text.isNone
        then failAt .unterminatedComment start >>= fun _ : Unit => pure .comment
        else pure .comment)
      (upTo ')' >>= fun text => if text.isNone
        then failAt .unterminatedComment start' >>= fun _ : Unit => pure .comment
        else pure .comment) := by
  intro s head s' h
  obtain ⟨text, s₁, hupTo, h⟩ := bind_ok.mp h
  obtain ⟨hmoved, ⟨rfl, -⟩ | ⟨w, rfl, hrest, hw⟩⟩ := upTo_ok hupTo
  · obtain ⟨_, _, hfail, -⟩ := bind_ok.mp h
    exact (failAt_ne_ok _ _ _ _ hfail).elim
  · obtain ⟨rfl, rfl⟩ := pure_ok.mp h
    refine ⟨w ++ [.plain ')'], by rw [hrest]; simp, .comment hmoved.keeps hw, ?_⟩
    intro t r hlike hrest' hagree
    rw [List.append_assoc] at hrest'
    have hlone := hmoved.keeps.lone_of_agree (by simp [hrest]) hlike hagree
    obtain ⟨q, hq⟩ := upTo_again hw hrest' hlone
    exact ⟨_, bind_ok.mpr ⟨_, _, hq, rfl⟩, rfl, hmoved.like hlike r q⟩

theorem groupHead_local (start start' : Nat) :
    Local (fun s head u s' => HeadRead s s' head u) (groupHead start) (groupHead start') := by
  refine Local.bind (skip_local '?') ?_
  intro s question u s₁ hfits
  obtain ⟨rfl, hkeeps, hhead⟩ := hfits
  cases question with
  | false =>
    refine Local.of_pure ?_
    rintro _ rfl
    exact .group hkeeps fun h => Bool.noConfusion (hhead.mpr h)
  | true =>
    refine Local.bind next_local ?_
    intro s₂ t v s₃ hfits
    obtain ⟨-, rfl, hkeeps'⟩ := hfits
    cases t with
    | none => exact Local.of_fail ..
    | some t =>
      have hlift : ∀ {f g : Read GroupHead},
          Local (fun s₄ head v s' => HeadRead s₄ s' head (.plain '?' :: t :: v)) f g →
          Local (fun s₄ head v s' => s₄ = s₃ → s₂ = s₁ →
            HeadRead s s' head ([.plain '?'] ++ ([t] ++ v))) f g := by
        intro f g h
        refine h.mono ?_
        rintro s₄ head v s' - hread rfl rfl
        exact hread.of_keeps (hkeeps.trans hkeeps')
      refine hlift ?_
      cases t with
      | escaped c => exact Local.of_fail ..
      | plain c =>
        dsimp only [Token.char?]
        split
        · next heq =>
          cases heq
          exact namedHead_local
        · next heq =>
          cases heq
          refine Local.of_pure fun s => .switched (w := []) (.refl s) (by simp) ?_
          intro v
          cases v <;> rfl
        · next heq =>
          cases heq
          exact commentHead_local start start'
        · next heq =>
          cases heq
          exact Local.of_pure fun s => .ahead (.refl s)
        · next heq =>
          cases heq
          exact Local.of_pure fun s => .ahead (.refl s)
        · next heq =>
          cases heq
          exact behindHead_local
        · next heq =>
          cases heq
          refine Local.bind conditionGroup_local ?_
          intro s₄ group v s₅ hfits
          obtain ⟨hkeeps, w, rfl, hw⟩ := hfits
          refine Local.of_pure ?_
          rintro _ rfl
          rw [List.append_nil]
          exact .condition hkeeps hw
        · next heq =>
          cases heq
          exact Local.of_pure fun s => .atomic (.refl s)
        · next heq =>
          cases heq
          exact Local.ite (fun _ => flagsHead_local (.plain c)) fun _ => Local.of_fail ..
        · next heq => cases heq

theorem HeadRead.keeps {s s' : Source} {head : GroupHead} {u : List Token}
    (h : HeadRead s s' head u) :
    s.Keeps { s' with flags := s.flags } ∧ (head ≠ .globalFlags → s'.flags = s.flags) := by
  cases h with
  | globalFlags hkeeps hletters hflags => exact ⟨hkeeps, fun hne => absurd rfl hne⟩
  | group hkeeps h => exact ⟨hkeeps.without_flags, fun _ => hkeeps.flags⟩
  | named hkeeps h => exact ⟨hkeeps.without_flags, fun _ => hkeeps.flags⟩
  | reference hkeeps h => exact ⟨hkeeps.without_flags, fun _ => hkeeps.flags⟩
  | comment hkeeps h => exact ⟨hkeeps.without_flags, fun _ => hkeeps.flags⟩
  | condition hkeeps h => exact ⟨hkeeps.without_flags, fun _ => hkeeps.flags⟩
  | ahead hkeeps => exact ⟨hkeeps.without_flags, fun _ => hkeeps.flags⟩
  | behind hkeeps => exact ⟨hkeeps.without_flags, fun _ => hkeeps.flags⟩
  | atomic hkeeps => exact ⟨hkeeps.without_flags, fun _ => hkeeps.flags⟩
  | switched hkeeps hflags hverbose => exact ⟨hkeeps.without_flags, fun _ => hkeeps.flags⟩

/-- A comment is read whatever it says. -/
theorem groupHead_comment (start : Nat) {t : Source} {body r : List Token}
    (hbody : .plain ')' ∉ body)
    (hrest : t.rest = .plain '?' :: .plain '#' :: (body ++ .plain ')' :: r))
    (hlone : r = [] → t.lone = false) :
    ∃ q, groupHead start t = .ok (.comment, { t with rest := r, position := q }) := by
  have hskip : skip '?' t = .ok (true, { t with
      rest := .plain '#' :: (body ++ .plain ')' :: r)
      position := t.position + Token.size (.plain '?') }) := by
    rw [skip, peek_bind, hrest]
    exact bind_ok.mpr ⟨_, _, next_again hrest (by simp), rfl⟩
  have hnext := next_again (t := { t with
    rest := .plain '#' :: (body ++ .plain ')' :: r)
    position := t.position + Token.size (.plain '?') }) rfl (by simp)
  obtain ⟨q, hq⟩ := upTo_again (t := { t with
    rest := body ++ .plain ')' :: r
    position := t.position + Token.size (.plain '?') + Token.size (.plain '#') }) hbody rfl hlone
  refine ⟨q, bind_ok.mpr ⟨true, _, hskip, bind_ok.mpr ⟨_, _, hnext, ?_⟩⟩⟩
  exact bind_ok.mpr ⟨_, _, hq, rfl⟩

end Read

end Linting.Regex
