import Linting.Proofs.Regex.Layout
import Linting.Regex.Reader

/-! Escapes, sets and repetitions are read locally: none of them opens or closes anything outside
itself, and a set ends with the first bracket that closes it. -/

namespace Linting.Regex
set_option autoImplicit false

namespace Read

variable {α : Type}

/-! ## Escapes -/

theorem hexEscape_tame (c : Char) (places : Nat) :
    Tame (hexEscape c places) (hexEscape c places) := by
  refine (charsOf_tame (fun d hd => (isHex_quiet d hd).1) places).bind fun digits => ?_
  refine Tame.ite (fun _ => Tame.fail_bind ..) fun _ => ?_
  refine Tame.ite (fun _ => Tame.of_pure _) fun _ => ?_
  exact Tame.ite (fun _ => Tame.fail_bind ..) fun _ => Tame.of_throw ..

/-- The name of a character is quiet, or there would be no such character. -/
theorem namedCharacter_tame : Tame namedCharacter namedCharacter := by
  refine (skip_tame ?_).bind fun opened => ?_
  · exact ⟨by decide, by decide, by decide, by decide, by decide⟩
  refine Tame.ite (fun _ => ?_) fun _ => Tame.fail_bind ..
  refine Local.bind (name_local '\x7d' "character name") ?_
  intro s text u s₁ hfits
  obtain ⟨hkeeps, w, htext, rfl, -⟩ := hfits
  cases hnamed : Unicode.named? text with
  | none => exact Local.of_fail ..
  | some c =>
    refine Local.of_pure ?_
    rintro _ rfl
    have hquiet := Unicode.named?_quiet hnamed
    rw [htext] at hquiet
    rw [List.append_nil]
    refine ⟨?_, hkeeps⟩
    intro t ht
    rcases List.mem_append.mp ht with ht | ht
    · exact (quiet_of_text hquiet t ht).1
    · rw [List.mem_singleton.mp ht]
      exact ⟨by decide, by decide, by decide, by decide, by decide⟩

theorem characterEscape?_tame {c : Char} {read : Read Nat} (h : characterEscape? c = some read) :
    Tame read read := by
  unfold characterEscape? at h
  split at h
  · exact Option.some.inj h ▸ hexEscape_tame 'x' 2
  · exact Option.some.inj h ▸ hexEscape_tame 'u' 4
  · exact Option.some.inj h ▸ hexEscape_tame 'U' 8
  · exact Option.some.inj h ▸ namedCharacter_tame
  · cases h

theorem plainEscape_tame (c : Char) : Tame (plainEscape c) (plainEscape c) :=
  Tame.ite (fun _ => Tame.fail_bind ..) fun _ => Tame.of_pure _

theorem octalEscape_tame (c : Char) (digits : List Char) :
    Tame (octalEscape c digits) (octalEscape c digits) :=
  Tame.ite (fun _ => Tame.fail_bind ..) fun _ => Tame.of_pure _

theorem octals_tame (count : Nat) : Tame (charsOf isOctal count) (charsOf isOctal count) :=
  charsOf_tame (fun d hd => (isOctal_quiet d hd).1) count

theorem setEscape_tame (c : Char) : Tame (setEscape c) (setEscape c) := by
  unfold setEscape
  split
  · exact Tame.of_pure _
  · exact Tame.of_pure _
  · split
    · next read hread =>
      exact (characterEscape?_tame hread).bind fun _ => Tame.of_pure _
    · refine Tame.ite (fun _ => ?_) fun _ => (plainEscape_tame c).bind fun _ => Tame.of_pure _
      refine (octals_tame 2).bind fun digits => ?_
      exact (octalEscape_tame c digits).bind fun _ => Tame.of_pure _

/-! ## References -/

theorem closedWidth?_like {s t : Source} (h : s.Like t) (group : Nat) :
    t.closedWidth? group = s.closedWidth? group := by
  rw [Source.closedWidth?, Source.closedWidth?, h.widths]

/-- A check reads nothing. -/
theorem checkLookbehind_local (group : Nat) :
    Local (fun s _ u s' => u = [] ∧ s' = s) (checkLookbehind group) (checkLookbehind group) := by
  refine Local.of_get fun s t hlike => ?_
  rw [hlike.lookbehind]
  cases s.groupsBeforeLookbehind with
  | none => exact Local.of_pure fun _ => ⟨rfl, rfl⟩
  | some before =>
    dsimp only
    rw [closedWidth?_like hlike]
    refine Local.ite (fun _ => Local.fail_bind ..) fun _ => ?_
    exact Local.ite (fun _ => Local.of_fail ..) fun _ => Local.of_pure fun _ => ⟨rfl, rfl⟩

theorem reference_local (group back : Nat) :
    Local (fun s _ u s' => u = [] ∧ s' = s) (reference group back) (reference group back) := by
  refine Local.of_get fun s t hlike => ?_
  rw [closedWidth?_like hlike]
  cases s.closedWidth? group with
  | none => exact Local.of_fail ..
  | some width =>
    refine Local.bind (checkLookbehind_local group) ?_
    intro s a u s₁ hfits
    obtain ⟨rfl, rfl⟩ := hfits
    refine Local.of_pure ?_
    rintro _ rfl
    exact ⟨rfl, rfl⟩

theorem reference_tame (group back : Nat) :
    Tame (reference group back) (reference group back) := by
  refine Tame.of_local (reference_local group back) ?_
  intro s a u s' hfits
  obtain ⟨rfl, rfl⟩ := hfits
  exact ⟨by simp, .refl _⟩

theorem digitEscape_tame (c : Char) : Tame (digitEscape c) (digitEscape c) := by
  refine Tame.ite (fun _ => (octals_tame 2).bind fun _ => Tame.of_pure _) fun _ => ?_
  refine (charsOf_tame (fun d hd => (isAsciiDigit_quiet d hd).1) 1).bind fun second => ?_
  have hreference : Tame
      (get >>= fun s => if numberOf 10 (c :: second) < s.groupCount
        then reference (numberOf 10 (c :: second)) (second.length + 2)
        else fail (.noSuchGroup (numberOf 10 (c :: second))) (second.length + 1))
      (get >>= fun s => if numberOf 10 (c :: second) < s.groupCount
        then reference (numberOf 10 (c :: second)) (second.length + 2)
        else fail (.noSuchGroup (numberOf 10 (c :: second))) (second.length + 1)) := by
    refine Local.of_get fun s t hlike => ?_
    have hcount : t.groupCount = s.groupCount := by
      rw [Source.groupCount, Source.groupCount, hlike.widths]
    rw [hcount]
    exact Tame.ite (fun _ => reference_tame ..) fun _ => Tame.of_fail ..
  refine Tame.ite (fun _ => ?_) fun _ => hreference
  refine (octals_tame 1).bind fun third => ?_
  refine Tame.ite (fun _ => hreference) fun _ => ?_
  exact (octalEscape_tame ..).bind fun _ => Tame.of_pure _

theorem escape_tame (c : Char) : Tame (escape c) (escape c) := by
  unfold escape
  split
  · exact Tame.of_pure _
  · exact Tame.of_pure _
  · exact Tame.of_pure _
  · split
    · next read hread =>
      exact (characterEscape?_tame hread).bind fun _ => Tame.of_pure _
    · refine Tame.ite (fun _ => digitEscape_tame c) fun _ => ?_
      exact (plainEscape_tame c).bind fun _ => Tame.of_pure _

/-! ## Sets -/

theorem member_tame (t : Token) : Tame (member t) (member t) := by
  cases t with
  | plain c => exact Tame.of_pure _
  | escaped c => exact setEscape_tame c

theorem rangeOf_tame (lo hi : Token) (first last : SetItem) :
    Tame (rangeOf lo hi first last) (rangeOf lo hi first last) := by
  unfold rangeOf
  split
  · exact Tame.ite (fun _ => Tame.of_fail ..) fun _ => Tame.of_pure _
  · exact Tame.of_fail ..

/-- A stretch that the closing bracket ends, and that holds no other one. -/
def EndsSet (u : List Token) : Prop := ∃ inner, u = inner ++ [.plain ']'] ∧ .plain ']' ∉ inner

theorem EndsSet.append {u v : List Token} (hu : .plain ']' ∉ u) (hv : EndsSet v) :
    EndsSet (u ++ v) := by
  obtain ⟨inner, rfl, hinner⟩ := hv
  refine ⟨u ++ inner, by rw [List.append_assoc], ?_⟩
  exact fun h => (List.mem_append.mp h).elim hu hinner

theorem close_notMem_of_quiet {u : List Token} (hu : ∀ t ∈ u, t.Quiet) : .plain ']' ∉ u :=
  fun h => (hu _ h).2.1 rfl

/-- What a member or a range holds behind its first token. -/
theorem memberOrRange_local (start start' : Nat) (t : Token) :
    Local (fun s a u s' => s.Keeps s' ∧ a.1 ≠ [] ∧
        if a.2 then EndsSet u else .plain ']' ∉ u)
      (memberOrRange start t) (memberOrRange start' t) := by
  refine Local.bind (member_tame t) ?_
  intro s item u s₁ hfits
  obtain ⟨hu, hkeeps⟩ := hfits
  have hu := close_notMem_of_quiet hu
  refine Local.bind (skip_local '-') ?_
  intro s₂ dash v s₃ hfits
  obtain ⟨rfl, hkeeps', -⟩ := hfits
  cases dash with
  | false =>
    refine Local.of_pure ?_
    rintro _ rfl rfl
    exact ⟨hkeeps.trans hkeeps', by simp, by simpa using hu⟩
  | true =>
    refine Local.bind next_local ?_
    intro s₄ o w s₅ hfits
    obtain ⟨-, rfl, hkeeps''⟩ := hfits
    cases o with
    | none => exact Local.of_failAt ..
    | some b =>
      refine Local.ite (fun hb => ?_) fun hb => ?_
      · refine Local.of_pure ?_
        rintro _ rfl rfl rfl
        refine ⟨(hkeeps.trans hkeeps').trans hkeeps'', by simp, ?_⟩
        refine ⟨u ++ [.plain '-'], by simp [hb], ?_⟩
        simpa using hu
      · refine Local.bind (member_tame b) ?_
        intro s₆ last x s₇ hfits
        obtain ⟨hx, hkeeps₃⟩ := hfits
        refine Local.bind (rangeOf_tame t b item last) ?_
        intro s₈ range y s₉ hfits
        obtain ⟨hy, hkeeps₄⟩ := hfits
        refine Local.of_pure ?_
        rintro _ rfl rfl rfl rfl rfl
        have hall := (((hkeeps.trans hkeeps').trans hkeeps'').trans hkeeps₃).trans hkeeps₄
        refine ⟨hall, by simp, ?_⟩
        have hx := close_notMem_of_quiet hx
        have hy := close_notMem_of_quiet hy
        simp [hu, hx, hy, Ne.symm hb]

/-- A stretch of a set: the first token is a member whatever it is, unless there are members. -/
def InSet (found : List SetItem) (u : List Token) (closed : Bool) : Prop :=
  ∃ first rest, u = first ++ rest ∧ first.length = (if found.isEmpty then 1 else 0) ∧
    if closed then EndsSet rest else .plain ']' ∉ rest

theorem moreMembers_local (start start' : Nat) (found : List SetItem) :
    Local (fun s a u s' => s.Keeps s' ∧ a.1 ≠ [] ∧ u ≠ [] ∧ InSet found u a.2)
      (moreMembers start found) (moreMembers start' found) := by
  refine Local.bind next_local ?_
  intro s o u s₁ hfits
  obtain ⟨-, rfl, hkeeps⟩ := hfits
  cases o with
  | none => exact Local.of_failAt ..
  | some t =>
    refine Local.ite (fun hclose => ?_) fun hclose => ?_
    · refine Local.of_pure ?_
      rintro _ rfl
      rw [Bool.and_eq_true, decide_eq_true_eq, Bool.not_eq_true'] at hclose
      obtain ⟨rfl, hfound⟩ := hclose
      refine ⟨hkeeps, by simpa using hfound, by simp, [], _, rfl, by rw [hfound]; rfl, ?_⟩
      exact ⟨[], rfl, by simp⟩
    · refine Local.bind (memberOrRange_local start start' t) ?_
      rintro s₂ ⟨items, ended⟩ v s₃ ⟨hkeeps', hitems, hv⟩
      refine Local.of_pure ?_
      rintro _ rfl rfl
      refine ⟨hkeeps.trans hkeeps', by simp [hitems], by simp, ?_⟩
      rw [List.append_nil]
      cases hfound : found.isEmpty with
      | true => exact ⟨[t], v, rfl, by rw [hfound]; rfl, hv⟩
      | false =>
        refine ⟨[], t :: v, rfl, by rw [hfound]; rfl, ?_⟩
        have ht : t ≠ .plain ']' := by
          rintro rfl
          exact hclose (by rw [hfound]; rfl)
        cases ended with
        | true => exact EndsSet.append (u := [t]) (by simpa using Ne.symm ht) hv
        | false => simpa [Ne.symm ht] using hv

/-- The members of a set end with the first bracket that closes it. They are read again under every
bound that lets each token be a member. -/
theorem members_ok {start bound : Nat} {found items : List SetItem} {s s' : Source}
    (h : members start bound found s = .ok (items, s')) :
    ∃ u, s.rest = u ++ s'.rest ∧ s.Keeps s' ∧ InSet found u true ∧
      ∀ ⦃start' bound' : Nat⦄ ⦃t : Source⦄ ⦃r : List Token⦄, u.length ≤ bound' → s.Like t →
        t.rest = u ++ r → Agree s'.rest r →
        ∃ t', members start' bound' found t = .ok (items, t') ∧ t'.rest = r ∧ s'.Like t' := by
  induction bound generalizing found s with
  | zero => exact (failAt_ne_ok _ _ _ _ h).elim
  | succ bound ih =>
    obtain ⟨⟨more, ended⟩, s₁, hmore, h⟩ := bind_ok.mp h
    have hmore' := fun start' => moreMembers_local start start' found hmore
    obtain ⟨u, hu, ⟨hkeeps, hne, hu', hin⟩, -⟩ := hmore' 0
    have hsucc : ∀ {bound' : Nat}, u.length ≤ bound' → ∃ b, bound' = b + 1 := by
      intro bound' hb
      have hpos := List.length_pos_iff.mpr hu'
      exact ⟨bound' - 1, by omega⟩
    cases ended with
    | true =>
      obtain ⟨rfl, rfl⟩ := pure_ok.mp h
      refine ⟨u, hu, hkeeps, hin, ?_⟩
      intro start' bound' t r hbound hlike hrest hagree
      obtain ⟨b, rfl⟩ := hsucc hbound
      obtain ⟨u', hu', -, again⟩ := hmore' start'
      obtain rfl := List.append_cancel_right (hu.symm.trans hu')
      obtain ⟨t', ht', hr, hlike'⟩ := again hlike hrest hagree
      exact ⟨t', bind_ok.mpr ⟨_, _, ht', rfl⟩, hr, hlike'⟩
    | false =>
      obtain ⟨v, hv, hkeeps', ⟨first, rest, rfl, hfirst, hends⟩, again₂⟩ := ih h
      obtain ⟨first', rest', rfl, hfirst', hrest'⟩ := hin
      have hempty : more.isEmpty = false := by
        rw [List.isEmpty_eq_false_iff]
        exact hne
      rw [hempty] at hfirst
      obtain rfl := List.eq_nil_of_length_eq_zero hfirst
      refine ⟨(first' ++ rest') ++ rest, by rw [hu, hv]; simp, hkeeps.trans hkeeps', ?_, ?_⟩
      · exact ⟨first', rest' ++ rest, by simp, hfirst', EndsSet.append hrest' hends⟩
      · intro start' bound' t r hbound hlike hrest hagree
        have hlen : (first' ++ rest').length ≤ bound' := by
          simp only [List.length_append] at hbound ⊢
          omega
        obtain ⟨b, rfl⟩ := hsucc hlen
        obtain ⟨u', hu'', -, again₁⟩ := hmore' start'
        obtain rfl := List.append_cancel_right (hu.symm.trans hu'')
        rw [List.append_assoc] at hrest
        have hmid : Agree s₁.rest (rest ++ r) := by
          rw [hv]
          exact hagree.append rest
        obtain ⟨t₁, ht₁, hr₁, hlike₁⟩ := again₁ hlike hrest hmid
        have hb : rest.length ≤ b := by
          have hpos := List.length_pos_iff.mpr hu'
          simp only [List.length_append] at hbound hpos
          omega
        obtain ⟨t', ht', hr, hlike'⟩ := again₂ hb hlike₁ hr₁ hagree
        exact ⟨t', bind_ok.mpr ⟨_, _, ht₁, ht'⟩, hr, hlike'⟩

theorem isSetBody_of_inSet {caret u : List Token} (h : InSet [] u true)
    (hcaret : caret = [.plain '^'] ∨ caret = [] ∧ u.head? ≠ some (.plain '^')) :
    IsSetBody (caret ++ u) := by
  obtain ⟨first, rest, rfl, hfirst, inner, rfl, hinner⟩ := h
  obtain ⟨f, rfl⟩ := List.length_eq_one_iff.mp hfirst
  refine ⟨caret, f, inner, rfl, hinner, hcaret.imp_right ?_⟩
  intro h
  obtain ⟨hnil, hhead⟩ := h
  exact ⟨hnil, fun hf => hhead (by rw [hf]; rfl)⟩

theorem bracket_local : Local (fun s _ u s' => s.Keeps s' ∧ IsSetBody u) bracket bracket := by
  intro s node s' h
  rw [bracket, get_bind] at h
  obtain ⟨negated, s₁, hskip, h⟩ := bind_ok.mp h
  obtain ⟨caret, hcaret, ⟨rfl, hkeeps, hhead⟩, again₁⟩ := skip_local '^' hskip
  rw [get_bind] at h
  obtain ⟨found, s₂, hmembers, h⟩ := bind_ok.mp h
  obtain ⟨rfl, rfl⟩ := pure_ok.mp h
  obtain ⟨u, hu, hkeeps', hin, again₂⟩ := members_ok hmembers
  refine ⟨(if negated then [.plain '^'] else []) ++ u, by rw [hcaret, hu]; simp,
    ⟨hkeeps.trans hkeeps', isSetBody_of_inSet hin ?_⟩, ?_⟩
  · cases negated with
    | true => exact .inl rfl
    | false =>
      refine .inr ⟨rfl, fun hcon => ?_⟩
      have hrest : s.rest = u ++ s'.rest := by rw [hcaret, hu]; rfl
      have hne : u ≠ [] := by
        obtain ⟨first, rest, rfl, hfirst, -⟩ := hin
        intro hnil
        rw [(List.append_eq_nil_iff.mp hnil).1] at hfirst
        cases hfirst
      obtain ⟨f, v, rfl⟩ := List.exists_cons_of_ne_nil hne
      rw [hrest] at hhead
      exact Bool.noConfusion (hhead.mpr hcon)
  · intro t r hlike hrest hagree
    rw [List.append_assoc] at hrest
    have hmid : Agree s₁.rest (u ++ r) := by
      rw [hu]
      exact hagree.append u
    obtain ⟨t₁, ht₁, hr₁, hlike₁⟩ := again₁ hlike hrest hmid
    have hbound : u.length ≤ t₁.rest.length + 1 := by
      rw [hr₁, List.length_append]
      omega
    obtain ⟨t', ht', hr, hlike'⟩ := again₂ hbound hlike₁ hr₁ hagree
    refine ⟨t', ?_, hr, hlike'⟩
    rw [bracket, get_bind]
    refine bind_ok.mpr ⟨negated, t₁, ht₁, ?_⟩
    rw [get_bind]
    exact bind_ok.mpr ⟨found, t', ht', rfl⟩

/-! ## Repetitions -/

theorem quiet_of_mem {c : Char} (h : c ∈ [',', '\x7d', '?', '+']) : Token.Quiet (.plain c) := by
  refine ⟨?_, ?_, ?_, ?_, ?_⟩
  all_goals
    rintro heq
    rw [Token.plain.inj heq] at h
    exact absurd h (by decide)

theorem boundOf_tame (digits : List Char) : Tame (boundOf digits) (boundOf digits) := by
  refine Tame.ite (fun _ => ?_) fun _ => ?_
  · intro s a s' h
    cases h
  · refine Tame.ite (fun _ => ?_) fun _ => Tame.of_pure _
    intro s a s' h
    cases h

theorem boundsText_tame : Tame boundsText boundsText := by
  have hdigits := allCharsOf_tame fun d hd => (isAsciiDigit_quiet d hd).1
  refine hdigits.bind fun lo => ?_
  refine (skip_tame (quiet_of_mem (by decide))).bind fun comma => ?_
  have hclose : ∀ hi : List Char, Tame (skip '\x7d' >>= fun closed => pure (lo, hi, closed))
      (skip '\x7d' >>= fun closed => pure (lo, hi, closed)) :=
    fun hi => (skip_tame (quiet_of_mem (by decide))).bind fun _ => Tame.of_pure _
  exact Tame.ite (fun _ => hdigits.bind hclose) fun _ => hclose lo

theorem boundIn_tame (digits : List Char) : Tame (boundIn digits) (boundIn digits) :=
  Tame.ite (fun _ => Tame.of_pure _) fun _ => (boundOf_tame digits).bind fun _ => Tame.of_pure _

theorem boundsOf_tame (place place' : Nat) (lo hi : List Char) :
    Tame (boundsOf place lo hi) (boundsOf place' lo hi) := by
  refine (boundIn_tame lo).bind fun least => (boundIn_tame hi).bind fun most => ?_
  exact Tame.ite (fun _ => Tame.failAt_bind ..) fun _ => Tame.of_pure _

/-- Where no bounds follow, nothing has been read, however far the reader had to look. -/
theorem bounds?_tame : Tame bounds? bounds? := by
  intro s a s' h
  rw [bounds?, get_bind, peek_bind] at h
  by_cases hhead : s.rest.head? = some (.plain '\x7d')
  · rw [if_pos hhead] at h
    obtain ⟨rfl, rfl⟩ := pure_ok.mp h
    refine ⟨[], rfl, ⟨by simp, .refl _⟩, ?_⟩
    intro t r hlike hrest hagree
    refine ⟨t, ?_, hrest, hlike⟩
    obtain rfl : t.rest = r := hrest
    rw [bounds?, get_bind, peek_bind, if_pos (hagree.head?.trans hhead)]
    rfl
  · rw [if_neg hhead] at h
    have hskip : ∀ {t : Source} {r : List Token}, t.rest = r → Agree s.rest r →
        bounds? t = (boundsText >>= boundsOrBack t) t := by
      intro t r hrest hagree
      rw [bounds?, get_bind, peek_bind, hrest, if_neg (hagree.head? ▸ hhead)]
    obtain ⟨⟨lo, hi, closed⟩, s₁, htext, h⟩ := bind_ok.mp h
    obtain ⟨u, hu, ⟨hquiet, hkeeps⟩, again⟩ := boundsText_tame htext
    cases closed with
    | true =>
      obtain ⟨bounds, s₂, hbounds, h⟩ := bind_ok.mp h
      obtain ⟨rfl, rfl⟩ := pure_ok.mp h
      have hof := fun place => boundsOf_tame s.position place lo hi hbounds
      obtain ⟨v, hv, ⟨hquiet', hkeeps'⟩, -⟩ := hof 0
      refine ⟨u ++ v, by rw [hu, hv, List.append_assoc], ⟨?_, hkeeps.trans hkeeps'⟩, ?_⟩
      · intro t ht
        exact (List.mem_append.mp ht).elim (hquiet t) (hquiet' t)
      · intro t r hlike hrest hagree
        rw [List.append_assoc] at hrest
        have hmid : Agree s₁.rest (v ++ r) := by
          rw [hv]
          exact hagree.append v
        have hall : Agree s.rest (u ++ (v ++ r)) := by
          rw [hu]
          exact hmid.append u
        obtain ⟨t₁, ht₁, hr₁, hlike₁⟩ := again hlike hrest hmid
        obtain ⟨v', hv', -, again'⟩ := hof t.position
        obtain rfl := List.append_cancel_right (hv.symm.trans hv')
        obtain ⟨t₂, ht₂, hr₂, hlike₂⟩ := again' hlike₁ hr₁ hagree
        refine ⟨t₂, ?_, hr₂, hlike₂⟩
        rw [hskip hrest hall]
        exact bind_ok.mpr ⟨_, t₁, ht₁, bind_ok.mpr ⟨_, t₂, ht₂, rfl⟩⟩
    | false =>
      obtain ⟨_, s₂, hset, h⟩ := bind_ok.mp h
      cases hset
      obtain ⟨rfl, rfl⟩ := pure_ok.mp h
      refine ⟨[], rfl, ⟨by simp, .refl _⟩, ?_⟩
      intro t r hlike hrest hagree
      have hagree' := hagree
      rw [hu] at hagree'
      obtain ⟨r₁, rfl, hagree₁⟩ := hagree'.of_append fun t ht => (hquiet t ht).not_mayStartComment
      obtain ⟨t₁, ht₁, -, -⟩ := again hlike hrest hagree₁
      refine ⟨t, ?_, hrest, hlike⟩
      rw [hskip hrest hagree]
      exact bind_ok.mpr ⟨_, t₁, ht₁, rfl⟩

theorem quantifier?_tame (t : Token) : Tame (quantifier? t) (quantifier? t) := by
  unfold quantifier?
  split
  · exact Tame.of_pure _
  · exact Tame.of_pure _
  · exact Tame.of_pure _
  · exact bounds?_tame
  · exact Tame.of_pure _

theorem greedOf_tame : Tame greedOf greedOf := by
  refine (skip_tame (quiet_of_mem (by decide))).bind fun lazy => ?_
  refine Tame.ite (fun _ => Tame.of_pure _) fun _ => ?_
  refine (skip_tame (quiet_of_mem (by decide))).bind fun greedy => ?_
  exact Tame.ite (fun _ => Tame.of_pure _) fun _ => Tame.of_pure _

theorem repeatable_tame (place place' : Nat) (node : Option Node) :
    Tame (repeatable place node) (repeatable place' node) := by
  unfold repeatable
  split
  · exact Tame.of_failAt ..
  · exact Tame.of_failAt ..
  · exact Tame.of_failAt ..
  · exact Tame.of_pure _
  · exact Tame.of_pure _

/-! ## Items -/

theorem item_tame {t : Token} (h : t ≠ .plain '[') : Tame (item t) (item t) := by
  unfold item
  split
  · exact escape_tame _
  · exact absurd rfl h
  · exact Tame.of_pure _
  · exact Tame.of_pure _
  · exact Tame.of_pure _
  · exact Tame.of_pure _

theorem itemOrLoop_tame (done : List Node) (start start' : Nat) {t : Token}
    (h : t ≠ .plain '[') : Tame (itemOrLoop done start t) (itemOrLoop done start' t) := by
  refine (quantifier?_tame t).bind fun bounds => ?_
  cases bounds with
  | none => exact (item_tame h).bind fun _ => Tame.of_pure _
  | some bounds =>
    refine (repeatable_tame start start' done.head?).bind fun body => ?_
    exact greedOf_tame.bind fun _ => Tame.of_pure _

/-- An opening bracket is neither a repetition nor an item without a set. -/
theorem itemOrLoop_set (done : List Node) (start start' : Nat) :
    Local (fun s _ u s' => s.Keeps s' ∧ IsSetBody u)
      (itemOrLoop done start (.plain '[')) (itemOrLoop done start' (.plain '[')) := by
  change Local _ (bracket >>= fun node => pure (node :: done))
    (bracket >>= fun node => pure (node :: done))
  refine Local.bind bracket_local ?_
  rintro s node u s₁ h
  refine Local.of_pure ?_
  rintro _ rfl
  rw [List.append_nil]
  exact h

end Read

end Linting.Regex
