import Mathlib.Data.List.Nodup
import Linting.Proofs.Fallible
import Linting.Proofs.Pattern.Flags
import Linting.Proofs.Pattern.Walk

/-! Flags as a set of letters. A text is refused for its leftmost character that is no flag or comes
a second time; of a text that is accepted, only its letters matter, not their order, nor whether `g`
is among them. -/

namespace Linting.Pattern
set_option autoImplicit false

/-! ## Accepted flags -/

def flagLetters : List Char := ['g', 'i', 'm', 's', 'u', 'x', 'y']

theorem switch?_isSome_iff {c : Char} : (switch? c).isSome = true ↔ c ∈ flagLetters := by
  unfold switch?
  split <;> simp_all [flagLetters]

/-- Letters of the alphabet, none of them twice. -/
def AreFlags (flags : List Char) : Prop := (∀ c ∈ flags, c ∈ flagLetters) ∧ flags.Nodup

theorem flagFault?_nil_eq_none_iff {flags : List Char} :
    flagFault? [] flags = none ↔ AreFlags flags := by
  simp [flagFault?_eq_none_iff, switch?_isSome_iff, AreFlags]

theorem not_areFlags_iff {flags : List Char} :
    ¬ AreFlags flags ↔ (∃ c ∈ flags, c ∉ flagLetters) ∨ ∃ c, 2 ≤ flags.count c := by
  rw [AreFlags, not_and_or, List.nodup_iff_count_le_one]
  simp only [not_forall, exists_prop, Nat.not_le, Nat.lt_iff_add_one_le]

/-! ## The leftmost fault -/

/-- What is wrong with the leftmost character that is no flag or comes a second time. -/
inductive FirstFault (flags : List Char) : FlagFault → Prop where
  | unknown {front rest : List Char} {c : Char} (hsplit : flags = front ++ c :: rest)
    (hfront : AreFlags front) (hc : c ∉ flagLetters) : FirstFault flags (.unknown c)
  | repeated {front rest : List Char} {c : Char} (hsplit : flags = front ++ c :: rest)
    (hfront : AreFlags front) (hc : c ∈ front) : FirstFault flags (.repeated c)

theorem flagFault?_append (seen front rest : List Char) :
    flagFault? seen (front ++ rest) =
      (flagFault? seen front).or (flagFault? (front.reverse ++ seen) rest) := by
  induction front generalizing seen with
  | nil => rfl
  | cons c front ih =>
    rw [List.cons_append, flagFault?, flagFault?]
    split
    · rfl
    · split
      · rfl
      · rw [ih, List.reverse_cons, List.append_assoc]
        rfl

/-- A fault is found where the letters before it are accepted. -/
theorem exists_split_of_flagFault? {seen flags : List Char} {fault : FlagFault}
    (h : flagFault? seen flags = some fault) :
    ∃ front c rest, flags = front ++ c :: rest ∧ flagFault? seen front = none ∧
      flagFault? (front.reverse ++ seen) [c] = some fault := by
  induction flags generalizing seen with
  | nil => cases h
  | cons c rest ih =>
    have happend (front : List Char) := flagFault?_append seen [c] front
    rw [← List.singleton_append, happend] at h
    cases hhere : flagFault? seen [c] with
    | some found =>
      rw [hhere, Option.some_or] at h
      exact ⟨[], c, rest, rfl, rfl, hhere.trans h⟩
    | none =>
      rw [hhere, Option.none_or] at h
      obtain ⟨front, d, behind, rfl, hfront, hd⟩ := ih h
      refine ⟨c :: front, d, behind, rfl, ?_, ?_⟩
      · rw [← List.singleton_append, happend, hhere, Option.none_or]
        exact hfront
      · rwa [List.reverse_cons, List.append_assoc]

theorem flagFault?_singleton {seen : List Char} {c : Char} :
    flagFault? seen [c] =
      if c ∈ flagLetters then (if c ∈ seen then some (.repeated c) else none)
      else some (.unknown c) := by
  rw [flagFault?, flagFault?]
  by_cases hc : c ∈ flagLetters
  · have hknown : (switch? c).isNone = false := by
      rw [Option.isNone_eq_false_iff]
      exact switch?_isSome_iff.mpr hc
    simp [hknown, hc]
  · have hunknown : (switch? c).isNone = true := by
      rw [← Option.not_isSome, Bool.not_eq_true', Bool.eq_false_iff]
      exact mt switch?_isSome_iff.mp hc
    simp [hunknown, hc]

theorem flagFault?_eq_some_iff {flags : List Char} {fault : FlagFault} :
    flagFault? [] flags = some fault ↔ FirstFault flags fault := by
  constructor
  · intro h
    obtain ⟨front, c, rest, hsplit, hfront, hc⟩ := exists_split_of_flagFault? h
    rw [flagFault?_nil_eq_none_iff] at hfront
    rw [List.append_nil, flagFault?_singleton] at hc
    split at hc
    · split at hc
      · next hseen =>
        cases hc
        exact .repeated hsplit hfront (List.mem_reverse.mp hseen)
      · cases hc
    · next hunknown =>
      cases hc
      exact .unknown hsplit hfront hunknown
  · intro h
    have hfound {front rest : List Char} {c : Char} (hfront : AreFlags front)
        (hc : flagFault? front.reverse [c] = some fault) :
        flagFault? [] (front ++ c :: rest) = some fault := by
      rw [flagFault?_append, flagFault?_nil_eq_none_iff.mpr hfront, Option.none_or,
        List.append_nil, ← List.singleton_append, flagFault?_append, hc, Option.some_or]
    cases h with
    | unknown hsplit hfront hc =>
      rw [hsplit]
      apply hfound hfront
      rw [flagFault?_singleton, if_neg hc]
    | repeated hsplit hfront hc =>
      rw [hsplit]
      apply hfound hfront
      rw [flagFault?_singleton, if_pos (hfront.1 _ hc), if_pos (List.mem_reverse.mpr hc)]

theorem exists_firstFault_iff {flags : List Char} :
    (∃ fault, FirstFault flags fault) ↔ ¬ AreFlags flags := by
  rw [← flagFault?_nil_eq_none_iff, Option.eq_none_iff_forall_ne_some, not_forall]
  simp only [not_not, flagFault?_eq_some_iff]

/-- The letter that is supplied is no fault and hides none. -/
theorem flagFault?_normalizeFlags (flags : String) :
    flagFault? [] (normalizeFlags flags).toList = flagFault? [] flags.toList := by
  rw [normalizeFlags_toList]
  split
  · rw [List.append_nil]
  · next hmissing =>
    have hg : flagFault? (flags.toList.reverse ++ []) ['g'] = none := by
      rw [List.append_nil, flagFault?_singleton, if_pos (by decide),
        if_neg (by simpa using hmissing)]
    rw [flagFault?_append, hg, Option.or_none]

/-! ## What accepted flags turn on -/

/-- What the letters of a list turn on. -/
def turnedOn (letters : List Char) : Regex.Flags where
  ignoreCase := letters.contains 'i'
  multiline := letters.contains 'm'
  dotAll := letters.contains 's'
  unicode := letters.contains 'u'
  verbose := letters.contains 'x'

theorem turnedOn_cons (c : Char) (rest : List Char) :
    turnedOn (c :: rest) = (turnedOn [c]).union (turnedOn rest) := by
  simp [turnedOn, Regex.Flags.union]

theorem union_assoc (a b c : Regex.Flags) : (a.union b).union c = a.union (b.union c) := by
  simp [Regex.Flags.union, Bool.or_assoc]

theorem switch?_eq (c : Char) :
    switch? c = if c ∈ flagLetters then some (turnedOn [c]) else none := by
  by_cases hc : c ∈ flagLetters
  · rw [if_pos hc]
    simp only [flagLetters, List.mem_cons, List.not_mem_nil, or_false] at hc
    rcases hc with rfl | rfl | rfl | rfl | rfl | rfl | rfl <;> rfl
  · have hnone : ¬ (switch? c).isSome = true := mt switch?_isSome_iff.mp hc
    rw [if_neg hc]
    simpa using hnone

theorem foldl_union_switches {flags : List Char} (h : ∀ c ∈ flags, c ∈ flagLetters)
    (start : Regex.Flags) :
    (flags.filterMap switch?).foldl Regex.Flags.union start = start.union (turnedOn flags) := by
  induction flags generalizing start with
  | nil => exact (union_none start).symm
  | cons c rest ih =>
    obtain ⟨hc, hrest⟩ := List.forall_mem_cons.mp h
    have hswitch : switch? c = some (turnedOn [c]) := by rw [switch?_eq, if_pos hc]
    rw [List.filterMap_cons_some hswitch, List.foldl_cons, ih hrest, turnedOn_cons c rest,
      union_assoc]

/-- The modes that letters stand for: what each turns on, and the ASCII alphabet without `u`. -/
def modesOf (letters : List Char) : Regex.Flags :=
  { turnedOn letters with ascii := !letters.contains 'u' }

theorem switches_eq {flags : List Char} (h : ∀ c ∈ flags, c ∈ flagLetters) :
    switches flags = modesOf flags := by
  rw [switches, foldl_union_switches h]
  simp [Regex.Flags.union, modesOf]

/-! ## Compiling -/

/-- What comes of a pattern whose flags are accepted. -/
def outcome (source flags : String) (modes : Regex.Flags) (sticky : Bool) :
    Except CompileError Pattern :=
  match Regex.Expression.compile (respell source).toList modes with
  | .error failure => .error (.ofFailure source flags failure)
  | .ok expression => .ok ⟨source, normalizeFlags flags, expression, sticky⟩

/-- What came of a pattern, with other flags on record. -/
def withFlags (flags : String) : Except CompileError Pattern → Except CompileError Pattern
  | .ok p => .ok { p with flags := normalizeFlags flags }
  | .error (.invalid reason source _) => .error (.invalid reason source flags)
  | .error e => .error e

section Compile

variable {source flags flags' text : String} {fault : FlagFault}

theorem compile_of_flagFault? (h : flagFault? [] flags.toList = some fault) :
    compile source flags = .error (.invalid (.flag fault) source (normalizeFlags flags)) := by
  rw [compile, flagFault?_normalizeFlags, h]

theorem compile_of_areFlags (h : AreFlags flags.toList) :
    compile source flags =
      outcome source flags (modesOf flags.toList) (flags.toList.contains 'y') := by
  rw [compile, flagFault?_normalizeFlags, flagFault?_nil_eq_none_iff.mpr h,
    switches_normalizeFlags, switches_eq h.1, isSticky_normalizeFlags]
  rfl

theorem compile_eq_flagFault_iff {pattern : String} :
    compile source flags = .error (.invalid (.flag fault) pattern text) ↔
      FirstFault flags.toList fault ∧ pattern = source ∧ text = normalizeFlags flags := by
  rw [← flagFault?_eq_some_iff]
  constructor
  · intro h
    cases hfault : flagFault? [] flags.toList with
    | some found =>
      rw [compile_of_flagFault? hfault] at h
      cases h
      exact ⟨rfl, rfl, rfl⟩
    | none =>
      rw [compile_of_areFlags (flagFault?_nil_eq_none_iff.mp hfault), outcome] at h
      split at h
      · next failure _ =>
        cases failure <;> cases h
      · cases h
  · rintro ⟨hfault, rfl, rfl⟩
    exact compile_of_flagFault? hfault

/-- The same letters but for `g`. -/
def SameButForG (flags flags' : List Char) : Prop := ∀ c, c ≠ 'g' → (c ∈ flags' ↔ c ∈ flags)

theorem SameButForG.contains {letters letters' : List Char} (h : SameButForG letters letters')
    {c : Char} (hc : c ≠ 'g') : letters'.contains c = letters.contains c := by
  rw [Bool.eq_iff_iff, List.contains_iff_mem, List.contains_iff_mem]
  exact h c hc

theorem SameButForG.modesOf {letters letters' : List Char} (h : SameButForG letters letters') :
    modesOf letters' = modesOf letters := by
  simp only [Pattern.modesOf, turnedOn, h.contains (by decide : 'i' ≠ 'g'),
    h.contains (by decide : 'm' ≠ 'g'), h.contains (by decide : 's' ≠ 'g'),
    h.contains (by decide : 'u' ≠ 'g'), h.contains (by decide : 'x' ≠ 'g')]

theorem outcome_withFlags (source flags flags' : String) (modes : Regex.Flags) (sticky : Bool) :
    outcome source flags' modes sticky = withFlags flags' (outcome source flags modes sticky) := by
  unfold outcome
  cases Regex.Expression.compile (respell source).toList modes with
  | ok expression => rfl
  | error failure => cases failure <;> rfl

theorem compile_withFlags (h : AreFlags flags.toList) (h' : AreFlags flags'.toList)
    (hsame : SameButForG flags.toList flags'.toList) :
    compile source flags' = withFlags flags' (compile source flags) := by
  rw [compile_of_areFlags h, compile_of_areFlags h', hsame.modesOf,
    hsame.contains (by decide : 'y' ≠ 'g')]
  exact outcome_withFlags ..

/-- With other flags on record, the same message is told. -/
theorem message_of_withFlags {e e' : CompileError} (h : AreFlags flags.toList)
    (he : compile source flags = .error e) (he' : withFlags flags' (.error e) = .error e') :
    e'.message = e.message := by
  cases e with
  | invalid reason pattern text =>
    cases he'
    cases reason with
    | expression cause position => rfl
    | flag fault =>
      -- accepted flags have no fault to tell
      obtain ⟨hfault, -, -⟩ := compile_eq_flagFault_iff.mp he
      exact absurd h (exists_firstFault_iff.mp ⟨fault, hfault⟩)
  | alphabetsIncompatible => cases he'; rfl
  | repeatTooLarge => cases he'; rfl
  | codePointTooLarge => cases he'; rfl
  | tooManyDigits digits => cases he'; rfl

theorem mem_normalizeFlags (flags : String) : 'g' ∈ (normalizeFlags flags).toList := by
  rw [normalizeFlags_toList]
  split
  · next hmem => simpa using hmem
  · simp

theorem normalizeFlags_idem (flags : String) :
    normalizeFlags (normalizeFlags flags) = normalizeFlags flags := by
  have hmem := mem_normalizeFlags flags
  rw [normalizeFlags, if_pos (List.contains_iff_mem.mpr hmem)]

/-- Flags form a set of letters. They are refused, whatever the pattern, exactly if a character is
no flag or comes twice, and the leftmost such character is told. Accepted flags with the same
letters but for `g` give the same: the same modes, and so the same error, or a pattern that finds
the same matches in every text. Supplying `g` twice is no different from supplying it once. -/
theorem flags_form_set (source flags : String) :
    (∀ fault pattern text, compile source flags = .error (.invalid (.flag fault) pattern text) ↔
      FirstFault flags.toList fault ∧ pattern = source ∧ text = normalizeFlags flags) ∧
    ((∃ fault, FirstFault flags.toList fault) ↔
      (∃ c ∈ flags.toList, c ∉ flagLetters) ∨ ∃ c, 2 ≤ flags.toList.count c) ∧
    (AreFlags flags.toList →
      compile source flags =
        outcome source flags (modesOf flags.toList) (flags.toList.contains 'y') ∧
      ∀ flags' : String, AreFlags flags'.toList → SameButForG flags.toList flags'.toList →
        modesOf flags'.toList = modesOf flags.toList ∧
        compile source flags' = withFlags flags' (compile source flags) ∧
        (∀ e e', compile source flags = .error e → compile source flags' = .error e' →
          e'.message = e.message) ∧
        ∀ p p', compile source flags = .ok p → compile source flags' = .ok p' →
          p'.expression = p.expression ∧ p'.sticky = p.sticky ∧
          (∀ data position, p'.findNext? data position = p.findNext? data position) ∧
          ∀ data, p'.matchesIn (textOf data) = p.matchesIn (textOf data)) ∧
    normalizeFlags (normalizeFlags flags) = normalizeFlags flags ∧
    'g' ∈ (normalizeFlags flags).toList := by
  refine ⟨fun fault pattern text => compile_eq_flagFault_iff,
    exists_firstFault_iff.trans not_areFlags_iff, fun h => ⟨compile_of_areFlags h, ?_⟩,
    normalizeFlags_idem flags, mem_normalizeFlags flags⟩
  intro flags' h' hsame
  have hcompile : compile source flags' = withFlags flags' (compile source flags) :=
    compile_withFlags h h' hsame
  refine ⟨hsame.modesOf, hcompile, fun e e' he he' => ?_, fun p p' hp hp' => ?_⟩
  · rw [he, he'] at hcompile
    exact message_of_withFlags h he hcompile.symm
  · rw [hp, hp'] at hcompile
    cases hcompile
    refine ⟨rfl, rfl, fun _ _ => rfl, fun data => ?_⟩
    apply matchesFrom_congr
    intro position
    rfl

/-- Two spellings of one set of flags, one of them with the letter `g`. -/
theorem flags_form_set_reordered :
    ∃ p p', AreFlags "mi".toList ∧ AreFlags "gim".toList ∧
      SameButForG "mi".toList "gim".toList ∧ compile "(?<a>^X)" "mi" = .ok p ∧
      compile "(?<a>^X)" "gim" = .ok p' ∧ p'.flags ≠ p.flags ∧
      p'.expression = p.expression ∧ p'.sticky = p.sticky ∧
      (∀ data position, p'.findNext? data position = p.findNext? data position) ∧
      ∀ data, p'.matchesIn (textOf data) = p.matchesIn (textOf data) := by
  let p : Pattern :=
    ⟨"(?<a>^X)", "mig", ⟨.capture 1 (.seq (.anchor .lineStart) (.char 0x58)),
      { ascii := true, ignoreCase := true, multiline := true }, 1, [("a", 1)]⟩, false⟩
  have h : AreFlags "mi".toList := by simp [AreFlags, flagLetters]
  have h' : AreFlags "gim".toList := by simp [AreFlags, flagLetters]
  have hsame : SameButForG "mi".toList "gim".toList := by
    intro c hc
    simp [hc, or_comm]
  have hp : compile "(?<a>^X)" "mi" = .ok p := ok_of_toOption (by decide +kernel)
  have hp' : compile "(?<a>^X)" "gim" = .ok { p with flags := "gim" } :=
    ok_of_toOption (by decide +kernel)
  obtain ⟨-, hall⟩ := (flags_form_set "(?<a>^X)" "mi").2.2.1 h
  obtain ⟨-, -, -, hmatches⟩ := hall "gim" h' hsame
  exact ⟨p, _, h, h', hsame, hp, hp', by decide, hmatches _ _ hp hp'⟩

end Compile

end Linting.Pattern
