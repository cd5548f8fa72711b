import Linting.Pattern.Basic

/-! The flag letters of a pattern. Which of them are accepted depends on the set of the letters
alone, and `g` and `y` turn nothing on in the expression. -/

namespace Linting.Pattern
set_option autoImplicit false

theorem normalizeFlags_toList (flags : String) :
    (normalizeFlags flags).toList =
      flags.toList ++ if flags.toList.contains 'g' then [] else ['g'] := by
  unfold normalizeFlags
  split
  · rw [List.append_nil]
  · rw [String.toList_append]
    rfl

/-- Flags have no fault exactly if all are letters of the alphabet and none comes twice. -/
theorem flagFault?_eq_none_iff (seen flags : List Char) :
    flagFault? seen flags = none ↔
      (∀ c ∈ flags, (switch? c).isSome) ∧ flags.Nodup ∧ ∀ c ∈ flags, c ∉ seen := by
  induction flags generalizing seen with
  | nil => simp [flagFault?]
  | cons c rest ih =>
    rw [flagFault?]
    cases hc : switch? c with
    | none => simp [hc]
    | some on =>
      by_cases hs : c ∈ seen
      · simp [hs]
      · have hcont : ¬ seen.contains c = true := by simpa using hs
        rw [Option.isNone_some, if_neg (by decide), if_neg hcont, ih, List.nodup_cons]
        constructor
        · intro h
          obtain ⟨h1, h2, h3⟩ := h
          refine ⟨List.forall_mem_cons.mpr ⟨by rw [hc]; rfl, h1⟩, ⟨?_, h2⟩, ?_⟩
          · exact fun hmem => h3 c hmem (List.mem_cons_self ..)
          · exact List.forall_mem_cons.mpr
              ⟨hs, fun d hd hds => h3 d hd (List.mem_cons_of_mem _ hds)⟩
        · intro h
          obtain ⟨h1, ⟨h2, h3⟩, h4⟩ := h
          refine ⟨(List.forall_mem_cons.mp h1).2, h3, ?_⟩
          intro d hd hdc
          rcases List.mem_cons.mp hdc with rfl | hds
          · exact h2 hd
          · exact (List.forall_mem_cons.mp h4).2 d hd hds

theorem union_none (a : Regex.Flags) : a.union {} = a := by
  cases a
  simp [Regex.Flags.union]

/-- The letters `g` and `y` turn nothing on. -/
theorem switches_append (flags extra : List Char) (h : ∀ c ∈ extra, c = 'g' ∨ c = 'y') :
    switches (flags ++ extra) = switches flags := by
  have hfold : ∀ start : Regex.Flags,
      (extra.filterMap switch?).foldl Regex.Flags.union start = start := by
    intro start
    induction extra with
    | nil => rfl
    | cons c rest ih =>
      have hc : switch? c = some {} := by
        rcases h c (List.mem_cons_self ..) with rfl | rfl <;> rfl
      rw [List.filterMap_cons_some hc, List.foldl_cons, union_none]
      exact ih fun d hd => h d (List.mem_cons_of_mem _ hd)
  have hu : (flags ++ extra).contains 'u' = flags.contains 'u' := by
    rw [List.contains_append]
    cases hx : extra.contains 'u' with
    | false => rw [Bool.or_false]
    | true =>
      rcases h 'u' (by simpa using hx) with he | he
      · exact absurd he (by decide)
      · exact absurd he (by decide)
  rw [switches, switches, List.filterMap_append, List.foldl_append, hfold, hu]

theorem switches_normalizeFlags (flags : String) :
    switches (normalizeFlags flags).toList = switches flags.toList := by
  rw [normalizeFlags_toList]
  apply switches_append
  split <;> simp

theorem isSticky_normalizeFlags (flags : String) :
    isSticky (normalizeFlags flags).toList = flags.toList.contains 'y' := by
  rw [normalizeFlags_toList, isSticky, List.contains_append]
  split <;> simp

theorem switch?_unicode {c : Char} {on : Regex.Flags} (h : switch? c = some on)
    (hon : on.unicode = true) : c = 'u' := by
  unfold switch? at h
  split at h
  case h_5 => rfl
  case h_8 => cases h
  all_goals
    cases h
    cases hon

/-- The whole of Unicode is asked for by one letter alone. -/
theorem mem_of_switches_unicode {flags : List Char} (h : (switches flags).unicode = true) :
    'u' ∈ flags := by
  have hfold (start : Regex.Flags)
      (hall : ((flags.filterMap switch?).foldl Regex.Flags.union start).unicode = true) :
      start.unicode = true ∨ 'u' ∈ flags := by
    clear h
    induction flags generalizing start with
    | nil => exact .inl hall
    | cons c rest ih =>
      cases hc : switch? c with
      | none =>
        rw [List.filterMap_cons_none hc] at hall
        exact (ih start hall).imp_right (List.mem_cons_of_mem _)
      | some on =>
        rw [List.filterMap_cons_some hc, List.foldl_cons] at hall
        rcases ih _ hall with hunion | hmem
        · rcases (Bool.or_eq_true ..).mp hunion with hstart | hon
          · exact .inl hstart
          · exact .inr (switch?_unicode hc hon ▸ List.mem_cons_self ..)
        · exact .inr (List.mem_cons_of_mem _ hmem)
  exact (hfold {} h).resolve_left Bool.false_ne_true

/-! ## Compiling -/

/-- What the flags and the text have to be for a pattern to come about, and what it is then. -/
theorem compile_eq_ok_iff (source flags : String) (p : Pattern) :
    compile source flags = .ok p ↔
      flagFault? [] (normalizeFlags flags).toList = none ∧
      Regex.Expression.compile (respell source).toList (switches flags.toList) =
        .ok p.expression ∧
      p.source = source ∧ p.flags = normalizeFlags flags ∧
      p.sticky = flags.toList.contains 'y' := by
  have hswitches := switches_normalizeFlags flags
  unfold compile
  simp only [hswitches, isSticky_normalizeFlags]
  cases flagFault? [] (normalizeFlags flags).toList with
  | some fault => simp
  | none =>
    cases Regex.Expression.compile (respell source).toList (switches flags.toList) with
    | error failure => simp
    | ok expression =>
      cases p
      simp only [Except.ok.injEq, Pattern.mk.injEq, true_and]
      constructor
      · intro h
        obtain ⟨rfl, rfl, rfl, rfl⟩ := h
        exact ⟨rfl, rfl, rfl, rfl⟩
      · intro h
        obtain ⟨rfl, rfl, rfl, rfl⟩ := h
        exact ⟨rfl, rfl, rfl, rfl⟩

end Linting.Pattern
