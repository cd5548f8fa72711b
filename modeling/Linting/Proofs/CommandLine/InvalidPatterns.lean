import Linting.Proofs.CommandLine.Inputs
import Linting.Proofs.Pattern.Flags
import Linting.Proofs.Regex.Refusals

/-! How a pattern that does not compile is reported. A pattern is refused as invalid, which a
command tells with a status of its own, unless it asks for something that cannot be built: then the
fault is no invalid pattern, and ends the command like any other. -/

namespace Linting
set_option autoImplicit false

/-! ## Patterns that do not compile -/

namespace Pattern

/-- The tokens of the expression that a pattern is respelled to. -/
def expressionTokens (source : String) : List Regex.Token :=
  (Regex.tokens (respell source).toList).1

/-- Whether a pattern is refused as invalid: because of its flags, which are told with `g` supplied,
or else because of the syntax of its expression. -/
def CompileError.IsInvalid (source flags : String) (e : CompileError) : Prop :=
  (∃ fault, flagFault? [] (normalizeFlags flags).toList = some fault ∧
    e = .invalid (.flag fault) source (normalizeFlags flags)) ∨
  (flagFault? [] (normalizeFlags flags).toList = none ∧
    ∃ cause place, e = .invalid (.expression cause place) source flags)

/-- Why a pattern asks for something that cannot be built: a stretch of it exceeds, or a group of
it sets the alphabet that its flags do not. -/
inductive Unbuildable (source flags : String) : CompileError → Prop where
  | exceeds {failure : Regex.Failure} (h : Regex.Exceeds (expressionTokens source) failure) :
    Unbuildable source flags (.ofFailure source flags failure)
  | alphabets (h : Regex.HoldsGlobal (expressionTokens source)
      (if 'u' ∈ flags.toList then 'a' else 'u')) :
    Unbuildable source flags .alphabetsIncompatible

variable {source flags : String} {e : CompileError}

theorem Unbuildable.not_invalid (h : Unbuildable source flags e) (reason : Invalid)
    (pattern told : String) : e ≠ .invalid reason pattern told := by
  rintro rfl
  generalize he : CompileError.invalid reason pattern told = e at h
  cases h with
  | alphabets h => cases he
  | exceeds h =>
    cases h with
    | codePoint => cases he
    | count => cases he
    | digits => cases he

theorem holdsGlobal_of_asksBoth {text : List Regex.Token} {letters : List Char}
    (h : Regex.AsksBoth text (switches letters)) :
    Regex.HoldsGlobal text (if 'u' ∈ letters then 'a' else 'u') := by
  by_cases hu : 'u' ∈ letters
  · rw [if_pos hu]
    refine h.ascii.resolve_left fun hascii => ?_
    have hnot : (!letters.contains 'u') = true := hascii
    rw [List.contains_iff_mem.mpr hu] at hnot
    cases hnot
  · rw [if_neg hu]
    exact h.unicode.resolve_left fun hunicode => hu (mem_of_switches_unicode hunicode)

theorem compile_error (h : compile source flags = .error e) :
    e.IsInvalid source flags ∨ Unbuildable source flags e := by
  rw [compile] at h
  cases hfault : flagFault? [] (normalizeFlags flags).toList with
  | some fault =>
    rw [hfault] at h
    cases h
    exact .inl (.inl ⟨fault, hfault, rfl⟩)
  | none =>
    rw [hfault, switches_normalizeFlags] at h
    dsimp only at h
    cases hread : Regex.Expression.compile (respell source).toList (switches flags.toList) with
    | ok expression =>
      rw [hread] at h
      cases h
    | error failure =>
      rw [hread] at h
      cases h
      rcases Regex.Expression.compile_error hread with ⟨cause, place, rfl⟩ | hexceeds | ⟨rfl, hboth⟩
      · exact .inl (.inr ⟨hfault, cause, place, rfl⟩)
      · exact .inr (.exceeds hexceeds)
      · exact .inr (.alphabets (holdsGlobal_of_asksBoth hboth))

end Pattern

/-! ## What is reported -/

namespace CommandLine

/-- The text that a command looks for diagnostics in. -/
def ParseCommand.inputText (s : Surroundings) (c : ParseCommand) : Except SourceFault String :=
  match c.source with
  | none => .ok s.inputText
  | some source => s.fileText source

variable {s : Surroundings} {c : ParseCommand} {data : String} {e : Pattern.CompileError}

theorem ParseCommand.run_eq (h : c.inputText s = .ok data) : c.run s = c.outcomeFor s data := by
  rw [run]
  rw [inputText] at h
  cases hsource : c.source with
  | none =>
    rw [hsource] at h
    cases h
    rfl
  | some source =>
    rw [hsource] at h
    dsimp only at h ⊢
    rw [h]

/-- The end of a command whose pattern is refused. -/
def ParseCommand.refusal (s : Surroundings) (c : ParseCommand) (e : Pattern.CompileError) :
    Outcome :=
  { status := patternStatus
    output := Console.Status.fail.line e.message c.emoji (c.coloured s) }

theorem ParseCommand.outcomeFor_invalid
    (hcompile : Pattern.compile c.pattern c.flags = .error e)
    (h : e.IsInvalid c.pattern c.flags) : c.outcomeFor s data = c.refusal s e := by
  have hparse : parse data c.pattern { flags := c.flags, filePath := c.filePath } =
      .error (.compile e) := parse_error hcompile
  rw [outcomeFor, hparse]
  obtain ⟨fault, -, rfl⟩ | ⟨-, cause, place, rfl⟩ := h
  · rfl
  · rfl

theorem ParseCommand.outcomeFor_unbuildable
    (hcompile : Pattern.compile c.pattern c.flags = .error e)
    (h : Pattern.Unbuildable c.pattern c.flags e) :
    c.outcomeFor s data = (Failure.collect (.compile e)).outcome := by
  have hparse : parse data c.pattern { flags := c.flags, filePath := c.filePath } =
      .error (.compile e) := parse_error hcompile
  rw [outcomeFor, hparse]
  cases e with
  | invalid reason pattern flags => exact absurd rfl (h.not_invalid reason pattern flags)
  | alphabetsIncompatible => rfl
  | repeatTooLarge => rfl
  | codePointTooLarge => rfl
  | tooManyDigits digits => rfl

/-- A pattern that does not compile is refused as invalid, whatever the data, and a command that
reads its input ends with the status for that; or there is a stretch in it that exceeds what can be
built, or sets the alphabet that the flags do not, and the fault ends the command like any other. -/
theorem refused_pattern_reported {source flags : String}
    (h : Pattern.compile source flags = .error e) :
    (e.IsInvalid source flags ∨ Pattern.Unbuildable source flags e) ∧
    (∀ (data : String) (given : Value) (options : ParseOptions),
      ParseOptions.ofValue given = .ok options → options.flags = flags →
      (collect (.text data) (.text source) given).1 = .error (.compile e)) ∧
    ∀ (s : Surroundings) (args : List String) (c : ParseCommand) (data : String),
      Command.ofArguments args = .ok (.parse c) → c.pattern = source → c.flags = flags →
      c.inputText s = .ok data →
      (e.IsInvalid source flags → run s args = c.refusal s e ∧ (run s args).status = 2) ∧
      (Pattern.Unbuildable source flags e →
        run s args = { status := 1, failure := some (.collect (.compile e)) }) := by
  refine ⟨Pattern.compile_error h, fun data given options hoptions hflags => ?_,
    fun s args c data hargs hpattern hflags hinput => ?_⟩
  · rw [collect_text hoptions]
    exact parse_error (hflags ▸ h)
  · subst hpattern hflags
    have hrun : run s args = c.outcomeFor s data := by
      rw [run, hargs]
      exact c.run_eq hinput
    rw [hrun]
    refine ⟨fun hinvalid => ?_, fun hunbuildable => ?_⟩
    · rw [ParseCommand.outcomeFor_invalid h hinvalid]
      exact ⟨rfl, rfl⟩
    · rw [ParseCommand.outcomeFor_unbuildable h hunbuildable]
      rfl

/-- A group sets the other alphabet, but the text is no expression. -/
theorem refused_pattern_reported_unterminated :
    let s := Surroundings.holding [] [0x61]
    let e : Pattern.CompileError :=
      .invalid (.expression .unterminatedGroup (some 4)) "(?u)(" "i"
    Pattern.compile "(?u)(" "i" = .error e ∧
      (run s ["parse", "--flags", "i", "(?u)("]).status = 2 := by
  intro s e
  have hcompile : Pattern.compile "(?u)(" "i" = .error e := by decide +kernel
  have hargs : Command.ofArguments ["parse", "--flags", "i", "(?u)("] =
      .ok (.parse { pattern := "(?u)(", flags := "i" }) := by decide +kernel
  have hinvalid : e.IsInvalid "(?u)(" "i" := .inr ⟨by decide +kernel, _, _, rfl⟩
  exact ⟨hcompile, (((refused_pattern_reported hcompile).2.2 s _ _ _ hargs rfl rfl rfl).1
    hinvalid).2⟩

/-- Patterns that do not compile and are not refused as invalid, and how a command ends. -/
theorem refused_pattern_escapes :
    Pattern.compile "(?u)a" "" = .error .alphabetsIncompatible ∧
      Pattern.compile "a\x7b4294967295\x7d" "" = .error .repeatTooLarge ∧
      Pattern.compile "\\U80000000" "" = .error .codePointTooLarge ∧
      (run (Surroundings.holding [] [0x61]) ["parse", "(?u)a"]).status = 1 := by
  have hcompile : Pattern.compile "(?u)a" "" = .error .alphabetsIncompatible := by decide +kernel
  have hargs : Command.ofArguments ["parse", "(?u)a"] = .ok (.parse { pattern := "(?u)a" }) := by
    decide +kernel
  refine ⟨hcompile, by decide +kernel, by decide +kernel, ?_⟩
  rw [run, hargs]
  change (ParseCommand.outcomeFor _ { pattern := "(?u)a" } _).status = 1
  rw [ParseCommand.outcomeFor, parse_error hcompile]
  rfl

end CommandLine

end Linting
