import Linting.Proofs.Fallible
import Linting.Proofs.Number.Exact
import Linting.Proofs.Text.Boolean
import Linting.Settings

/-! Settings come from three variables that have nothing to do with each other: which texts of each
are taken, what each gives, and what is reported if several are bad. -/

namespace Linting.Settings
set_option autoImplicit false

variable {env : Environment} {name text : String} {s : Settings} {faults : List Fault}

/-! ## Texts of variables -/

/-- A text of white space only. -/
def IsBlankText (raw : String) : Prop := ∀ c ∈ raw.toList, Unicode.isBlank c.toNat = true

instance {raw : String} : Decidable (IsBlankText raw) :=
  decidable_of_iff (raw.toList.all (fun c => Unicode.isBlank c.toNat) = true) List.all_eq_true

/-- A text without the white space around it. -/
def core (raw : String) : String := String.ofList (Unicode.trim raw.toList)

/-- What a variable gives: a default if it is unset or blank, or else what its core is read as. -/
inductive Gives {α : Type} (reads : String → α → Prop) (default : α) :
    Option String → α → Prop where
  | unset : Gives reads default none default
  | blank {raw : String} (h : IsBlankText raw) : Gives reads default (some raw) default
  | core {raw : String} {value : α} (full : ¬ IsBlankText raw) (h : reads (core raw) value) :
    Gives reads default (some raw) value

/-- A variable is neither unset nor blank, and its core, which is this text, cannot be read. -/
def Unread {α : Type} (reads : String → α → Prop) (found : Option String) (text : String) :
    Prop :=
  ∃ raw, found = some raw ∧ ¬ IsBlankText raw ∧ core raw = text ∧ ∀ value, ¬ reads text value

def ReadsNumber (text : String) (timeout : Option Number.Binary64) : Prop :=
  ∃ x, Number.read? text.toList = some x ∧ timeout = some x

/-- A text is one of the words for a truth value, each letter of it small or a capital. -/
def ReadsBoolean (text : String) (b : Bool) : Prop :=
  ∃ word ∈ Text.wordsFor b, Text.IsWord text.toList word.toList

/-- A text that the names of directories can start with. -/
def IsPrefix (text : String) : Prop := text ≠ "" ∧ '/' ∉ text.toList

/-- A timeout is none, or a number at or above zero. -/
def IsTimeout (timeout : Option Number.Binary64) : Prop := ∀ x ∈ timeout, x.AtLeastZero

/-! ## Single variables -/

section
variable {α : Type} {reads : String → α → Prop} {read? : String → Option α} {default value : α}
  {bad : String → ConfigError} {e : ConfigError}

/-- Reads a variable, or takes a default if it is unset or blank. -/
def readWith (env : Environment) (name : String) (read? : String → Option α) (default : α)
    (bad : String → ConfigError) : Except ConfigError α :=
  match trimmed? env name with
  | none => .ok default
  | some text =>
    match read? text with
    | some value => .ok value
    | none => .error (bad text)

theorem trimmed?_cases (env : Environment) (name : String) :
    env.get? name = none ∧ trimmed? env name = none ∨
      ∃ raw, env.get? name = some raw ∧
        (IsBlankText raw ∧ trimmed? env name = none ∨
          ¬ IsBlankText raw ∧ trimmed? env name = some (core raw)) := by
  rw [trimmed?]
  cases hget : env.get? name with
  | none => exact .inl ⟨rfl, rfl⟩
  | some raw =>
    refine .inr ⟨raw, rfl, ?_⟩
    rw [IsBlankText, ← Unicode.trim_eq_nil_iff, Option.getD_some]
    by_cases hblank : Unicode.trim raw.toList = []
    · exact .inl ⟨hblank, by rw [hblank]; rfl⟩
    · exact .inr ⟨hblank, if_neg (by simpa using hblank)⟩

theorem readWith_eq_ok_iff
    (hread : ∀ raw value, read? (core raw) = some value ↔ reads (core raw) value) :
    readWith env name read? default bad = .ok value ↔
      Gives reads default (env.get? name) value := by
  rw [readWith]
  rcases trimmed?_cases env name with
    ⟨hget, htrim⟩ | ⟨raw, hget, ⟨hblank, htrim⟩ | ⟨hfull, htrim⟩⟩
  · rw [hget, htrim]
    constructor
    · rintro ⟨⟩
      exact .unset
    · rintro ⟨⟩
      rfl
  · rw [hget, htrim]
    constructor
    · rintro ⟨⟩
      exact .blank hblank
    · intro h
      cases h with
      | blank => rfl
      | core full => exact absurd hblank full
  · rw [hget, htrim]
    dsimp only
    constructor
    · intro h
      split at h
      · next hvalue =>
        cases h
        exact .core hfull ((hread raw value).mp hvalue)
      · cases h
    · intro h
      cases h with
      | blank h => exact absurd h hfull
      | core _ h => rw [(hread raw value).mpr h]

theorem readWith_eq_error_iff
    (hread : ∀ raw value, read? (core raw) = some value ↔ reads (core raw) value) :
    readWith env name read? default bad = .error e ↔
      ∃ text, Unread reads (env.get? name) text ∧ e = bad text := by
  rw [readWith]
  rcases trimmed?_cases env name with
    ⟨hget, htrim⟩ | ⟨raw, hget, ⟨hblank, htrim⟩ | ⟨hfull, htrim⟩⟩
  · rw [hget, htrim]
    refine iff_of_false nofun ?_
    rintro ⟨text, ⟨raw, hraw, -⟩, -⟩
    cases hraw
  · rw [hget, htrim]
    refine iff_of_false nofun ?_
    rintro ⟨text, ⟨other, hother, hfull, -⟩, -⟩
    cases hother
    exact hfull hblank
  · rw [hget, htrim]
    dsimp only
    constructor
    · intro h
      split at h
      · cases h
      · next hnone =>
        cases h
        refine ⟨core raw, ⟨raw, rfl, hfull, rfl, fun value hvalue => ?_⟩, rfl⟩
        rw [(hread raw value).mpr hvalue] at hnone
        cases hnone
    · rintro ⟨text, ⟨other, hother, -, rfl, hnever⟩, rfl⟩
      cases hother
      split
      · next value hvalue => exact absurd ((hread raw value).mp hvalue) (hnever value)
      · rfl

end

theorem readTimeout_eq (env : Environment) : readTimeout env =
    readWith env timeoutVariable (fun text => (Number.read? text.toList).map some) none
      .badNumber := by
  rw [readTimeout, readWith]
  cases trimmed? env timeoutVariable with
  | none => rfl
  | some text =>
    dsimp only
    cases Number.read? text.toList <;> rfl

theorem readNumber_iff (raw : String) (timeout : Option Number.Binary64) :
    (Number.read? (core raw).toList).map some = some timeout ↔ ReadsNumber (core raw) timeout := by
  rw [Option.map_eq_some_iff, ReadsNumber]
  simp only [eq_comm]

theorem readBoolean_iff (raw : String) (b : Bool) :
    Text.readBoolean? (core raw) = some b ↔ ReadsBoolean (core raw) b := by
  rw [Text.readBoolean?_eq_some_iff, ReadsBoolean, core, String.toList_ofList, Unicode.trim_trim]

theorem readCache_eq (env : Environment) :
    readCache env = readWith env cacheVariable Text.readBoolean? true .badBoolean := by
  rw [readCache, readWith]
  cases trimmed? env cacheVariable with
  | none => rfl
  | some text =>
    dsimp only
    cases Text.readBoolean? text <;> rfl

theorem readTimeout_eq_ok_iff {timeout : Option Number.Binary64} : readTimeout env = .ok timeout ↔
    Gives ReadsNumber none (env.get? timeoutVariable) timeout := by
  rw [readTimeout_eq]
  exact readWith_eq_ok_iff readNumber_iff

theorem readTimeout_eq_error_iff {e : ConfigError} : readTimeout env = .error e ↔
    ∃ text, Unread ReadsNumber (env.get? timeoutVariable) text ∧ e = .badNumber text := by
  rw [readTimeout_eq]
  exact readWith_eq_error_iff readNumber_iff

theorem readCache_eq_ok_iff {b : Bool} : readCache env = .ok b ↔
    Gives ReadsBoolean true (env.get? cacheVariable) b := by
  rw [readCache_eq]
  exact readWith_eq_ok_iff readBoolean_iff

theorem readCache_eq_error_iff {e : ConfigError} : readCache env = .error e ↔
    ∃ text, Unread ReadsBoolean (env.get? cacheVariable) text ∧ e = .badBoolean text := by
  rw [readCache_eq]
  exact readWith_eq_error_iff readBoolean_iff

/-! ## Conditions -/

theorem prefixFault?_eq_none_iff : prefixFault? text = none ↔ IsPrefix text := by
  rw [prefixFault?, IsPrefix, ← List.contains_iff_mem, ne_eq, ← String.isEmpty_iff]
  split
  · next h => exact iff_of_false nofun fun hstarts => hstarts.1 h
  · next h =>
    split
    · next hslash => exact iff_of_false nofun fun hstarts => hstarts.2 hslash
    · next hslash => exact iff_of_true rfl ⟨h, hslash⟩

theorem timeoutFault?_eq_none_iff {timeout : Option Number.Binary64} :
    timeoutFault? timeout = none ↔ IsTimeout timeout := by
  cases timeout with
  | none => exact iff_of_true rfl nofun
  | some x =>
    rw [timeoutFault?, IsTimeout]
    simp only [Option.mem_some_iff, forall_eq', ← Number.isNonnegative_iff]
    split
    · next h => exact iff_of_true rfl h
    · next h => exact iff_of_false nofun h

instance : Decidable (IsPrefix text) := inferInstanceAs (Decidable (text ≠ "" ∧ '/' ∉ text.toList))

instance {timeout : Option Number.Binary64} : Decidable (IsTimeout timeout) :=
  decidable_of_iff _ timeoutFault?_eq_none_iff

/-- The faults stand at the fields that fail, the prefix first. -/
theorem places_faults (s : Settings) : s.faults.map (·.place) =
    (if IsPrefix s.tempPrefix then [] else [[.key "temp_prefix"]]) ++
      if IsTimeout s.execTimeout then [] else [[.key "exec_timeout"]] := by
  simp only [← prefixFault?_eq_none_iff, ← timeoutFault?_eq_none_iff, faults]
  cases prefixFault? s.tempPrefix <;> cases timeoutFault? s.execTimeout <;> rfl

theorem faults_eq_nil_iff : s.faults = [] ↔ IsPrefix s.tempPrefix ∧ IsTimeout s.execTimeout := by
  rw [← List.map_eq_nil_iff (f := (·.place)), places_faults]
  by_cases hstarts : IsPrefix s.tempPrefix <;> by_cases htimeout : IsTimeout s.execTimeout <;>
    simp [hstarts, htimeout]

/-! ## All settings -/

/-- The prefix that the environment gives, as it stands there. -/
def givenPrefix (env : Environment) : String := (env.get? prefixVariable).getD "linterkit_"

/-- Settings are refused for their faults. -/
def checked (s : Settings) : Except ConfigError Settings :=
  if s.faults = [] then .ok s else .error (.faulty s.faults)

theorem checked_eq_ok_iff {s' : Settings} :
    checked s = .ok s' ↔ s' = s ∧ IsPrefix s.tempPrefix ∧ IsTimeout s.execTimeout := by
  rw [checked, ← faults_eq_nil_iff]
  split
  · next h => exact ⟨fun hs => ⟨(Except.ok.inj hs).symm, h⟩, fun ⟨hs, _⟩ => congrArg _ hs.symm⟩
  · next h => exact iff_of_false nofun fun hs => h hs.2

theorem checked_eq_error_iff {e : ConfigError} : checked s = .error e ↔
    ¬ (IsPrefix s.tempPrefix ∧ IsTimeout s.execTimeout) ∧ e = .faulty s.faults := by
  rw [checked, ← faults_eq_nil_iff]
  split
  · next h => exact iff_of_false nofun fun hs => hs.1 h
  · next h => exact ⟨fun he => ⟨h, (Except.error.inj he).symm⟩, fun ⟨_, he⟩ => congrArg _ he.symm⟩

theorem load_eq (env : Environment) : load env = (readTimeout env >>= fun timeout =>
    readCache env >>= fun b => checked ⟨givenPrefix env, timeout, b⟩) := by
  rw [load]
  cases readTimeout env with
  | error e => rfl
  | ok timeout =>
    cases readCache env with
    | error e => rfl
    | ok b =>
      change _ = checked _
      rw [checked]
      simp only [List.isEmpty_iff]
      rfl

theorem load_eq_ok_iff : load env = .ok s ↔ s.tempPrefix = givenPrefix env ∧
    Gives ReadsNumber none (env.get? timeoutVariable) s.execTimeout ∧
    Gives ReadsBoolean true (env.get? cacheVariable) s.findCacheEnabled ∧
    IsPrefix s.tempPrefix ∧ IsTimeout s.execTimeout := by
  simp only [load_eq, bind_eq_ok_iff, readTimeout_eq_ok_iff, readCache_eq_ok_iff,
    checked_eq_ok_iff]
  constructor
  · rintro ⟨timeout, htimeout, b, hcache, rfl, hvalid⟩
    exact ⟨rfl, htimeout, hcache, hvalid⟩
  · rintro ⟨hstarts, htimeout, hcache, hvalid⟩
    refine ⟨s.execTimeout, htimeout, s.findCacheEnabled, hcache, ?_⟩
    rw [← hstarts]
    exact ⟨rfl, hvalid⟩

/-- What is reported: an unread timeout, or else an unread truth value, or else the faults. -/
theorem load_eq_error_iff {e : ConfigError} : load env = .error e ↔
    (∃ text, Unread ReadsNumber (env.get? timeoutVariable) text ∧ e = .badNumber text) ∨
    ∃ timeout, Gives ReadsNumber none (env.get? timeoutVariable) timeout ∧
      ((∃ text, Unread ReadsBoolean (env.get? cacheVariable) text ∧ e = .badBoolean text) ∨
      ∃ b, Gives ReadsBoolean true (env.get? cacheVariable) b ∧
        ¬ (IsPrefix (givenPrefix env) ∧ IsTimeout timeout) ∧
        e = .faulty (⟨givenPrefix env, timeout, b⟩ : Settings).faults) := by
  simp only [load_eq, bind_eq_error_iff, readTimeout_eq_ok_iff, readCache_eq_ok_iff,
    readTimeout_eq_error_iff, readCache_eq_error_iff, checked_eq_error_iff]

theorem trimmed?_congr {env' : Environment} (h : env'.get? name = env.get? name) :
    trimmed? env' name = trimmed? env name := by
  rw [trimmed?, h, trimmed?]

theorem readTimeout_congr {env' : Environment}
    (h : env'.get? timeoutVariable = env.get? timeoutVariable) :
    readTimeout env' = readTimeout env := by
  rw [readTimeout, trimmed?_congr h, readTimeout]

theorem readCache_congr {env' : Environment}
    (h : env'.get? cacheVariable = env.get? cacheVariable) : readCache env' = readCache env := by
  rw [readCache, trimmed?_congr h, readCache]

theorem givenPrefix_isPrefix_iff :
    IsPrefix (givenPrefix env) ↔ ∀ text ∈ env.get? prefixVariable, IsPrefix text := by
  rw [givenPrefix]
  cases env.get? prefixVariable with
  | none => exact iff_of_true (by decide) nofun
  | some text => simp

theorem exists_load_iff : (∃ s, load env = .ok s) ↔
    (∀ text ∈ env.get? prefixVariable, IsPrefix text) ∧
      (∃ timeout, Gives ReadsNumber none (env.get? timeoutVariable) timeout ∧ IsTimeout timeout) ∧
      ∃ b, Gives ReadsBoolean true (env.get? cacheVariable) b := by
  rw [← givenPrefix_isPrefix_iff]
  constructor
  · rintro ⟨s, hs⟩
    obtain ⟨hstarts, htimeout, hcache, hvalid, hnonneg⟩ := load_eq_ok_iff.mp hs
    exact ⟨hstarts ▸ hvalid, ⟨_, htimeout, hnonneg⟩, _, hcache⟩
  · rintro ⟨hvalid, ⟨timeout, htimeout, hnonneg⟩, b, hcache⟩
    exact ⟨⟨givenPrefix env, timeout, b⟩,
      load_eq_ok_iff.mpr ⟨rfl, htimeout, hcache, hvalid, hnonneg⟩⟩

/-- Each field comes from its own variable. -/
theorem fields_of_load {env' : Environment} {s' : Settings} (h : load env = .ok s)
    (h' : load env' = .ok s') :
    (env'.get? prefixVariable = env.get? prefixVariable → s'.tempPrefix = s.tempPrefix) ∧
      (env'.get? timeoutVariable = env.get? timeoutVariable → s'.execTimeout = s.execTimeout) ∧
      (env'.get? cacheVariable = env.get? cacheVariable →
        s'.findCacheEnabled = s.findCacheEnabled) := by
  obtain ⟨hstarts, htimeout, hcache, -⟩ := load_eq_ok_iff.mp h
  obtain ⟨hstarts', htimeout', hcache', -⟩ := load_eq_ok_iff.mp h'
  rw [← readTimeout_eq_ok_iff] at htimeout htimeout'
  rw [← readCache_eq_ok_iff] at hcache hcache'
  refine ⟨fun heq => ?_, fun heq => ?_, fun heq => ?_⟩
  · rw [hstarts, hstarts', givenPrefix, heq, givenPrefix]
  · rw [readTimeout_congr heq] at htimeout'
    exact Except.ok.inj (htimeout'.symm.trans htimeout)
  · rw [readCache_congr heq] at hcache'
    exact Except.ok.inj (hcache'.symm.trans hcache)

theorem load_congr {env' : Environment}
    (hstarts : env'.get? prefixVariable = env.get? prefixVariable)
    (htimeout : env'.get? timeoutVariable = env.get? timeoutVariable)
    (hcache : env'.get? cacheVariable = env.get? cacheVariable) : load env' = load env := by
  rw [load_eq, load_eq, readTimeout_congr htimeout, readCache_congr hcache, givenPrefix, hstarts,
    givenPrefix]

theorem load_eq_badNumber_iff : load env = .error (.badNumber text) ↔
    Unread ReadsNumber (env.get? timeoutVariable) text := by
  rw [load_eq_error_iff]
  constructor
  · rintro (⟨other, hother, he⟩ | ⟨timeout, -, ⟨_, -, he⟩ | ⟨_, -, -, he⟩⟩) <;> cases he
    exact hother
  · exact fun h => .inl ⟨text, h, rfl⟩

theorem load_eq_badBoolean_iff : load env = .error (.badBoolean text) ↔
    (∃ timeout, Gives ReadsNumber none (env.get? timeoutVariable) timeout) ∧
      Unread ReadsBoolean (env.get? cacheVariable) text := by
  rw [load_eq_error_iff]
  constructor
  · rintro (⟨_, -, he⟩ | ⟨timeout, htimeout, ⟨other, hother, he⟩ | ⟨_, -, -, he⟩⟩) <;> cases he
    exact ⟨⟨timeout, htimeout⟩, hother⟩
  · rintro ⟨⟨timeout, htimeout⟩, h⟩
    exact .inr ⟨timeout, htimeout, .inl ⟨text, h, rfl⟩⟩

theorem load_eq_faulty_iff : load env = .error (.faulty faults) ↔
    ∃ timeout b, Gives ReadsNumber none (env.get? timeoutVariable) timeout ∧
      Gives ReadsBoolean true (env.get? cacheVariable) b ∧
      ¬ ((∀ text ∈ env.get? prefixVariable, IsPrefix text) ∧ IsTimeout timeout) ∧
      faults = (⟨givenPrefix env, timeout, b⟩ : Settings).faults := by
  rw [load_eq_error_iff, givenPrefix_isPrefix_iff]
  constructor
  · rintro (⟨_, -, he⟩ | ⟨timeout, htimeout, ⟨_, -, he⟩ | ⟨b, hcache, hbad, he⟩⟩) <;> cases he
    exact ⟨timeout, b, htimeout, hcache, hbad, rfl⟩
  · rintro ⟨timeout, b, htimeout, hcache, hbad, rfl⟩
    exact .inr ⟨timeout, htimeout, .inr ⟨b, hcache, hbad, rfl⟩⟩

/-! ## Main statement -/

/-- Settings can be loaded exactly if each of the three variables has a text that it may have. Each
field is what its own variable gives, and no other variable counts. Else an unread number is
reported, or a bad truth value if there is none, or else the fields that fail, and no others. -/
theorem load_from_three_variables (env : Environment) :
    let prefixText := env.get? prefixVariable
    let timeoutText := env.get? timeoutVariable
    let cacheText := env.get? cacheVariable
    ((∃ s, load env = .ok s) ↔ (∀ text ∈ prefixText, IsPrefix text) ∧
      (∃ timeout, Gives ReadsNumber none timeoutText timeout ∧ IsTimeout timeout) ∧
      ∃ b, Gives ReadsBoolean true cacheText b) ∧
    (∀ s, load env = .ok s → s.tempPrefix = prefixText.getD "linterkit_" ∧
      Gives ReadsNumber none timeoutText s.execTimeout ∧
      Gives ReadsBoolean true cacheText s.findCacheEnabled ∧
      IsPrefix s.tempPrefix ∧ IsTimeout s.execTimeout) ∧
    (∀ env' s s', load env = .ok s → load env' = .ok s' →
      (env'.get? prefixVariable = prefixText → s'.tempPrefix = s.tempPrefix) ∧
      (env'.get? timeoutVariable = timeoutText → s'.execTimeout = s.execTimeout) ∧
      (env'.get? cacheVariable = cacheText → s'.findCacheEnabled = s.findCacheEnabled)) ∧
    (∀ env' : Environment, env'.get? prefixVariable = prefixText →
      env'.get? timeoutVariable = timeoutText → env'.get? cacheVariable = cacheText →
      load env' = load env) ∧
    (∀ text, load env = .error (.badNumber text) ↔ Unread ReadsNumber timeoutText text) ∧
    (∀ text, load env = .error (.badBoolean text) ↔
      (∃ timeout, Gives ReadsNumber none timeoutText timeout) ∧
        Unread ReadsBoolean cacheText text) ∧
    ((∃ faults, load env = .error (.faulty faults)) ↔
      ∃ timeout, Gives ReadsNumber none timeoutText timeout ∧
        (∃ b, Gives ReadsBoolean true cacheText b) ∧
        ¬ ((∀ text ∈ prefixText, IsPrefix text) ∧ IsTimeout timeout)) ∧
    ∀ faults timeout, load env = .error (.faulty faults) →
      Gives ReadsNumber none timeoutText timeout →
      faults.map (·.place) =
        (if ∀ text ∈ prefixText, IsPrefix text then [] else [[.key "temp_prefix"]]) ++
          if IsTimeout timeout then [] else [[.key "exec_timeout"]] := by
  intro prefixText timeoutText cacheText
  refine ⟨exists_load_iff, fun s hs => load_eq_ok_iff.mp hs,
    fun env' s s' hs hs' => fields_of_load hs hs', fun env' hstarts htimeout hcache =>
      load_congr hstarts htimeout hcache, fun text => load_eq_badNumber_iff,
    fun text => load_eq_badBoolean_iff, ?_, fun faults timeout hfaults htimeout => ?_⟩
  · simp only [load_eq_faulty_iff]
    constructor
    · rintro ⟨faults, timeout, b, htimeout, hcache, hbad, -⟩
      exact ⟨timeout, htimeout, ⟨b, hcache⟩, hbad⟩
    · rintro ⟨timeout, htimeout, ⟨b, hcache⟩, hbad⟩
      exact ⟨_, timeout, b, htimeout, hcache, hbad, rfl⟩
  · obtain ⟨other, b, hother, -, -, rfl⟩ := load_eq_faulty_iff.mp hfaults
    rw [← readTimeout_eq_ok_iff] at htimeout hother
    obtain rfl := Except.ok.inj (htimeout.symm.trans hother)
    rw [places_faults]
    simp only [givenPrefix_isPrefix_iff]
    rfl

/-- A prefix with a slash, and a timeout below zero with white space around it. -/
theorem load_from_three_variables_both :
    let env : Environment := [("LINTERKIT_TEMP_PREFIX", "a/b"), ("LINTERKIT_EXEC_TIMEOUT", " -1\n")]
    ∃ faults, load env = .error (.faulty faults) ∧
      faults.map (·.place) = [[.key "temp_prefix"], [.key "exec_timeout"]] := by
  intro env
  obtain ⟨-, -, -, -, -, -, hfaulty, hplaces⟩ := load_from_three_variables env
  have htimeout : Gives ReadsNumber none (env.get? timeoutVariable)
      (some (.finite true Number.Binary64.unitsPerOne)) :=
    .core (by decide +kernel) ⟨_, by decide +kernel, rfl⟩
  obtain ⟨faults, hfaults⟩ := hfaulty.mpr ⟨_, htimeout, ⟨true, .unset⟩, by decide +kernel⟩
  exact ⟨faults, hfaults, (hplaces faults _ hfaults htimeout).trans (by decide +kernel)⟩

end Linting.Settings
