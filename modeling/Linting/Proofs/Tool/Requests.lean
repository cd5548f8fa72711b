import Linting.Proofs.Settings.FirstUse
import Linting.Proofs.Tool.Success
import Linting.Proofs.Value.Parts

/-! Requests to run a tool: which ones are carried out, what is said of the others, and what starts.
A request that is refused, or whose executable is not found, starts nothing and changes nothing; any
other starts one process at most, and that is the executable with the arguments as they were
given. -/

namespace Linting.Tool
set_option autoImplicit false

/-! ## Checked requests -/

namespace Request

/-- A text that is not empty. -/
def IsCommand (v : Value) : Prop := ∃ name, v = .text name ∧ name ≠ ""

/-- A list or a tuple that holds texts and nothing else. -/
inductive Lists : Value → List String → Prop where
  | list (texts : List String) : Lists (.list (texts.map .text)) texts
  | tuple (texts : List String) : Lists (.tuple (texts.map .text)) texts

/-- One of the three names. -/
def NamesStream (v : Value) : Prop := v = .text "stdout" ∨ v = .text "stderr" ∨ v = .text "both"

variable {command args wanted : Value} {r : Request} {e : RequestError} {texts : List String}

theorem lists_iff :
    Lists args texts ↔ ∃ items, args.items? = some items ∧ Value.texts? items = some texts := by
  simp only [Value.texts?_eq_some_iff]
  constructor
  · rintro (_ | _)
    · exact ⟨_, rfl, rfl⟩
    · exact ⟨_, rfl, rfl⟩
  · rintro ⟨items, hitems, rfl⟩
    cases args with
    | list items =>
      cases hitems
      exact .list texts
    | tuple items =>
      cases hitems
      exact .tuple texts
    | _ => cases hitems

theorem namesStream_iff : NamesStream wanted ↔ ∃ stream : Stream, wanted = .text stream.name := by
  constructor
  · rintro (h | h | h)
    · exact ⟨.output, h⟩
    · exact ⟨.error, h⟩
    · exact ⟨.both, h⟩
  · rintro ⟨stream, h⟩
    cases stream with
    | output => exact .inl h
    | error => exact .inr (.inl h)
    | both => exact .inr (.inr h)

/-- A request that asks for what it should. -/
def IsWellFormed (command args wanted : Value) : Prop :=
  IsCommand command ∧ (∃ texts, Lists args texts) ∧ NamesStream wanted

theorem exists_check_iff :
    (∃ r, check command args wanted = .ok r) ↔ IsWellFormed command args wanted := by
  simp only [check_eq_ok_iff, ← lists_iff, IsWellFormed, namesStream_iff]
  constructor
  · rintro ⟨r, ⟨hcommand, hfull⟩, hargs, hwanted⟩
    exact ⟨⟨r.command, hcommand, hfull⟩, ⟨r.args, hargs⟩, r.stream, hwanted⟩
  · rintro ⟨⟨name, hcommand, hfull⟩, ⟨texts, hargs⟩, stream, hwanted⟩
    exact ⟨⟨name, texts, stream⟩, ⟨hcommand, hfull⟩, hargs, hwanted⟩

/-! ## Requests that are refused -/

/-- What is said of a request, by the first part of it that is not as it should be. A stream that
cannot be a key is not looked up at all, and one that cannot be shown is not told. -/
inductive Reports (command args wanted : Value) : RequestError → Prop where
  | command (other : ¬ IsCommand command) : Reports command args wanted (.refused .command)
  | args (named : IsCommand command) (other : args.items? = none) :
    Reports command args wanted (.refused .args)
  | entry {items : List Value} {v : Value} (named : IsCommand command)
    (sequence : args.items? = some items) (mem : v ∈ items) (other : ∀ s, v ≠ .text s) :
    Reports command args wanted (.refused .entry)
  | barred {part : Value} (named : IsCommand command) (listed : ∃ texts, Lists args texts)
    (bars : Value.Bars part wanted) : Reports command args wanted (.unhashable ⟨part.kind⟩)
  | shown (named : IsCommand command) (listed : ∃ texts, Lists args texts)
    (key : ∀ part, ¬ Value.Bars part wanted) (other : ¬ NamesStream wanted)
    (short : ¬ wanted.HoldsUnwritable) :
    Reports command args wanted (.refused (.stream wanted.shown))
  | unwritable (named : IsCommand command) (listed : ∃ texts, Lists args texts)
    (key : ∀ part, ¬ Value.Bars part wanted) (long : wanted.HoldsUnwritable) :
    Reports command args wanted .unwritable

theorem isCommand_of_checkCommand {name : String} (h : checkCommand command = .ok name) :
    IsCommand command := ⟨name, checkCommand_eq_ok_iff.mp h⟩

theorem checkCommand_eq_error {fault : RequestFault} (h : checkCommand command = .error fault) :
    ¬ IsCommand command ∧ fault = .command := by
  constructor
  · rintro ⟨name, hname⟩
    rw [checkCommand_eq_ok_iff.mpr hname] at h
    cases h
  · cases command with
    | text s =>
      rw [checkCommand] at h
      split at h
      · exact (Except.error.inj h).symm
      · cases h
    | _ => exact (Except.error.inj h).symm

theorem checkItems_eq_error_iff {fault : RequestFault} :
    checkItems args = .error fault ↔ args.items? = none ∧ fault = .args := by
  rw [checkItems]
  cases args.items? <;> simp [eq_comm]

theorem checkEntries_eq_error_iff {items : List Value} {fault : RequestFault} :
    checkEntries items = .error fault ↔ (∃ v ∈ items, ∀ s, v ≠ .text s) ∧ fault = .entry := by
  rw [checkEntries, ← Value.texts?_eq_none_iff]
  cases Value.texts? items <;> simp [eq_comm]

theorem checkStream_eq_error (h : checkStream wanted = .error e) :
    ((∃ part, Value.Bars part wanted ∧ e = .unhashable ⟨part.kind⟩) ∨
    (∀ part, ¬ Value.Bars part wanted) ∧ ¬ NamesStream wanted ∧
      (¬ wanted.HoldsUnwritable ∧ e = .refused (.stream wanted.shown) ∨
        wanted.HoldsUnwritable ∧ e = .unwritable)) := by
  have hother : ¬ NamesStream wanted := by
    rw [namesStream_iff]
    rintro ⟨stream, hstream⟩
    rw [checkStream_eq_ok_iff.mpr hstream] at h
    cases h
  rw [checkStream] at h
  split at h
  · next found _ hfound =>
    obtain rfl := Except.error.inj h
    obtain ⟨part, hpart, rfl⟩ := Value.bars_of_unhashable? wanted hfound
    exact .inl ⟨part, hpart, rfl⟩
  · cases h
  · next hkey _ =>
    obtain rfl := Except.error.inj h
    refine .inr ⟨Value.unhashable?_eq_none_iff.mp hkey, hother, ?_⟩
    cases hshowable : wanted.isShowable with
    | true =>
      refine .inl ⟨fun hlong => ?_, rfl⟩
      rw [(Value.isShowable_eq_false_iff wanted).mpr hlong] at hshowable
      cases hshowable
    | false => exact .inr ⟨(Value.isShowable_eq_false_iff wanted).mp hshowable, rfl⟩

theorem reports_of_check (h : check command args wanted = .error e) :
    Reports command args wanted e := by
  rw [check] at h
  rcases bind_eq_error_iff.mp h with h | ⟨name, hname, h⟩
  · obtain ⟨fault, hfault, rfl⟩ := mapError_eq_error_iff.mp h
    obtain ⟨hother, rfl⟩ := checkCommand_eq_error hfault
    exact .command hother
  have hnamed := isCommand_of_checkCommand (mapError_eq_ok_iff.mp hname)
  rcases bind_eq_error_iff.mp h with h | ⟨items, hitems, h⟩
  · obtain ⟨fault, hfault, rfl⟩ := mapError_eq_error_iff.mp h
    obtain ⟨hother, rfl⟩ := checkItems_eq_error_iff.mp hfault
    exact .args hnamed hother
  have hsequence := checkItems_eq_ok_iff.mp (mapError_eq_ok_iff.mp hitems)
  rcases bind_eq_error_iff.mp h with h | ⟨texts, htexts, h⟩
  · obtain ⟨fault, hfault, rfl⟩ := mapError_eq_error_iff.mp h
    obtain ⟨⟨v, hv, hother⟩, rfl⟩ := checkEntries_eq_error_iff.mp hfault
    exact .entry hnamed hsequence hv hother
  have hlisted : ∃ texts, Lists args texts :=
    ⟨texts, lists_iff.mpr
      ⟨items, hsequence, checkEntries_eq_ok_iff.mp (mapError_eq_ok_iff.mp htexts)⟩⟩
  rcases bind_eq_error_iff.mp h with h | ⟨stream, -, h⟩
  · rcases checkStream_eq_error h with
      ⟨part, hpart, rfl⟩ | ⟨hkey, hother, ⟨hshort, rfl⟩ | ⟨hlong, rfl⟩⟩
    · exact .barred hnamed hlisted hpart
    · exact .shown hnamed hlisted hkey hother hshort
    · exact .unwritable hnamed hlisted hkey hlong
  · cases h

/-- The request is as it should be up to its stream, which cannot be a key. -/
def IsBarred (command args wanted : Value) : Prop :=
  IsCommand command ∧ (∃ texts, Lists args texts) ∧ ∃ part, Value.Bars part wanted

/-- The request is as it should be up to its stream, which cannot be shown. -/
def IsUntold (command args wanted : Value) : Prop :=
  IsCommand command ∧ (∃ texts, Lists args texts) ∧ (∀ part, ¬ Value.Bars part wanted) ∧
    wanted.HoldsUnwritable

theorem exists_check_error_iff :
    (∃ e, check command args wanted = .error e) ↔ ¬ IsWellFormed command args wanted := by
  rw [← exists_check_iff]
  cases check command args wanted <;> simp

theorem check_of_wellFormed {name : String} (h : IsWellFormed command args wanted)
    (hcommand : command = .text name) (hlisted : Lists args texts) :
    ∃ stream, check command args wanted = .ok ⟨name, texts, stream⟩ := by
  obtain ⟨⟨other, hother, hfull⟩, -, hnames⟩ := h
  obtain rfl := Value.text.inj (hcommand.symm.trans hother)
  obtain ⟨stream, hstream⟩ := namesStream_iff.mp hnames
  exact ⟨stream, check_eq_ok_iff.mpr ⟨⟨hcommand, hfull⟩, lists_iff.mp hlisted, hstream⟩⟩

theorem Lists.entries {items : List Value} (h : Lists args texts)
    (hitems : args.items? = some items) : ∀ v ∈ items, ∃ s, v = .text s := by
  obtain ⟨others, hothers, htexts⟩ := lists_iff.mp h
  obtain rfl := Option.some.inj (hitems.symm.trans hothers)
  rw [Value.texts?_eq_some_iff.mp htexts]
  rintro v hv
  obtain ⟨s, -, rfl⟩ := List.mem_map.mp hv
  exact ⟨s, rfl⟩

/-- A fault is told only if the stream is not reached, or can be told itself. -/
theorem Reports.of_refused {fault : RequestFault}
    (h : Reports command args wanted (.refused fault)) :
    ¬ IsBarred command args wanted ∧ ¬ IsUntold command args wanted := by
  have hstop (hreached : ¬ (IsCommand command ∧ ∃ texts, Lists args texts)) :
      ¬ IsBarred command args wanted ∧ ¬ IsUntold command args wanted :=
    ⟨fun ⟨hnamed, hlisted, _⟩ => hreached ⟨hnamed, hlisted⟩,
      fun ⟨hnamed, hlisted, _⟩ => hreached ⟨hnamed, hlisted⟩⟩
  cases h with
  | command hother => exact hstop fun ⟨hnamed, _⟩ => hother hnamed
  | args _ hother =>
    refine hstop fun ⟨_, texts, hlisted⟩ => ?_
    obtain ⟨items, hitems, -⟩ := lists_iff.mp hlisted
    rw [hother] at hitems
    cases hitems
  | entry _ hsequence hmem hother =>
    refine hstop fun ⟨_, texts, hlisted⟩ => ?_
    obtain ⟨s, hs⟩ := hlisted.entries hsequence _ hmem
    exact hother s hs
  | shown _ _ hkey _ hshort =>
    exact ⟨fun ⟨_, _, part, hpart⟩ => hkey part hpart, fun ⟨_, _, _, hlong⟩ => hshort hlong⟩

theorem exists_refused_iff :
    (∃ fault, check command args wanted = .error (.refused fault)) ↔
      ¬ IsWellFormed command args wanted ∧ ¬ IsBarred command args wanted ∧
        ¬ IsUntold command args wanted := by
  constructor
  · rintro ⟨fault, h⟩
    exact ⟨exists_check_error_iff.mp ⟨_, h⟩, (reports_of_check h).of_refused⟩
  · rintro ⟨hbad, hbarred, huntold⟩
    obtain ⟨e, he⟩ := exists_check_error_iff.mpr hbad
    cases reports_of_check he with
    | barred hnamed hlisted hbars => exact absurd ⟨hnamed, hlisted, _, hbars⟩ hbarred
    | unwritable hnamed hlisted hkey hlong => exact absurd ⟨hnamed, hlisted, hkey, hlong⟩ huntold
    | _ => exact ⟨_, he⟩

end Request

/-! ## Executables -/

/-- Which file a command is. An absolute path is the file itself; any other name is the first of its
places that is an executable file. -/
inductive Resolves (executable : String → Bool) (env : Environment) (command : String) :
    String → Prop where
  | absolute (root : (Path.ofString command).isAbsolute = true) :
    Resolves executable env command (Path.ofString command).toString
  | found {before after : List String} {place : String}
    (relative : (Path.ofString command).isAbsolute = false) (named : Path.hasNull command = false)
    (split : places env command = before ++ place :: after) (here : executable place = true)
    (first : ∀ other ∈ before, executable other = false) :
    Resolves executable env command place

section
variable {executable : String → Bool} {env : Environment} {name head : String}

theorem executable?_eq_some_iff :
    executable? executable env name = some head ↔ Resolves executable env name head := by
  rw [executable?]
  constructor
  · intro h
    split at h
    · next hroot =>
      obtain rfl := Option.some.inj h
      exact .absolute hroot
    · next hrelative =>
      split at h
      · cases h
      · next hnamed =>
        obtain ⟨hhere, before, after, hsplit, hfirst⟩ := List.find?_eq_some_iff_append.mp h
        refine .found (Bool.eq_false_iff.mpr hrelative) (Bool.eq_false_iff.mpr hnamed) hsplit hhere
          fun other hother => ?_
        simpa using hfirst other hother
  · intro h
    cases h with
    | absolute hroot => exact if_pos hroot
    | found hrelative hnamed hsplit hhere hfirst =>
      rw [if_neg (by simp [hrelative]), if_neg (by simp [hnamed])]
      refine List.find?_eq_some_iff_append.mpr ⟨hhere, _, _, hsplit, fun other hother => ?_⟩
      simpa using hfirst other hother

theorem executable?_eq_none_iff :
    executable? executable env name = none ↔ ∀ head, ¬ Resolves executable env name head := by
  simp only [Option.eq_none_iff_forall_ne_some, ne_eq, executable?_eq_some_iff]

end

/-! ## What starts -/

section
variable {σ : Type} {start : Launch → σ → Except LaunchError Ended × σ}
  {executable : String → Bool} {env : Environment} {kept : Settings.Kept} {state : σ}
  {request : Except RequestError Request} {options : Options} {past : List Launch}
  {r : Request} {head : String}

/-- Processes that are noted in the order in which they start. -/
def noting (start : Launch → σ → Except LaunchError Ended × σ) (launch : Launch)
    (noted : σ × List Launch) : Except LaunchError Ended × (σ × List Launch) :=
  let (ended, state) := start launch noted.1
  (ended, state, noted.2 ++ [launch])

/-- The processes that a request starts. -/
def launches (executable : String → Bool) (env : Environment) (kept : Settings.Kept)
    (request : Except RequestError Request) (options : Options) : List Launch :=
  match (prepare executable env kept request options).1 with
  | .ok (_, launch) => [launch]
  | .error _ => []

/-- Noting what starts changes nothing else. -/
theorem run_noting :
    run (noting start) executable env kept (state, past) request options =
      let ended := run start executable env kept state request options
      (ended.1, ended.2.1, ended.2.2, past ++ launches executable env kept request options) := by
  rw [run, run, launches]
  rcases prepare executable env kept request options with ⟨e | ⟨stream, launch⟩, kept'⟩
  · simp
  · simp only [noting]
    rcases start launch state with ⟨e | ended, state'⟩ <;> rfl

/-- Nothing is started for a request that is not prepared. -/
theorem run_of_prepare_error (start : Launch → σ → Except LaunchError Ended × σ) (state : σ)
    {e : RunError} {kept' : Settings.Kept}
    (h : prepare executable env kept request options = (.error e, kept')) :
    run start executable env kept state request options = (.error e, kept', state) ∧
      launches executable env kept request options = [] := by
  constructor
  · rw [run, h]
  · rw [launches, h]

theorem prepare_of_refused {e : RequestError} :
    prepare executable env kept (.error e) options = (.error (.request e), kept) := rfl

theorem prepare_of_missing (h : executable? executable env r.command = none) :
    prepare executable env kept (.ok r) options = (.error (.notOnPath r.command), kept) := by
  simp only [prepare, Request.argv?, h]

/-- A request whose executable is found starts it with the arguments as given, unless it says no
time itself and the settings that do are bad. -/
theorem prepare_of_found (kept : Settings.Kept) (options : Options)
    (h : executable? executable env r.command = some head) :
    (∀ e, options.timeout = none → kept = none → Settings.load env = .error e →
      prepare executable env kept (.ok r) options = (.error (.settings e), none)) ∧
    ((∀ e, ¬ (options.timeout = none ∧ kept = none ∧ Settings.load env = .error e)) →
      ∃ launch kept', prepare executable env kept (.ok r) options =
        (.ok (r.stream, launch), kept') ∧ launch.argv = head :: r.args) := by
  constructor
  · rintro e htimeout rfl hload
    simp only [prepare, Request.argv?, h, htimeout, Settings.get, hload]
  · intro hgood
    simp only [prepare, Request.argv?, h]
    cases htimeout : options.timeout with
    | some limit => exact ⟨_, _, rfl, rfl⟩
    | none =>
      cases kept with
      | some settings => exact ⟨_, _, rfl, rfl⟩
      | none =>
        cases hload : Settings.load env with
        | error e => exact absurd ⟨htimeout, rfl, hload⟩ (hgood e)
        | ok settings =>
          simp only [Settings.get, hload]
          exact ⟨_, _, rfl, rfl⟩

/-- What a request starts whose executable is found. -/
theorem starts_of_found (start : Launch → σ → Except LaunchError Ended × σ) (state : σ)
    (kept : Settings.Kept) (options : Options)
    (h : executable? executable env r.command = some head) :
    (∀ e, options.timeout = none → kept = none → Settings.load env = .error e →
      run start executable env kept state (.ok r) options = (.error (.settings e), none, state) ∧
        launches executable env kept (.ok r) options = []) ∧
    ((∀ e, ¬ (options.timeout = none ∧ kept = none ∧ Settings.load env = .error e)) →
      ∃ launch, launches executable env kept (.ok r) options = [launch] ∧
        launch.argv = head :: r.args) := by
  obtain ⟨hbad, hgood⟩ := prepare_of_found kept options h
  refine ⟨fun e htimeout hkept hload => ?_, fun hsettings => ?_⟩
  · exact run_of_prepare_error start state (hbad e htimeout hkept hload)
  · obtain ⟨launch, kept', hlaunch, hargv⟩ := hgood hsettings
    refine ⟨launch, ?_, hargv⟩
    rw [launches, hlaunch]

theorem error_of_found {x : RunError} (h : executable? executable env r.command = some head)
    (hx : (run start executable env kept state (.ok r) options).1 = .error x) :
    (∃ e, x = .settings e) ∨ (∃ e, x = .launch e) ∨ ∃ f, x = .failed f := by
  obtain ⟨hbad, hgood⟩ := prepare_of_found kept options h
  by_cases hload : ∃ e, options.timeout = none ∧ kept = none ∧ Settings.load env = .error e
  · obtain ⟨e, htimeout, hkept, he⟩ := hload
    rw [(run_of_prepare_error start state (hbad e htimeout hkept he)).1] at hx
    exact .inl ⟨e, (Except.error.inj hx).symm⟩
  · obtain ⟨launch, kept', hprepared, -⟩ := hgood (not_exists.mp hload)
    rw [run, hprepared] at hx
    rcases hstart : start launch state with ⟨e | ended, state'⟩
    · simp only [hstart] at hx
      exact .inr (.inl ⟨e, (Except.error.inj hx).symm⟩)
    · simp only [hstart] at hx
      obtain ⟨f, -, rfl⟩ := mapError_eq_error_iff.mp hx
      exact .inr (.inr ⟨f, rfl⟩)

theorem run_eq_request_iff {e : RequestError} :
    (run start executable env kept state request options).1 = .error (.request e) ↔
      request = .error e := by
  cases request with
  | error found =>
    rw [(run_of_prepare_error start state prepare_of_refused).1]
    simp
  | ok r =>
    refine iff_of_false (fun hx => ?_) nofun
    cases hhead : executable? executable env r.command with
    | none =>
      rw [(run_of_prepare_error start state (prepare_of_missing hhead)).1] at hx
      cases hx
    | some head => rcases error_of_found hhead hx with ⟨_, h⟩ | ⟨_, h⟩ | ⟨_, h⟩ <;> cases h

theorem run_eq_notOnPath_iff {name : String} :
    (run start executable env kept state request options).1 = .error (.notOnPath name) ↔
      ∃ r, request = .ok r ∧ r.command = name ∧ executable? executable env name = none := by
  cases request with
  | error found =>
    rw [(run_of_prepare_error start state prepare_of_refused).1]
    simp
  | ok r =>
    cases hhead : executable? executable env r.command with
    | none =>
      rw [(run_of_prepare_error start state (prepare_of_missing hhead)).1]
      constructor
      · rintro ⟨⟩
        exact ⟨r, rfl, rfl, hhead⟩
      · rintro ⟨_, ⟨⟩, rfl, -⟩
        rfl
    | some head =>
      constructor
      · intro hx
        rcases error_of_found hhead hx with ⟨_, h⟩ | ⟨_, h⟩ | ⟨_, h⟩ <;> cases h
      · rintro ⟨_, ⟨⟩, rfl, hnone⟩
        rw [hhead] at hnone
        cases hnone

end

/-! ## Main statement -/

open Request in
/-- A request is refused exactly if its command is no text or an empty one, its arguments are no
list or tuple of texts, or its stream is none of the three names. It is refused as such unless all
is well up to the stream, and the stream cannot be a key or cannot be shown. A request that is not
refused and whose executable cannot be found is told so. In both cases nothing starts and nothing
changes. Otherwise one process starts, the executable with the arguments as they were given, unless
the settings are needed for its time and are bad. -/
theorem malformed_request_never_starts {σ : Type}
    (start : Launch → σ → Except LaunchError Ended × σ) (executable : String → Bool)
    (env : Environment) (kept : Settings.Kept) (state : σ) (options : Options)
    (command args wanted : Value) :
    let request := check command args wanted
    let ended := run (noting start) executable env kept (state, []) request options
    let malformed := ¬ IsCommand command ∨ (¬ ∃ texts, Lists args texts) ∨ ¬ NamesStream wanted
    (ended.1, ended.2.1, ended.2.2.1) = run start executable env kept state request options ∧
    ((∃ e, ended.1 = .error (.request e)) ↔ malformed) ∧
    ((∃ fault, ended.1 = .error (.request (.refused fault))) ↔
      malformed ∧ ¬ IsBarred command args wanted ∧ ¬ IsUntold command args wanted) ∧
    (∀ e, ended.1 = .error (.request e) →
      Reports command args wanted e ∧ ended.2 = (kept, state, [])) ∧
    (∀ name, ended.1 = .error (.notOnPath name) ↔
      ¬ malformed ∧ command = .text name ∧ ∀ head, ¬ Resolves executable env name head) ∧
    (∀ name, ended.1 = .error (.notOnPath name) → ended.2 = (kept, state, [])) ∧
    ∀ name texts head, ¬ malformed → command = .text name → Lists args texts →
      Resolves executable env name head →
      (∀ e, options.timeout = none → kept = none → Settings.load env = .error e →
        ended = (.error (.settings e), none, state, [])) ∧
      ((∀ e, ¬ (options.timeout = none ∧ kept = none ∧ Settings.load env = .error e)) →
        ∃ launch, ended.2.2.2 = [launch] ∧ launch.argv = head :: texts) := by
  intro request ended malformed
  have hmalformed : malformed ↔ ¬ IsWellFormed command args wanted := by
    rw [IsWellFormed, not_and_or, not_and_or]
  have hended : ended = _ := run_noting
  have hfst : ended.1 = (run start executable env kept state request options).1 := by rw [hended]
  have hnothing {e : RunError} (h : prepare executable env kept request options =
      (.error e, kept)) : ended.2 = (kept, state, []) := by
    obtain ⟨hrun, hlaunches⟩ := run_of_prepare_error start state h
    rw [hended, hrun, hlaunches]
    rfl
  have hrequest (e : RequestError) : ended.1 = .error (.request e) ↔ request = .error e := by
    rw [hfst, run_eq_request_iff]
  have hmissing (name : String) : ended.1 = .error (.notOnPath name) ↔
      ∃ r, request = .ok r ∧ r.command = name ∧ executable? executable env name = none := by
    rw [hfst, run_eq_notOnPath_iff]
  refine ⟨?_, ?_, ?_, fun e he => ⟨?_, ?_⟩, fun name => ?_, fun name hname => ?_,
    fun name texts head hgood hcommand hlisted hhead => ?_⟩
  · rw [hended]
  · simp only [hrequest]
    exact exists_check_error_iff.trans hmalformed.symm
  · simp only [hrequest]
    rw [hmalformed]
    exact exists_refused_iff
  · exact reports_of_check ((hrequest e).mp he)
  · exact hnothing (e := .request e) (by rw [(hrequest e).mp he]; rfl)
  · rw [hmissing, hmalformed, not_not, ← executable?_eq_none_iff, ← exists_check_iff]
    constructor
    · rintro ⟨r, hr, rfl, hnone⟩
      exact ⟨⟨r, hr⟩, (Request.check_eq_ok_iff.mp hr).1.1, hnone⟩
    · rintro ⟨⟨r, hr⟩, hcommand, hnone⟩
      have hname := (Request.check_eq_ok_iff.mp hr).1.1
      exact ⟨r, hr, Value.text.inj (hname.symm.trans hcommand), hnone⟩
  · obtain ⟨r, hr, rfl, hnone⟩ := (hmissing name).mp hname
    apply hnothing
    rw [hr]
    exact prepare_of_missing hnone
  · have hwell := not_not.mp (mt hmalformed.mpr hgood)
    obtain ⟨stream, hr⟩ := check_of_wellFormed hwell hcommand hlisted
    obtain ⟨hbad, hstarts⟩ := starts_of_found (r := ⟨name, texts, stream⟩) start state kept options
      (executable?_eq_some_iff.mpr hhead)
    rw [← hr] at hbad hstarts
    refine ⟨fun e htimeout hkept hload => ?_, fun hsettings => ?_⟩
    · obtain ⟨hrun, hlaunches⟩ := hbad e htimeout hkept hload
      rw [hended, hrun, hlaunches]
      rfl
    · rw [hended]
      exact hstarts hsettings

/-- A tool in a directory below, with the same argument twice; and the same request with a text for
its arguments. -/
theorem malformed_request_never_starts_twice :
    let start (_ : Launch) (_ : Unit) : Except LaunchError Ended × Unit :=
      (.ok (.finished 0 {}), ())
    let ended (args : Value) := run (noting start) (fun place => place = "bin/tool") [] none
      ((), []) (Request.check (.text "bin/tool") args (.text "both"))
      { timeout := some (.finite false Number.Binary64.unitsPerOne) }
    (∃ launch, (ended (.tuple [.text "-v", .text "-v"])).2.2.2 = [launch] ∧
      launch.argv = ["bin/tool", "-v", "-v"]) ∧
    (∃ e, (ended (.text "-v")).1 = .error (.request e)) ∧
    (ended (.text "-v")).2.2.2 = [] := by
  intro start ended
  have hcommand : Request.IsCommand (.text "bin/tool") := ⟨"bin/tool", rfl, by decide⟩
  have hlisted : Request.Lists (.tuple [.text "-v", .text "-v"]) ["-v", "-v"] :=
    .tuple ["-v", "-v"]
  have hplaces : places [] "bin/tool" = [] ++ "bin/tool" :: [] := by decide +kernel
  have hhead : Resolves (fun place => place = "bin/tool") [] "bin/tool" "bin/tool" :=
    .found (by decide +kernel) (by decide +kernel) hplaces (by decide)
      (List.forall_mem_nil _)
  obtain ⟨-, -, -, -, -, -, hstarts⟩ := malformed_request_never_starts start
    (fun place => place = "bin/tool") [] none ()
    { timeout := some (.finite false Number.Binary64.unitsPerOne) } (.text "bin/tool")
    (.tuple [.text "-v", .text "-v"]) (.text "both")
  obtain ⟨-, hrefused, -, hnothing, -⟩ := malformed_request_never_starts start
    (fun place => place = "bin/tool") [] none ()
    { timeout := some (.finite false Number.Binary64.unitsPerOne) } (.text "bin/tool")
    (.text "-v") (.text "both")
  constructor
  · refine (hstarts "bin/tool" _ _ ?_ rfl hlisted hhead).2 ?_
    · rintro (hother | hother | hother)
      · exact hother hcommand
      · exact hother ⟨_, hlisted⟩
      · exact hother (.inr (.inr rfl))
    · rintro e ⟨htimeout, -⟩
      cases htimeout
  · obtain ⟨e, he⟩ : ∃ e, (ended (.text "-v")).1 = .error (.request e) := by
      refine hrefused.mpr (.inr (.inl ?_))
      rintro ⟨texts, htexts⟩
      cases htexts
    exact ⟨⟨e, he⟩, congrArg (·.2.2) (hnothing e he).2⟩

/-- A stream that is a list cannot be looked up, and one that is too long a number cannot be told.
No request comes about, but neither is refused as such. -/
theorem malformed_stream_escapes :
    let check (wanted : Value) := Request.check (.text "/bin/echo") (.list []) wanted
    check (.list []) = .error (.unhashable ⟨"list"⟩) ∧
      (RequestError.unhashable ⟨"list"⟩).message = "unhashable type: 'list'" ∧
      check (.int (10 ^ 4300)) = .error .unwritable ∧
      ¬ Request.NamesStream (.list []) ∧ ¬ Request.NamesStream (.int (10 ^ 4300)) := by
  refine ⟨by decide +kernel, by decide +kernel, by decide +kernel, ?_, ?_⟩
  · rintro (h | h | h) <;> cases h
  · rintro (h | h | h) <;> cases h

end Linting.Tool
