import Linting.Settings
import Mathlib.Data.List.Induction
import Mathlib.Logic.ExistsUnique

/-! Settings that are kept. Until they are forgotten, they are those of the environment of the first
call that could load them, whatever becomes of the environment; a call that cannot load them leaves
everything as it was. -/

namespace Linting.Settings
set_option autoImplicit false

/-! ## Events -/

/-- What may happen: the environment becomes another one, settings are asked for, or those kept are
forgotten. -/
inductive Event where
  | change (env : Environment)
  | get
  | reset
deriving DecidableEq

structure State where
  env : Environment
  kept : Kept

namespace State

def after (s : State) : Event → State
  | .change env => { s with env }
  | .get => { s with kept := (Settings.get s.kept s.env).2 }
  | .reset => { s with kept := none }

def run (s : State) (events : List Event) : State := events.foldl after s

end State

variable {env : Environment} {before first later : List Event} {settings : Settings}

/-- The state after events before which nothing was kept. -/
def stateAfter (env : Environment) (events : List Event) : State := State.run ⟨env, none⟩ events

/-- What a call gives that comes after the events. -/
def answerAfter (env : Environment) (events : List Event) : Except ConfigError Settings :=
  (get (stateAfter env events).kept (stateAfter env events).env).1

/-- The environment after events: that of the last change, or else the one before them. -/
def environmentAfter (env : Environment) : List Event → Environment
  | [] => env
  | .change other :: rest => environmentAfter other rest
  | .get :: rest => environmentAfter env rest
  | .reset :: rest => environmentAfter env rest

def Succeeds (env : Environment) (before : List Event) : Prop :=
  ∃ settings, answerAfter env before = .ok settings

/-- A call among the events has succeeded, and there was no reset after it. -/
def Used (env : Environment) (before : List Event) : Prop :=
  ∃ first later, before = first ++ .get :: later ∧ .reset ∉ later ∧ Succeeds env first

/-- These are the events before the first call that has succeeded since the last reset. -/
structure FirstUse (env : Environment) (before first : List Event) : Prop where
  since : ∃ later, before = first ++ .get :: later ∧ .reset ∉ later
  succeeds : Succeeds env first
  earliest : ¬ Used env first

/-! ## One call -/

/-- A call keeps what it gives, and a call that gives nothing keeps nothing. -/
theorem get_snd (kept : Kept) (env : Environment) :
    (get kept env).2 = (get kept env).1.toOption := by
  unfold get
  cases kept with
  | some settings => rfl
  | none => cases load env <;> rfl

theorem get_none_fst (env : Environment) : (get none env).1 = load env := by
  unfold get
  cases load env <;> rfl

/-! ## Runs -/

theorem stateAfter_append (env : Environment) (first later : List Event) :
    stateAfter env (first ++ later) = (stateAfter env first).run later :=
  List.foldl_append

theorem stateAfter_concat (env : Environment) (before : List Event) (event : Event) :
    stateAfter env (before ++ [event]) = (stateAfter env before).after event :=
  stateAfter_append env before [event]

theorem env_run (s : State) (events : List Event) :
    (s.run events).env = environmentAfter s.env events := by
  induction events generalizing s with
  | nil => rfl
  | cons event rest ih =>
    have hrest := ih (s.after event)
    cases event with
    | change other => exact hrest
    | get => exact hrest
    | reset => exact hrest

theorem env_stateAfter (env : Environment) (before : List Event) :
    (stateAfter env before).env = environmentAfter env before :=
  env_run ⟨env, none⟩ before

/-- Settings that are kept stay as they are while there is no reset. -/
theorem kept_run {s : State} (hkept : s.kept = some settings) (hreset : .reset ∉ later) :
    (s.run later).kept = some settings := by
  induction later generalizing s with
  | nil => exact hkept
  | cons event rest ih =>
    obtain ⟨hevent, hrest⟩ := List.ne_and_not_mem_of_not_mem_cons hreset
    have hafter : (s.after event).kept = some settings := by
      cases event with
      | change other => exact hkept
      | get =>
        change (get s.kept s.env).2 = some settings
        rw [hkept]
        rfl
      | reset => exact absurd rfl hevent
    exact ih hafter hrest

/-- Where nothing is kept, nothing is until the next call. -/
theorem kept_run_none {s : State} {more : List Event} (hkept : s.kept = none)
    (hget : .get ∉ more) : (s.run more).kept = none := by
  induction more generalizing s with
  | nil => exact hkept
  | cons event rest ih =>
    obtain ⟨hevent, hrest⟩ := List.ne_and_not_mem_of_not_mem_cons hget
    have hafter : (s.after event).kept = none := by
      cases event with
      | change other => exact hkept
      | get => exact absurd rfl hevent
      | reset => rfl
    exact ih hafter hrest

/-- What a call has given is kept until there is a reset. -/
theorem kept_of_call (hreset : .reset ∉ later) (hanswer : answerAfter env first = .ok settings) :
    (stateAfter env (first ++ .get :: later)).kept = some settings := by
  have hcalled : ((stateAfter env first).after .get).kept = some settings := by
    change (get (stateAfter env first).kept (stateAfter env first).env).2 = some settings
    rw [get_snd]
    change (answerAfter env first).toOption = some settings
    rw [hanswer]
    rfl
  rw [stateAfter_append]
  change (((stateAfter env first).after .get).run later).kept = some settings
  exact kept_run hcalled hreset

theorem answerAfter_of_kept (hkept : (stateAfter env before).kept = some settings) :
    answerAfter env before = .ok settings := by
  rw [answerAfter, hkept]
  rfl

theorem answerAfter_of_kept_none (hkept : (stateAfter env before).kept = none) :
    answerAfter env before = load (environmentAfter env before) := by
  rw [answerAfter, hkept, get_none_fst, env_stateAfter]

/-! ## The first use -/

/-- More events leave a use one, unless they are a reset. -/
theorem Used.append {more : List Event} (h : Used env before) (hreset : .reset ∉ more) :
    Used env (before ++ more) := by
  obtain ⟨first, later, rfl, hlater, hsucceeds⟩ := h
  refine ⟨first, later ++ more, ?_, ?_, hsucceeds⟩
  · rw [List.append_assoc, List.cons_append]
  · rw [List.mem_append, not_or]
    exact ⟨hlater, hreset⟩

/-- The invariant: nothing is kept exactly as long as no call has succeeded since the last reset. -/
theorem kept_eq_none_iff : (stateAfter env before).kept = none ↔ ¬ Used env before := by
  constructor
  · rintro hnone ⟨first, later, rfl, hreset, settings, hanswer⟩
    rw [kept_of_call hreset hanswer] at hnone
    cases hnone
  · intro hunused
    induction before using List.reverseRecOn with
    | nil => rfl
    | append_singleton before event ih =>
      have hbefore (hevent : event ≠ .reset) : (stateAfter env before).kept = none := by
        refine ih fun hused => hunused (hused.append ?_)
        rwa [List.mem_singleton, eq_comm]
      rw [stateAfter_concat]
      cases event with
      | change other => exact hbefore nofun
      | reset => rfl
      | get =>
        have hanswer := answerAfter_of_kept_none (hbefore nofun)
        change (get (stateAfter env before).kept (stateAfter env before).env).2 = none
        rw [get_snd]
        change (answerAfter env before).toOption = none
        cases hload : answerAfter env before with
        | error e => rfl
        | ok settings =>
          exact absurd ⟨before, [], rfl, List.not_mem_nil, settings, hload⟩ hunused

theorem FirstUse.answerAfter (h : FirstUse env before first) :
    answerAfter env before = load (environmentAfter env first) := by
  obtain ⟨⟨later, rfl, hreset⟩, ⟨settings, hanswer⟩, hearliest⟩ := h
  rw [answerAfter_of_kept (kept_of_call hreset hanswer), ← hanswer,
    answerAfter_of_kept_none (kept_eq_none_iff.mpr hearliest)]

/-- Of two uses since the last reset, the first one is not behind the other one. -/
theorem FirstUse.length_le {other : List Event} (h : FirstUse env before first)
    (hother : FirstUse env before other) : first.length ≤ other.length := by
  by_contra hlonger
  obtain ⟨later, rfl, -⟩ := h.since
  obtain ⟨rest, heq, hreset⟩ := hother.since
  -- then the other call stands among the events before the first one
  rcases List.append_eq_append_iff.mp heq with ⟨between, rfl, -⟩ | ⟨between, rfl, hrest⟩
  · rw [List.length_append] at hlonger
    omega
  · cases between with
    | nil => simp at hlonger
    | cons event between =>
      obtain ⟨rfl, rfl⟩ := List.cons.inj hrest
      refine h.earliest ⟨other, between, rfl, fun hmem => hreset ?_, hother.succeeds⟩
      exact List.mem_append_left _ hmem

theorem FirstUse.unique {other : List Event} (h : FirstUse env before first)
    (hother : FirstUse env before other) : first = other := by
  obtain ⟨later, hlater, -⟩ := h.since
  obtain ⟨rest, hrest, -⟩ := hother.since
  have hlength := Nat.le_antisymm (h.length_le hother) (hother.length_le h)
  exact (List.append_inj (hlater.symm.trans hrest) hlength).1

theorem Used.exists_firstUse (h : Used env before) : ∃ first, FirstUse env before first := by
  induction hlength : before.length using Nat.strongRecOn generalizing before with
  | _ n ih =>
    obtain ⟨first, later, rfl, hreset, hsucceeds⟩ := h
    by_cases hearlier : Used env first
    · -- the first use before that call is the first one here
      have hshorter : first.length < n := by
        rw [← hlength, List.length_append, List.length_cons]
        omega
      obtain ⟨earliest, hfirst⟩ := ih first.length hshorter hearlier rfl
      obtain ⟨between, rfl, hbetween⟩ := hfirst.since
      refine ⟨earliest, ⟨between ++ .get :: later, ?_, ?_⟩, hfirst.succeeds, hfirst.earliest⟩
      · rw [List.append_assoc, List.cons_append]
      · simp [hbetween, hreset]
    · exact ⟨first, ⟨later, rfl, hreset⟩, hsucceeds, hearlier⟩

/-! ## Main statement -/

/-- A call gives the settings of the environment at the first call that has succeeded since the last
reset, of which there is at most one, and otherwise those of the environment now. If it fails, this
is because those of the environment now cannot be loaded. It changes nothing then, and the next call
loads those of the environment at that time. -/
theorem calls_follow_first_use (env : Environment) (before : List Event) :
    (Used env before ↔ ∃! first, FirstUse env before first) ∧
    (∀ first, FirstUse env before first →
      answerAfter env before = load (environmentAfter env first)) ∧
    (¬ Used env before → answerAfter env before = load (environmentAfter env before)) ∧
    ∀ e, answerAfter env before = .error e →
      load (environmentAfter env before) = .error e ∧
      stateAfter env (before ++ [.get]) = stateAfter env before ∧
      ∀ more, .get ∉ more → answerAfter env (before ++ .get :: more) =
        load (environmentAfter env (before ++ .get :: more)) := by
  refine ⟨⟨fun hused => ?_, fun h => ?_⟩, fun first h => h.answerAfter,
    fun h => answerAfter_of_kept_none (kept_eq_none_iff.mpr h), fun e he => ?_⟩
  · obtain ⟨first, hfirst⟩ := hused.exists_firstUse
    exact ⟨first, hfirst, fun other hother => hother.unique hfirst⟩
  · obtain ⟨first, hfirst, -⟩ := h
    obtain ⟨later, hlater, hreset⟩ := hfirst.since
    exact ⟨first, later, hlater, hreset, hfirst.succeeds⟩
  · have hnone : (stateAfter env before).kept = none := by
      cases hkept : (stateAfter env before).kept with
      | none => rfl
      | some settings => cases he.symm.trans (answerAfter_of_kept hkept)
    have hsame : (stateAfter env before).after .get = stateAfter env before := by
      have hcall : (get (stateAfter env before).kept (stateAfter env before).env).2 = none := by
        rw [get_snd]
        change (answerAfter env before).toOption = none
        rw [he]
        rfl
      rw [State.after, hcall, ← hnone]
    refine ⟨(answerAfter_of_kept_none hnone).symm.trans he, ?_, fun more hmore => ?_⟩
    · rw [stateAfter_concat, hsame]
    · apply answerAfter_of_kept_none
      rw [stateAfter_append]
      change (((stateAfter env before).after .get).run more).kept = none
      rw [hsame]
      exact kept_run_none hnone hmore

/-- A call fails, the environment is mended, a call succeeds, and the environment is broken. -/
theorem calls_follow_first_use_mended :
    let bad : Environment := [("LINTERKIT_FIND_CACHE", "maybe")]
    let good : Environment := [("LINTERKIT_FIND_CACHE", "off")]
    let first : List Event := [.get, .change good]
    FirstUse bad (first ++ [.get, .change bad]) first ∧
      answerAfter bad (first ++ [.get, .change bad]) = load good ∧
      load good = .ok { findCacheEnabled := false } ∧
      answerAfter bad [] = .error (.badBoolean "maybe") ∧
      stateAfter bad [.get] = stateAfter bad [] := by
  intro bad good first
  have hgood : load good = .ok { findCacheEnabled := false } := by decide +kernel
  have hbad : answerAfter bad [] = .error (.badBoolean "maybe") := by decide +kernel
  have hfirst : FirstUse bad (first ++ [.get, .change bad]) first :=
    { since := ⟨[.change bad], rfl, by decide⟩
      succeeds := ⟨{ findCacheEnabled := false }, by decide +kernel⟩
      earliest := kept_eq_none_iff.mp (by decide +kernel) }
  obtain ⟨-, hanswer, -, -⟩ := calls_follow_first_use bad (first ++ [.get, .change bad])
  obtain ⟨-, -, -, hfailed⟩ := calls_follow_first_use bad []
  exact ⟨hfirst, hanswer first hfirst, hgood, hbad, (hfailed _ hbad).2.1⟩

end Linting.Settings
