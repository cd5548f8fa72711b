import Linting.Proofs.Diagnostic.Collection

/-! Calls of one collector, one after the other, whatever is handed in. The compiler is asked once
for each call whose arguments are accepted, and not at all for another; what comes of a call does
not depend on the calls before it. -/

namespace Linting
set_option autoImplicit false

/-! ## Work that is recorded -/

abbrev Asked := String × String

/-- Work of a collector. What its compiler has been asked for stays recorded if the work fails. -/
abbrev Recording (α : Type) := ExceptT CollectError (StateM (List Asked)) α

namespace Recording

variable {α β ε : Type} {asked : List Asked}

/-- What comes of the work, and all that has been asked for then, given what had been before. -/
def after (work : Recording α) (asked : List Asked) : Except CollectError α × List Asked :=
  Id.run (work.run asked)

def ofExcept (wrap : ε → CollectError) : Except ε α → Recording α
  | .ok a => pure a
  | .error e => throw (wrap e)

def compile (source flags : String) : Recording Pattern := do
  modify (· ++ [(source, flags)])
  ofExcept .compile (Pattern.compile source flags)

theorem after_ofExcept (wrap : ε → CollectError) (x : Except ε α) :
    (ofExcept wrap x).after asked = (x.mapError wrap, asked) := by
  cases x <;> rfl

theorem after_bind_ok {work : Recording α} {next : α → Recording β} {a : α} {asked' : List Asked}
    (h : work.after asked = (.ok a, asked')) :
    (work >>= next).after asked = (next a).after asked' := by
  have hrun : work.run asked = (.ok a, asked') := h
  change Id.run ((work.run asked >>= fun r => ExceptT.bindCont next r.1 r.2)) = _
  rw [hrun]
  rfl

theorem after_bind_error {work : Recording α} {next : α → Recording β} {e : CollectError}
    {asked' : List Asked} (h : work.after asked = (.error e, asked')) :
    (work >>= next).after asked = (.error e, asked') := by
  have hrun : work.run asked = (.error e, asked') := h
  change Id.run ((work.run asked >>= fun r => ExceptT.bindCont next r.1 r.2)) = _
  rw [hrun]
  rfl

theorem after_compile (source flags : String) (asked : List Asked) :
    (compile source flags).after asked =
      ((Pattern.compile source flags).mapError .compile, asked ++ [(source, flags)]) :=
  (after_bind_ok rfl).trans (after_ofExcept ..)

/-- Over a list, work that asks for nothing asks for nothing. -/
theorem after_mapM (wrap : ε → CollectError) (f : α → Except ε β) (xs : List α) :
    (xs.mapM fun x => ofExcept wrap (f x)).after asked =
      ((xs.mapM f).mapError wrap, asked) := by
  induction xs with
  | nil => rfl
  | cons x xs ih =>
    rw [List.mapM_cons, List.mapM_cons]
    have hx : (ofExcept wrap (f x)).after asked = ((f x).mapError wrap, asked) :=
      after_ofExcept ..
    cases hfx : f x with
    | error e =>
      rw [hfx] at hx
      exact after_bind_error hx
    | ok y =>
      rw [hfx] at hx
      rw [after_bind_ok hx]
      cases hxs : xs.mapM f with
      | error e =>
        rw [hxs] at ih
        exact after_bind_error ih
      | ok ys =>
        rw [hxs] at ih
        exact after_bind_ok ih

end Recording

/-! ## One call -/

structure Call where
  data : Value
  pattern : Value
  options : Value

namespace Call

def textOr (fault : ArgumentError) : Value → Except ArgumentError String
  | .text s => .ok s
  | _ => .error fault

/-- What a collector does at a call, step by step. -/
def perform (c : Call) : Recording (List Diagnostic) := do
  let data ← Recording.ofExcept .argument (textOr .data c.data)
  let source ← Recording.ofExcept .argument (textOr .pattern c.pattern)
  let options ← Recording.ofExcept (.argument ∘ .options) (ParseOptions.ofValue c.options)
  let p ← Recording.compile source options.flags
  (p.matchesIn (Pattern.textOf data)).mapM fun m =>
    Recording.ofExcept .coordinate (diagnosticOf p (Pattern.textOf data) options.filePath m)

/-- What comes of a call, and what the compiler is asked for, if there is no other call. -/
def alone (c : Call) : Except CollectError (List Diagnostic) × List Asked :=
  collect c.data c.pattern c.options

/-- The arguments of a call are accepted: two texts, and options that can be read. -/
inductive Accepted : Call → String → String → ParseOptions → Prop where
  | intro (data source : String) {given : Value} {options : ParseOptions}
    (h : ParseOptions.ofValue given = .ok options) :
    Accepted ⟨.text data, .text source, given⟩ data source options

/-- The first fault of a call, in the order data, pattern, options. -/
inductive FirstFault : Call → ArgumentError → Prop where
  | data {given : Value} (source options : Value) (h : ∀ s, given ≠ .text s) :
    FirstFault ⟨given, source, options⟩ .data
  | pattern (data : String) {given : Value} (options : Value) (h : ∀ s, given ≠ .text s) :
    FirstFault ⟨.text data, given, options⟩ .pattern
  | options (data source : String) {given : Value} {e : OptionsError}
    (h : ParseOptions.ofValue given = .error e) :
    FirstFault ⟨.text data, .text source, given⟩ (.options e)

theorem accepted_or_firstFault (c : Call) :
    (∃ data source options, c.Accepted data source options) ∨ ∃ e, c.FirstFault e := by
  obtain ⟨data, source, given⟩ := c
  by_cases hdata : ∃ s, data = .text s
  · obtain ⟨data, rfl⟩ := hdata
    by_cases hsource : ∃ s, source = .text s
    · obtain ⟨source, rfl⟩ := hsource
      cases hoptions : ParseOptions.ofValue given with
      | ok options => exact .inl ⟨_, _, _, .intro data source hoptions⟩
      | error e => exact .inr ⟨_, .options data source hoptions⟩
    · exact .inr ⟨_, .pattern data given fun s hs => hsource ⟨s, hs⟩⟩
  · exact .inr ⟨_, .data source given fun s hs => hdata ⟨s, hs⟩⟩

theorem textOr_error {fault : ArgumentError} {given : Value} (h : ∀ s, given ≠ .text s) :
    textOr fault given = .error fault := by
  cases given with
  | text s => exact absurd rfl (h s)
  | _ => rfl

variable {c : Call} {asked : List Asked}

theorem FirstFault.perform {e : ArgumentError} (h : c.FirstFault e) (asked : List Asked) :
    c.perform.after asked = (.error (.argument e), asked) := by
  cases h with
  | data source options h =>
    refine Recording.after_bind_error ?_
    rw [Recording.after_ofExcept, textOr_error h]
    rfl
  | pattern data options h =>
    refine (Recording.after_bind_ok rfl).trans (Recording.after_bind_error ?_)
    rw [Recording.after_ofExcept, textOr_error h]
    rfl
  | options data source h =>
    refine (Recording.after_bind_ok rfl).trans ((Recording.after_bind_ok rfl).trans
      (Recording.after_bind_error ?_))
    rw [Recording.after_ofExcept, h]
    rfl

theorem Accepted.perform {data source : String} {options : ParseOptions}
    (h : c.Accepted data source options) (asked : List Asked) :
    c.perform.after asked = (parse data source options, asked ++ [(source, options.flags)]) := by
  cases h with
  | @intro data source given options h =>
    have hoptions : (Recording.ofExcept (CollectError.argument ∘ ArgumentError.options)
        (ParseOptions.ofValue given)).after asked = (.ok options, asked) := by
      rw [Recording.after_ofExcept, h]
      rfl
    have hcompile := Recording.after_compile source options.flags asked
    refine (Recording.after_bind_ok rfl).trans ((Recording.after_bind_ok rfl).trans
      ((Recording.after_bind_ok hoptions).trans ?_))
    cases hp : Pattern.compile source options.flags with
    | error e =>
      rw [hp] at hcompile
      rw [parse_error hp]
      exact Recording.after_bind_error hcompile
    | ok p =>
      rw [hp] at hcompile
      rw [parse_eq hp, Recording.after_bind_ok hcompile]
      exact Recording.after_mapM ..

theorem FirstFault.alone {e : ArgumentError} (h : c.FirstFault e) :
    c.alone = (.error (.argument e), []) := by
  cases h with
  | @data given source options h =>
    have hcheck : CollectRequest.check given source options = .error .data := by
      cases given with
      | text s => exact absurd rfl (h s)
      | _ => cases source <;> rfl
    rw [Call.alone, collect, hcheck]
  | @pattern data given options h =>
    have hcheck : CollectRequest.check (.text data) given options = .error .pattern := by
      cases given with
      | text s => exact absurd rfl (h s)
      | _ => rfl
    rw [Call.alone, collect, hcheck]
  | @options data source given e h =>
    have hcheck : CollectRequest.check (.text data) (.text source) given =
        .error (.options e) := by
      rw [CollectRequest.check, h]
      rfl
    rw [Call.alone, collect, hcheck]

theorem Accepted.alone {data source : String} {options : ParseOptions}
    (h : c.Accepted data source options) :
    c.alone = (parse data source options, [(source, options.flags)]) := by
  cases h with
  | @intro data source given options h =>
    have hcheck : CollectRequest.check (.text data) (.text source) given =
        .ok ⟨data, source, options⟩ := by
      rw [CollectRequest.check, h]
      rfl
    rw [Call.alone, collect, hcheck]

/-- What has been asked for before stays recorded, and has no part in what comes of a call. -/
theorem perform_eq (c : Call) (asked : List Asked) :
    c.perform.after asked = (c.alone.1, asked ++ c.alone.2) := by
  rcases c.accepted_or_firstFault with ⟨data, source, options, h⟩ | ⟨e, h⟩
  · rw [h.perform, h.alone]
  · rw [h.perform, h.alone, List.append_nil]

end Call

/-! ## Calls in a row -/

/-- What comes of each of the calls, made one after the other, and what has been asked for then. -/
def performAll : List Call → List Asked →
    List (Except CollectError (List Diagnostic)) × List Asked
  | [], asked => ([], asked)
  | c :: rest, asked =>
    let (outcome, asked) := c.perform.after asked
    let (outcomes, asked) := performAll rest asked
    (outcome :: outcomes, asked)

theorem performAll_eq (calls : List Call) (asked : List Asked) :
    performAll calls asked =
      (calls.map fun c => c.alone.1, asked ++ calls.flatMap fun c => c.alone.2) := by
  induction calls generalizing asked with
  | nil => simp [performAll]
  | cons c rest ih => simp [performAll, Call.perform_eq, ih]

theorem parse_ne_argument (data source : String) (options : ParseOptions) (e : ArgumentError) :
    parse data source options ≠ .error (.argument e) := by
  intro h
  cases hp : Pattern.compile source options.flags with
  | error fault =>
    rw [parse_error hp] at h
    cases h
  | ok p =>
    rw [parse_eq hp, mapError_eq_error_iff] at h
    obtain ⟨fault, -, h⟩ := h
    cases h

/-- Among calls of one collector, each comes out as it does when it is the only one, and adds to
what the compiler has been asked for what it asks for then. If its arguments are accepted, that is
its pattern, once, under the flags of the options, and no argument is refused. Otherwise the
compiler is not asked, and the first fault of the arguments is told. -/
theorem calls_checked_independent (before : List Call) (c : Call) (rest : List Call)
    (asked : List Asked) :
    ∃ outcome new,
      (performAll (before ++ c :: rest) asked).1[before.length]? = some outcome ∧
      (performAll (before ++ [c]) asked).2 = (performAll before asked).2 ++ new ∧
      performAll [c] [] = ([outcome], new) ∧
      collect c.data c.pattern c.options = (outcome, new) ∧
      (∀ data source options, c.Accepted data source options →
        new = [(source, options.flags)] ∧ outcome = parse data source options ∧
        ∀ e, outcome ≠ .error (.argument e)) ∧
      (∀ e, c.FirstFault e → new = [] ∧ outcome = .error (.argument e)) ∧
      ((∃ data source options, c.Accepted data source options) ∨ ∃ e, c.FirstFault e) := by
  refine ⟨c.alone.1, c.alone.2, ?_, ?_, ?_, rfl, ?_, ?_, c.accepted_or_firstFault⟩
  · rw [performAll_eq]
    simp
  · rw [performAll_eq, performAll_eq]
    simp
  · rw [performAll_eq]
    simp
  · intro data source options h
    rw [h.alone]
    exact ⟨rfl, rfl, parse_ne_argument data source options⟩
  · intro e h
    rw [h.alone]
    exact ⟨rfl, rfl⟩

/-- A call behind one with three faults, one whose pattern does not compile, and one with options
that are none. -/
theorem calls_checked_independent_behind_faults :
    let before : List Call := [⟨.null, .int 1, .bool true⟩, ⟨.text "7", .text "(", .null⟩,
      ⟨.text "7", .text ".", .record [("flags", .int 0), ("filePath", .list [])]⟩]
    let c : Call := ⟨.text "7", .text "(?<line>\\d)", .record [("flags", .text "i")]⟩
    (performAll before []).2 = [("(", "")] ∧
      (performAll (before ++ [c, c]) []).1[3]? = some (.ok [⟨none, none, none, ⟨⟨6, 0⟩, ⟨6, 0⟩⟩⟩]) ∧
      (performAll (before ++ [c]) []).2 = [("(", ""), ("(?<line>\\d)", "i")] := by
  intro before c
  have haccepted : c.Accepted "7" "(?<line>\\d)" ⟨"i", none⟩ :=
    .intro _ _ (ok_of_toOption (by decide +kernel))
  have hparse : parse "7" "(?<line>\\d)" ⟨"i", none⟩ =
      .ok [⟨none, none, none, ⟨⟨6, 0⟩, ⟨6, 0⟩⟩⟩] := ok_of_toOption (by decide +kernel)
  have hbefore : (performAll before []).2 = [("(", "")] := by decide +kernel
  obtain ⟨outcome, new, hat, hnew, -, -, haccepts, -, -⟩ :=
    calls_checked_independent before c [c] []
  obtain ⟨rfl, rfl, -⟩ := haccepts _ _ _ haccepted
  rw [hparse] at hat
  rw [hbefore] at hnew
  exact ⟨hbefore, hat, hnew⟩

end Linting
