import Linting.Proofs.Regex.Local
import Linting.Regex.GroupHead
import Linting.Regex.Reader

/-! Reading that fails with syntax errors only. This holds of whatever reads neither a code point in
hexadecimal digits nor the bounds of a repetition. Main facts: the law is kept by sequencing, and it
holds of the primitive actions, of references and of the heads of groups. -/

namespace Linting.Regex
set_option autoImplicit false

variable {α β : Type}

/-- The other failures are numbers that are too large, and alphabets that do not go together. -/
def Failure.IsSyntax (e : Failure) : Prop := ∃ cause place, e = .badSyntax cause place

/-- If the action fails, then with a syntax error. -/
def Syntactic (f : Read α) : Prop := ∀ ⦃s : Source⦄ ⦃e : Failure⦄, f s = .error e → e.IsSyntax

namespace Read

/-- What is read in two steps fails in the first one, or in the second from where the first came
to. -/
theorem bind_error {f : Read α} {g : α → Read β} {s : Source} {e : Failure} :
    (f >>= g) s = .error e ↔
      f s = .error e ∨ ∃ a s₁, f s = .ok (a, s₁) ∧ g a s₁ = .error e := by
  have h : (f >>= g) s = (f s >>= fun p => g p.1 p.2) := rfl
  rw [h, bind_eq_error_iff]
  constructor
  · rintro (h | ⟨⟨a, s₁⟩, h₁, h₂⟩)
    · exact .inl h
    · exact .inr ⟨a, s₁, h₁, h₂⟩
  · rintro (h | ⟨a, s₁, h₁, h₂⟩)
    · exact .inl h
    · exact .inr ⟨(a, s₁), h₁, h₂⟩

end Read

/-! ## Sequencing -/

namespace Syntactic

theorem of_never {f : Read α} (h : ∀ s e, f s ≠ .error e) : Syntactic f :=
  fun s e he => absurd he (h s e)

theorem of_pure (a : α) : Syntactic (pure a : Read α) := .of_never fun _ _ h => by cases h

theorem of_set (s : Source) : Syntactic (set s : Read Unit) := .of_never fun _ _ h => by cases h

theorem of_modify (f : Source → Source) : Syntactic (modify f : Read Unit) :=
  .of_never fun _ _ h => by cases h

theorem of_fail (cause : Cause) (back : Nat) : Syntactic (Read.fail cause back : Read α) := by
  intro s e h
  cases h
  exact ⟨_, _, rfl⟩

theorem of_failAt (cause : Cause) (place : Nat) : Syntactic (Read.failAt cause place : Read α) := by
  intro s e h
  cases h
  exact ⟨_, _, rfl⟩

theorem bind {f : Read α} {g : α → Read β} (hf : Syntactic f) (hg : ∀ a, Syntactic (g a)) :
    Syntactic (f >>= g) := by
  intro s e h
  rcases Read.bind_error.mp h with h | ⟨a, s₁, -, h⟩
  · exact hf h
  · exact hg a h

theorem of_get {f : Source → Read α} (h : ∀ s, Syntactic (f s)) : Syntactic (get >>= f) :=
  fun s _ he => h s he

/-- What would have come after a failure does not matter. -/
theorem fail_bind (cause : Cause) (back : Nat) (k : α → Read β) :
    Syntactic (Read.fail cause back >>= k) := by
  intro s e h
  cases h
  exact ⟨_, _, rfl⟩

theorem failAt_bind (cause : Cause) (place : Nat) (k : α → Read β) :
    Syntactic (Read.failAt cause place >>= k) := by
  intro s e h
  cases h
  exact ⟨_, _, rfl⟩

theorem ite {c : Prop} [Decidable c] {f g : Read α} (hf : c → Syntactic f)
    (hg : ¬ c → Syntactic g) : Syntactic (if c then f else g) := by
  split
  · exact hf ‹_›
  · exact hg ‹_›

end Syntactic

namespace Read

/-! ## Tokens and characters -/

theorem moveTo_syntactic (rest : List Token) (place : Nat) : Syntactic (moveTo rest place) :=
  .of_get fun _ => .ite (fun _ => .failAt_bind ..) fun _ => .of_set _

theorem next_syntactic : Syntactic next := by
  refine .of_get fun s => ?_
  split
  · exact .of_pure _
  · exact .bind (moveTo_syntactic ..) fun _ => .of_pure _

theorem peek_syntactic : Syntactic peek := .of_get fun _ => .of_pure _

theorem skip_syntactic (c : Char) : Syntactic (skip c) :=
  .bind peek_syntactic fun _ => .ite (fun _ => .bind next_syntactic fun _ => .of_pure _)
    fun _ => .of_pure _

theorem charsOf_syntactic (p : Char → Bool) (count : Nat) : Syntactic (charsOf p count) := by
  induction count with
  | zero => exact .of_pure _
  | succ count ih =>
    refine .bind peek_syntactic fun t => ?_
    split
    · exact .ite (fun _ => .bind next_syntactic fun _ => .bind ih fun _ => .of_pure _)
        fun _ => .of_pure _
    · exact .of_pure _

theorem allCharsOf_syntactic (p : Char → Bool) : Syntactic (allCharsOf p) :=
  .of_get fun _ => charsOf_syntactic p _

theorem upTo_syntactic (stop : Char) : Syntactic (upTo stop) := by
  refine .of_get fun s => ?_
  split
  · exact .bind (moveTo_syntactic ..) fun _ => .of_pure _
  · exact .bind (moveTo_syntactic ..) fun _ => .of_pure _

theorem name_syntactic (terminator : Char) (what : String) :
    Syntactic (name terminator what) := by
  refine .of_get fun s => .bind (upTo_syntactic terminator) fun text => ?_
  split
  · exact .of_fail ..
  · exact .of_pure _
  · exact .ite (fun _ => .of_fail ..) fun _ => .of_fail ..

/-! ## References and groups -/

theorem checkLookbehind_syntactic (group : Nat) : Syntactic (checkLookbehind group) := by
  refine .of_get fun s => ?_
  split
  · exact .of_pure _
  · exact .ite (fun _ => .fail_bind ..) fun _ => .ite (fun _ => .of_fail ..) fun _ => .of_pure _

theorem reference_syntactic (group back : Nat) : Syntactic (reference group back) := by
  refine .of_get fun s => ?_
  split
  · exact .of_fail ..
  · exact .bind (checkLookbehind_syntactic group) fun _ => .of_pure _

theorem openGroup_syntactic (name : Option String) : Syntactic (openGroup name) := by
  refine .of_get fun s => ?_
  cases name with
  | none => exact .bind (.of_set _) fun _ => .of_pure _
  | some n =>
    dsimp only
    split
    · exact .fail_bind ..
    · exact .bind (.of_set _) fun _ => .of_pure _

theorem enterLookbehind_syntactic : Syntactic enterLookbehind :=
  .of_get fun _ => .bind (.of_set _) fun _ => .of_pure _

/-! ## Escapes without hexadecimal digits -/

theorem failEscape_bind (cause : String → Cause) (c : Char) (digits : List Char) (k : α → Read β) :
    Syntactic (failEscape cause c digits >>= k) := .fail_bind ..

theorem namedCharacter_syntactic : Syntactic namedCharacter := by
  refine .bind (skip_syntactic _) fun _ => .ite (fun _ => ?_) fun _ => .fail_bind ..
  refine .bind (name_syntactic ..) fun text => ?_
  split
  · exact .of_pure _
  · exact .of_fail ..

theorem plainEscape_syntactic (c : Char) : Syntactic (plainEscape c) :=
  .ite (fun _ => failEscape_bind ..) fun _ => .of_pure _

theorem octalEscape_syntactic (c : Char) (digits : List Char) : Syntactic (octalEscape c digits) :=
  .ite (fun _ => failEscape_bind ..) fun _ => .of_pure _

/-- An octal number that is too large is a syntax error, other than a hexadecimal one. -/
theorem digitEscape_syntactic (c : Char) : Syntactic (digitEscape c) := by
  refine .ite (fun _ => .bind (charsOf_syntactic ..) fun _ => .of_pure _) fun _ => ?_
  refine .bind (charsOf_syntactic ..) fun second => ?_
  have hgroup : Syntactic (get >>= fun s : Source =>
      if numberOf 10 (c :: second) < s.groupCount
      then reference (numberOf 10 (c :: second)) (second.length + 2)
      else fail (.noSuchGroup (numberOf 10 (c :: second))) (second.length + 1)) :=
    .of_get fun _ => .ite (fun _ => reference_syntactic ..) fun _ => .of_fail ..
  refine .ite (fun _ => ?_) fun _ => hgroup
  exact .bind (charsOf_syntactic ..) fun third => .ite (fun _ => hgroup)
    fun _ => .bind (octalEscape_syntactic ..) fun _ => .of_pure _

/-! ## Heads of groups -/

theorem groupName_syntactic (terminator : Char) : Syntactic (groupName terminator) :=
  .bind (name_syntactic ..) fun _ => .ite (fun _ => .of_pure _) fun _ => .fail_bind ..

theorem conditionNumber_syntactic (text : String) : Syntactic (conditionNumber text) := by
  unfold conditionNumber
  split
  · exact .of_fail ..
  · exact .ite (fun _ => .fail_bind ..) fun _ => .bind (.of_modify _) fun _ => .of_pure _
  · exact .of_fail ..

theorem namedOrNumbered_syntactic (text : String) : Syntactic (namedOrNumbered text) := by
  refine .ite (fun _ => .of_get fun s => ?_) fun _ => conditionNumber_syntactic text
  split
  · exact .of_pure _
  · exact .of_fail ..

theorem conditionGroup_syntactic : Syntactic conditionGroup :=
  .bind (name_syntactic ..) fun _ => .bind (namedOrNumbered_syntactic _) fun _ =>
    .bind (checkLookbehind_syntactic _) fun _ => .of_pure _

theorem withNext_syntactic (ending : Cause) (flags : Flags) :
    Syntactic (withNext ending flags) := by
  refine .bind next_syntactic fun t => ?_
  split
  · exact .of_fail ..
  · exact .of_pure _

theorem addFlag_syntactic (t : Token) (on : Flags) : Syntactic (addFlag t on) := by
  refine .ite (fun _ => .fail_bind ..) fun _ => ?_
  cases t.char?.bind inlineFlag? with
  | none => exact .of_fail ..
  | some flag => exact .ite (fun _ => .fail_bind ..) fun _ => withNext_syntactic ..

theorem dropFlag_syntactic (t : Token) (off : Flags) : Syntactic (dropFlag t off) := by
  refine .ite (fun _ => .fail_bind ..) fun _ => ?_
  cases t.char?.bind inlineFlag? with
  | none => exact .of_fail ..
  | some flag => exact .ite (fun _ => .fail_bind ..) fun _ => withNext_syntactic ..

/-- Flags that are read one after the other fail as the reading of a single one does. -/
theorem flagRun_syntactic {add : Token → Flags → Read (Flags × Token)}
    (hadd : ∀ t flags, Syntactic (add t flags)) (ends : Token → Bool) (ending : Cause) (t : Token) :
    Syntactic (flagRun add ends ending t) := by
  refine .of_get fun s => ?_
  generalize s.rest.length + 1 = bound, Flags.none = flags
  induction bound generalizing t flags with
  | zero => exact .of_fail ..
  | succ bound ih => exact .bind (hadd t flags) fun _ => .ite (fun _ => .of_pure _) fun _ => ih ..

theorem flagsOff_syntactic (stop : Token) : Syntactic (flagsOff stop) := by
  refine .ite (fun _ => .of_pure _) fun _ => .bind next_syntactic fun t => ?_
  split
  · exact .of_fail ..
  · exact .bind (flagRun_syntactic dropFlag_syntactic ..) fun _ => .of_pure _

theorem flagsHead_syntactic (t : Token) : Syntactic (flagsHead t) := by
  have hon : Syntactic (flagsOn t) :=
    .ite (fun _ => .of_pure _) fun _ => flagRun_syntactic addFlag_syntactic ..
  refine .bind hon fun _ => .ite (fun _ => .bind (.of_modify _) fun _ => .of_pure _) fun _ => ?_
  refine .ite (fun _ => .fail_bind ..) fun _ => .bind (flagsOff_syntactic _) fun _ => ?_
  exact .ite (fun _ => .fail_bind ..) fun _ => .ite (fun _ => .fail_bind ..) fun _ => .of_pure _

theorem namedHead_syntactic : Syntactic namedHead := by
  refine .bind (skip_syntactic _) fun _ => .ite
    (fun _ => .bind (groupName_syntactic _) fun _ => .of_pure _) fun _ => ?_
  refine .bind (skip_syntactic _) fun _ => .ite
    (fun _ => .bind (groupName_syntactic _) fun text => .of_get fun s => ?_) fun _ => ?_
  · cases s.names.lookup text with
    | none => exact .of_fail ..
    | some group => exact .bind (reference_syntactic ..) fun _ => .of_pure _
  · refine .bind next_syntactic fun t => ?_
    cases t with
    | none => exact .of_fail ..
    | some t => exact .of_fail ..

theorem behindHead_syntactic : Syntactic behindHead := by
  refine .bind next_syntactic fun t => ?_
  cases t with
  | none => exact .of_fail ..
  | some t =>
    refine .ite (fun _ => .of_pure _) fun _ => ?_
    exact .ite (fun _ => .of_pure _) fun _ => .of_fail ..

/-- Of all that a group may start with, nothing asks for a number but a condition, whose number is
a syntax error if it is too large. -/
theorem groupHead_syntactic (start : Nat) : Syntactic (groupHead start) := by
  refine .bind (skip_syntactic _) fun _ => .ite (fun _ => .of_pure _) fun _ => ?_
  refine .bind next_syntactic fun t => ?_
  cases t with
  | none => exact .of_fail ..
  | some t =>
    dsimp only
    split
    · exact namedHead_syntactic
    · exact .of_pure _
    · exact .bind (upTo_syntactic _) fun _ => .ite (fun _ => .failAt_bind ..) fun _ => .of_pure _
    · exact .of_pure _
    · exact .of_pure _
    · exact behindHead_syntactic
    · exact .bind conditionGroup_syntactic fun _ => .of_pure _
    · exact .of_pure _
    · exact .ite (fun _ => flagsHead_syntactic _) fun _ => .of_fail ..
    · exact .of_fail ..

/-! ## Repetitions -/

/-- The text of bounds, that is; the numbers in it may be too large. -/
theorem boundsText_syntactic : Syntactic boundsText := by
  refine .bind (allCharsOf_syntactic _) fun lo => .bind (skip_syntactic _) fun _ => ?_
  have hend (hi : List Char) : Syntactic (skip '\x7d' >>= fun closed => pure (lo, hi, closed)) :=
    .bind (skip_syntactic _) fun _ => .of_pure _
  exact .ite (fun _ => .bind (allCharsOf_syntactic _) hend) fun _ => hend _

theorem greedOf_syntactic : Syntactic greedOf :=
  .bind (skip_syntactic _) fun _ => .ite (fun _ => .of_pure _) fun _ =>
    .bind (skip_syntactic _) fun _ => .ite (fun _ => .of_pure _) fun _ => .of_pure _

theorem repeatable_syntactic (place : Nat) (node : Option Node) :
    Syntactic (repeatable place node) := by
  unfold repeatable
  split
  · exact .of_failAt ..
  · exact .of_failAt ..
  · exact .of_failAt ..
  · exact .of_pure _
  · exact .of_pure _

end Read

end Linting.Regex
