import Linting.Proofs.Scratch.Restoration

/-! A removal that does not tolerate a directory that is gone: it leaves the same behind as one that
does, and the runs end alike unless the action took the directory away. Then the fault of the
removal takes the place of the value or the error of the action. -/

namespace Linting.Scratch
set_option autoImplicit false
open FileTree

variable {ε α : Type} {home : Home} {env : Environment} {kept : Settings.Kept}
  {t made left written : FileTree} {directory : Path} {place : Place} {specs : List FileSpec}
  {files : Value} {callable : Bool} {action : Action ε α}

/-- A run reaches its action, which ends with a result and leaves nothing at the place of the
directory. -/
def LosesDirectory (home : Home) (env : Environment) (kept : Settings.Kept) (t : FileTree)
    (request : Except ScratchFault (List FileSpec)) (action : Action ε α) (directory : Path)
    (result : Except ε α) : Prop :=
  ∃ specs place made paths written, request = .ok specs ∧
    Opens home env kept t directory place made ∧
    writeFiles made directory specs = (.ok paths, written) ∧
    (action paths written).1 = result ∧ (action paths written).2.entryAt place = none

namespace Opens
variable {result : Except (ScratchError ε) α}

theorem removals_agree (h : Opens home env kept t directory place made)
    (hperform : perform made directory specs action = (result, left))
    (hspot : left.spot [] directory.toString = .ok place) (hplace : left.entryAt place ≠ none) :
    run .strict home env kept t (.ok specs) action =
      run .tolerant home env kept t (.ok specs) action := by
  obtain ⟨entry, hentry⟩ := Option.ne_none_iff_exists'.mp hplace
  by_cases hdirectory : entry = .directory
  · subst hdirectory
    rw [h.run_eq hperform (remove_directory hspot hentry),
      h.run_eq hperform (remove_directory hspot hentry)]
  · rw [h.run_eq hperform (remove_other hspot hentry hdirectory),
      h.run_eq hperform (remove_other hspot hentry hdirectory)]

theorem removals_differ (h : Opens home env kept t directory place made)
    (hperform : perform made directory specs action = (result, left))
    (hspot : left.spot [] directory.toString = .ok place) (hplace : left.entryAt place = none) :
    run .strict home env kept t (.ok specs) action =
        (.error (.file ⟨.notFound, directory.toString⟩), (Settings.get kept env).2, left) ∧
      run .tolerant home env kept t (.ok specs) action =
        (result, (Settings.get kept env).2, left) :=
  ⟨h.run_eq hperform (remove_missing_strict hspot hplace),
    h.run_eq hperform (remove_missing_tolerant hspot hplace)⟩

end Opens

theorem checkFiles_of_checkMany (h : checkMany files callable = .ok specs) :
    checkFiles files = .ok specs := by
  rw [checkMany] at h
  split at h
  · cases h
  · next hfiles =>
    split at h
    · rw [hfiles, Except.ok.inj h]
    · cases h

/-! ## Runs with one removal and the other -/

section
variable {request : Except ScratchFault (List FileSpec)}

/-- The action changes nothing but what is at the place of the directory and below. -/
def ActsBelow (home : Home) (env : Environment) (kept : Settings.Kept) (t : FileTree)
    (request : Except ScratchFault (List FileSpec)) (action : Action ε α) : Prop :=
  ∀ specs directory place made paths written, request = .ok specs →
    Opens home env kept t directory place made →
    writeFiles made directory specs = (.ok paths, written) →
    ChangesOnly (place <+: ·) written (action paths written).2

theorem spot_performed (h : Opens home env kept t directory place made) (hrooted : t.IsRooted)
    (hinside : ∀ f ∈ specs, FileSpec.staysInside f.name = true)
    (hacts : ActsBelow home env kept t (.ok specs) action) {paths : List Path}
    (hwrite : writeFiles made directory specs = (.ok paths, written)) :
    (action paths written).2.spot [] directory.toString = .ok place := by
  have hwritten : ChangesOnly (place <+: ·) made written :=
    (h.writes hrooted hinside hwrite).changesOnly.mono fun _ hother => hother.1
  exact h.spot_left hrooted
    (hwritten.trans (hacts specs directory place made paths written rfl h hwrite))

theorem LosesDirectory.ends {result : Except ε α}
    (hloses : LosesDirectory home env kept t request action directory result) (hrooted : t.IsRooted)
    (hinside : ∀ specs, request = .ok specs → ∀ f ∈ specs, FileSpec.staysInside f.name = true)
    (hacts : ActsBelow home env kept t request action) :
    ∃ left, run .strict home env kept t request action =
        (.error (.file ⟨.notFound, directory.toString⟩), (Settings.get kept env).2, left) ∧
      run .tolerant home env kept t request action =
        (result.mapError .action, (Settings.get kept env).2, left) := by
  obtain ⟨specs, place, made, paths, written, rfl, h, hwrite, rfl, hnone⟩ := hloses
  exact ⟨_, h.removals_differ (perform_written hwrite)
    (spot_performed h hrooted (hinside specs rfl) hacts hwrite) hnone⟩

theorem strict_eq_tolerant (hrooted : t.IsRooted)
    (hinside : ∀ specs, request = .ok specs → ∀ f ∈ specs, FileSpec.staysInside f.name = true)
    (hacts : ActsBelow home env kept t request action)
    (hnever : ∀ directory result,
      ¬ LosesDirectory home env kept t request action directory result) :
    run .strict home env kept t request action = run .tolerant home env kept t request action := by
  cases request with
  | error fault => rfl
  | ok specs =>
    have hinside := hinside specs rfl
    rcases opens_or_refused ε home env kept t with
      ⟨directory, place, made, h⟩ | ⟨e, kept', hrefused⟩
    · rcases hwrite : writeFiles made directory specs with ⟨e | paths, written⟩
      · -- a run that fails to write a file still has its directory
        have hadds := h.writes hrooted hinside hwrite
        refine h.removals_agree (perform_failed hwrite) (h.spot_left hrooted
          (hadds.changesOnly.mono fun _ hother => hother.1)) ?_
        rw [((h.leads hrooted).adds hadds).directory]
        exact Option.some_ne_none _
      · refine h.removals_agree (perform_written hwrite)
          (spot_performed h hrooted hinside hacts hwrite) fun hnone => ?_
        exact hnever directory _ ⟨specs, place, made, paths, written, rfl, h, hwrite, rfl, hnone⟩
    · rw [hrefused, hrefused]

end

/-! ## Main statement -/

/-- Both removals leave the same behind. The runs end alike unless the action takes the directory
away: then the strict one ends with the fault that the directory is not found, and the tolerant one
as the action did. -/
theorem strict_agrees_iff (home : Home) (env : Environment) (kept : Settings.Kept) (files : Value)
    (callable : Bool) (action : Action ε α) (hrooted : t.IsRooted) (hvalid : HasValidSpecs files)
    (hacts : ActsBelow home env kept t (checkMany files callable) action) :
    let request := checkMany files callable
    let strict := run .strict home env kept t request action
    let tolerant := run .tolerant home env kept t request action
    strict.2 = tolerant.2 ∧
    (strict.1 = tolerant.1 ↔
      ∀ directory result, ¬ LosesDirectory home env kept t request action directory result) ∧
    ∀ directory result, LosesDirectory home env kept t request action directory result →
      strict.1 = .error (.file ⟨.notFound, directory.toString⟩) ∧
      tolerant.1 = result.mapError .action := by
  intro request strict tolerant
  have hinside (specs : List FileSpec) (hspecs : request = .ok specs) :
      ∀ f ∈ specs, FileSpec.staysInside f.name = true :=
    staysInside_of_checkFiles hvalid (checkFiles_of_checkMany hspecs)
  have hends {directory : Path} {result : Except ε α}
      (h : LosesDirectory home env kept t request action directory result) :
      strict.2 = tolerant.2 ∧ strict.1 = .error (.file ⟨.notFound, directory.toString⟩) ∧
        tolerant.1 = result.mapError .action := by
    obtain ⟨left, hstrict, htolerant⟩ := h.ends hrooted hinside hacts
    rw [show strict = _ from hstrict, show tolerant = _ from htolerant]
    exact ⟨rfl, rfl, rfl⟩
  refine ⟨?_, ⟨?_, ?_⟩, fun directory result h => (hends h).2⟩
  · by_cases hnever : ∃ directory result,
      LosesDirectory home env kept t request action directory result
    · obtain ⟨directory, result, h⟩ := hnever
      exact (hends h).1
    · rw [show strict = tolerant from strict_eq_tolerant hrooted hinside hacts
        fun directory result h => hnever ⟨directory, result, h⟩]
  · intro hsame directory result h
    obtain ⟨-, hstrict, htolerant⟩ := hends h
    rw [hstrict, htolerant] at hsame
    cases result <;> cases hsame
  · intro hnever
    rw [show strict = tolerant from strict_eq_tolerant hrooted hinside hacts hnever]

/-- An action that takes its directory away and fails. -/
theorem strict_agrees_iff_stop :
    let request := checkMany (.list [.record (FileSpec.record "a" "")]) true
    let action : Action String Unit := fun _ t => (.error "stop", t.removeAt ["tmp", "linterkit_x"])
    (run .strict tmpHome [] none tmpTree request action).1 =
        .error (.file ⟨.notFound, "/tmp/linterkit_x"⟩) ∧
      (run .tolerant tmpHome [] none tmpTree request action).1 = .error (.action "stop") := by
  intro request action
  have hspecs : request = .ok [⟨"a", ""⟩] := by decide +kernel
  have hacts : ActsBelow tmpHome [] none tmpTree request action := by
    intro specs directory place made paths written _ h _
    obtain ⟨-, rfl, -⟩ := opens_tmp.unique h
    exact .of_removeAt written (by decide)
  obtain ⟨-, -, hloses⟩ := strict_agrees_iff tmpHome [] none
    (.list [.record (FileSpec.record "a" "")]) true action isRooted_tmpTree
    (hasValidSpecs_records [FileSpec.record "a" ""]) hacts
  obtain ⟨paths, written, hwrite⟩ := exists_written (by decide +kernel :
    (writeFiles (tmpTree.put ["tmp", "linterkit_x"] .directory) ⟨.slash, ["tmp", "linterkit_x"]⟩
      [⟨"a", ""⟩]).1.toOption.isSome = true)
  have hgone : (action paths written).2.entryAt ["tmp", "linterkit_x"] = none := by
    rw [entryAt_removeAt (by decide), if_pos (List.prefix_refl _)]
  exact hloses _ _ ⟨_, _, _, paths, written, hspecs, opens_tmp, hwrite, rfl, hgone⟩

/-- An action that takes its directory away and returns: one run fails, and the other does not. -/
theorem strict_ne_tolerant_gone :
    let request := checkMany (.list [.record (FileSpec.record "a" "")]) true
    let action : Action String Nat := fun _ t => (.ok 1, t.removeAt ["tmp", "linterkit_x"])
    (run .strict tmpHome [] none tmpTree request action).1 ≠
      (run .tolerant tmpHome [] none tmpTree request action).1 := by
  intro request action hsame
  exact absurd (congrArg Except.toOption hsame) (by decide +kernel)

end Linting.Scratch
