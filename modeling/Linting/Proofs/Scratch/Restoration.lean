import Linting.Proofs.Fallible
import Linting.Proofs.Scratch.FileNames

/-! What a run in a scratch directory leaves behind: nothing. Its directory is made where nothing
stands, the files are written below it, and removing it takes away all that the files and the action
left there, whether the files could be written and however the action ended. -/

namespace Linting
set_option autoImplicit false

/-! ## Checked requests -/

namespace FileSpec

theorem staysInside_of_nameFault? {name : Option Value} (h : nameFault? name = none) :
    staysInside (textOf name) = true := by
  cases name with
  | none => cases h
  | some v =>
    cases v with
    | text name =>
      rw [nameFault?] at h
      split at h
      · cases h
      · split at h
        · next hinside => exact hinside
        · cases h
    | _ => cases h

theorem staysInside_of_ofFields {fields : List (String × Value)} {f : FileSpec}
    (h : ofFields fields = .ok f) : staysInside f.name = true := by
  rw [ofFields] at h
  dsimp only at h
  split at h
  · next hfaults =>
    obtain rfl := Except.ok.inj h
    refine staysInside_of_nameFault? ?_
    cases hname : nameFault? (fields.lookup "name") with
    | none => rfl
    | some kind =>
      rw [hname] at hfaults
      cases hfaults
  · cases h

end FileSpec

namespace Scratch
open FileTree

/-- The file specs among the entries of a request are valid, as making one sees to. -/
def HasValidSpecs (files : Value) : Prop :=
  ∀ items, files.items? = some items → ∀ f, .fileSpec f ∈ items →
    FileSpec.staysInside f.name = true

theorem staysInside_of_checkFiles {files : Value} {specs : List FileSpec}
    (hvalid : HasValidSpecs files) (h : checkFiles files = .ok specs) :
    ∀ f ∈ specs, FileSpec.staysInside f.name = true := by
  intro f hf
  rw [checkFiles] at h
  split at h
  · cases h
  · next items hitems =>
    obtain ⟨v, hv, hcheck⟩ := exists_of_mem_mapM h hf
    cases v with
    | fileSpec g =>
      obtain rfl := Except.ok.inj hcheck
      exact hvalid items hitems g hv
    | record fields => exact FileSpec.staysInside_of_ofFields (mapError_eq_ok_iff.mp hcheck)
    | _ => cases hcheck

theorem hasValidSpecs_records (records : List (List (String × Value))) :
    HasValidSpecs (.list (records.map .record)) := by
  intro items hitems f hf
  obtain rfl := Option.some.inj hitems
  obtain ⟨fields, -, hfields⟩ := List.mem_map.mp hf
  cases hfields

/-! ## Writing the files -/

variable {t made left saved : FileTree} {directory : Path} {place : Place}
  {specs rest : List FileSpec} {f : FileSpec} {e : FileError}

theorem writeFiles_failed (h : saveFile t (pathOf directory f) f.contents = (.error e, saved)) :
    writeFiles t directory (f :: rest) = (.error e, saved) := by
  rw [writeFiles, h]

theorem writeFiles_saved (h : saveFile t (pathOf directory f) f.contents = (.ok (), saved)) :
    writeFiles t directory (f :: rest) =
      ((writeFiles saved directory rest).1.map (pathOf directory f :: ·),
        (writeFiles saved directory rest).2) := by
  rw [writeFiles, h]
  dsimp only
  rcases writeFiles saved directory rest with ⟨_ | paths, written⟩ <;> rfl

/-- Writing the files changes nothing but places strictly below that of the directory, also when one
of them cannot be written. -/
theorem writeFiles_adds (h : t.Leads directory place)
    (hinside : ∀ f ∈ specs, FileSpec.staysInside f.name = true) :
    Adds (Below place) t (writeFiles t directory specs).2 := by
  induction specs generalizing t with
  | nil => exact .refl t
  | cons f rest ih =>
    obtain ⟨hf, hrest⟩ := List.forall_mem_cons.mp hinside
    have hsaved : Adds (Below place) t (saveFile t (pathOf directory f) f.contents).2 := by
      have hne := (FileSpec.staysInside_iff.mp hf).2.1
      rw [pathOf_eq directory hf]
      have hadds := (saveFile_adds f.contents h (FileSpec.descend_components hf) hne).1
      exact hadds.mono fun _ => Along.below
    rcases hsave : saveFile t (pathOf directory f) f.contents with ⟨e | _, saved⟩
    · rw [writeFiles_failed hsave]
      rw [hsave] at hsaved
      exact hsaved
    · rw [writeFiles_saved hsave]
      rw [hsave] at hsaved
      exact hsaved.trans (ih (h.adds hsaved) hrest)

theorem paths_of_writeFiles {paths : List Path}
    (h : writeFiles t directory specs = (.ok paths, left)) :
    paths = specs.map (pathOf directory) := by
  induction specs generalizing t paths with
  | nil =>
    cases h
    rfl
  | cons f rest ih =>
    rcases hsave : saveFile t (pathOf directory f) f.contents with ⟨e | _, saved⟩
    · rw [writeFiles_failed hsave] at h
      cases h
    · rw [writeFiles_saved hsave] at h
      obtain ⟨hpaths, hleft⟩ := Prod.mk.inj h
      obtain ⟨others, hothers, rfl⟩ := map_eq_ok_iff.mp hpaths
      rw [List.map_cons, ih (Prod.ext hothers hleft)]

theorem exists_written (h : (writeFiles t directory specs).1.toOption.isSome = true) :
    ∃ paths written, writeFiles t directory specs = (.ok paths, written) := by
  rcases hwrite : writeFiles t directory specs with ⟨e | paths, written⟩
  · rw [hwrite] at h
    cases h
  · exact ⟨paths, written, rfl⟩

/-- The files before some file are written, and that one cannot be. -/
def FailsAt (t : FileTree) (directory : Path) (specs : List FileSpec) (e : FileError)
    (left : FileTree) : Prop :=
  ∃ before f after paths written, specs = before ++ f :: after ∧
    writeFiles t directory before = (.ok paths, written) ∧
    saveFile written (pathOf directory f) f.contents = (.error e, left)

theorem writeFiles_eq_error_iff :
    writeFiles t directory specs = (.error e, left) ↔ FailsAt t directory specs e left := by
  constructor
  · intro h
    induction specs generalizing t with
    | nil => cases h
    | cons f rest ih =>
      rcases hsave : saveFile t (pathOf directory f) f.contents with ⟨e' | _, saved⟩
      · rw [writeFiles_failed hsave] at h
        cases h
        exact ⟨[], f, rest, [], t, rfl, rfl, hsave⟩
      · rw [writeFiles_saved hsave] at h
        rcases hrest : writeFiles saved directory rest with ⟨e' | paths, written⟩
        · rw [hrest] at h
          cases h
          obtain ⟨before, g, after, paths, written, rfl, hbefore, hfails⟩ := ih hrest
          refine ⟨f :: before, g, after, pathOf directory f :: paths, written, rfl, ?_, hfails⟩
          rw [writeFiles_saved hsave, hbefore]
          rfl
        · rw [hrest] at h
          cases h
  · rintro ⟨before, f, after, paths, written, rfl, hbefore, hfails⟩
    induction before generalizing t paths with
    | nil =>
      cases hbefore
      exact writeFiles_failed hfails
    | cons g before ih =>
      rcases hsave : saveFile t (pathOf directory g) g.contents with ⟨e' | _, saved⟩
      · rw [writeFiles_failed hsave] at hbefore
        cases hbefore
      · rw [writeFiles_saved hsave] at hbefore
        obtain ⟨hpaths, hwritten⟩ := Prod.mk.inj hbefore
        obtain ⟨others, hothers, -⟩ := map_eq_ok_iff.mp hpaths
        rw [List.cons_append, writeFiles_saved hsave, ih others (Prod.ext hothers hwritten)]
        rfl

/-! ## The directory of a run -/

variable {ε α : Type} {home : Home} {env : Environment} {kept : Settings.Kept} {removal : Removal}

/-- The directory of a run is made, at a place where nothing stands. -/
structure Opens (home : Home) (env : Environment) (kept : Settings.Kept) (t : FileTree)
    (directory : Path) (place : Place) (made : FileTree) : Prop where
  settings : ∃ settings, (Settings.get kept env).1 = .ok settings ∧
    home.directory settings = directory
  spot : t.spot [] directory.toString = .ok place
  makes : t.makeDirectory [] directory.toString = .ok made

/-- A run makes its directory, or it ends at once, whatever its files and its action are. -/
theorem opens_or_refused (ε : Type) (home : Home) (env : Environment) (kept : Settings.Kept)
    (t : FileTree) : (∃ directory place made, Opens home env kept t directory place made) ∨
      ∃ (e : ScratchError ε) (kept' : Settings.Kept),
        ∀ removal specs (α : Type) (action : Action ε α),
          run removal home env kept t (.ok specs) action = (.error e, kept', t) := by
  rcases hsettings : Settings.get kept env with ⟨e | settings, kept'⟩
  · refine .inr ⟨.settings e, kept', fun removal specs α action => ?_⟩
    rw [run]
    dsimp only
    rw [hsettings]
  · cases hmake : t.makeDirectory [] (home.directory settings).toString with
    | error fault =>
      refine .inr ⟨.file ⟨fault, (home.directory settings).toString⟩, kept',
        fun removal specs α action => ?_⟩
      rw [run]
      dsimp only
      rw [hsettings]
      dsimp only
      rw [within, hmake]
    | ok made =>
      obtain ⟨place, hspot, -, -⟩ := makeDirectory_eq_ok_iff.mp hmake
      exact .inl ⟨_, place, made, ⟨settings, by rw [hsettings], rfl⟩, hspot, hmake⟩

namespace Opens

theorem unique {directory' : Path} {place' : Place} {made' : FileTree}
    (h : Opens home env kept t directory place made)
    (h' : Opens home env kept t directory' place' made') :
    directory = directory' ∧ place = place' ∧ made = made' := by
  obtain ⟨settings, hsettings, rfl⟩ := h.settings
  obtain ⟨settings', hsettings', rfl⟩ := h'.settings
  obtain rfl := Except.ok.inj (hsettings.symm.trans hsettings')
  have hplace := Except.ok.inj (h.spot.symm.trans h'.spot)
  exact ⟨rfl, hplace, Except.ok.inj (h.makes.symm.trans h'.makes)⟩

theorem free (h : Opens home env kept t directory place made) :
    t.entryAt place = none ∧ made = t.put place .directory := by
  obtain ⟨other, hspot, hnone, hmade⟩ := makeDirectory_eq_ok_iff.mp h.makes
  obtain rfl := Except.ok.inj (hspot.symm.trans h.spot)
  exact ⟨hnone, hmade⟩

theorem changesOnly (h : Opens home env kept t directory place made) :
    ChangesOnly (place <+: ·) t made := by
  obtain ⟨hnone, rfl⟩ := h.free
  exact .put (ne_nil_of_entryAt_none hnone) (List.prefix_refl _)

theorem leads (h : Opens home env kept t directory place made) (hrooted : t.IsRooted) :
    made.Leads directory place := by
  obtain ⟨hnone, hmade⟩ := h.free
  have hplace : made.entryAt place = some .directory := by
    rw [hmade, entryAt_put (ne_nil_of_entryAt_none hnone), if_pos rfl]
  have hspot := (h.changesOnly.keeps hrooted hnone).spot h.spot
  refine ⟨wayOf_of_spot hspot fun target hlink => ?_, hplace, fun other target hle hlink => ?_⟩
  · rw [hplace] at hlink
    cases hlink
  · rw [hmade, entryAt_put (ne_nil_of_entryAt_none hnone)] at hlink
    split at hlink
    · cases hlink
    · rw [hrooted.none_below hnone hle] at hlink
      cases hlink

/-- The files are written strictly below the directory. -/
theorem writes {result : Except FileError (List Path)}
    (h : Opens home env kept t directory place made) (hrooted : t.IsRooted)
    (hinside : ∀ f ∈ specs, FileSpec.staysInside f.name = true)
    (hwrite : writeFiles made directory specs = (result, left)) : Adds (Below place) made left := by
  have hadds := writeFiles_adds (h.leads hrooted) hinside
  rw [hwrite] at hadds
  exact hadds

/-- A run that makes its directory ends as its action does, or as the removal that failed. -/
theorem run_eq {action : Action ε α} {result : Except (ScratchError ε) α}
    {outcome : Except FileError Unit} {closed : FileTree}
    (h : Opens home env kept t directory place made)
    (hperform : perform made directory specs action = (result, left))
    (hremove : remove removal left directory = (outcome, closed)) :
    run removal home env kept t (.ok specs) action =
      (outcome.mapError .file >>= fun _ => result, (Settings.get kept env).2, closed) := by
  obtain ⟨settings, hsettings, rfl⟩ := h.settings
  rcases hget : Settings.get kept env with ⟨_, kept'⟩
  rw [hget] at hsettings
  obtain rfl := hsettings
  rw [run]
  dsimp only
  rw [hget]
  dsimp only
  rw [within, h.makes]
  dsimp only
  rw [hperform]
  dsimp only
  rw [hremove]
  cases outcome <;> rfl

/-- The directory is still found where it was made after changes at its place and below. -/
theorem spot_left (h : Opens home env kept t directory place made) (hrooted : t.IsRooted)
    (hchanges : ChangesOnly (place <+: ·) made left) :
    left.spot [] directory.toString = .ok place :=
  ((h.changesOnly.trans hchanges).keeps hrooted h.free.1).spot h.spot

end Opens

/-! ## Removing the directory -/

theorem remove_directory (h : left.spot [] directory.toString = .ok place)
    (hplace : left.entryAt place = some .directory) :
    remove removal left directory = (.ok (), left.removeAt place) := by
  simp only [remove, removable_of_spot h, hplace]

theorem remove_missing_tolerant (h : left.spot [] directory.toString = .ok place)
    (hplace : left.entryAt place = none) : remove .tolerant left directory = (.ok (), left) := by
  simp only [remove, removable_of_spot h, hplace]

theorem remove_missing_strict (h : left.spot [] directory.toString = .ok place)
    (hplace : left.entryAt place = none) :
    remove .strict left directory = (.error ⟨.notFound, directory.toString⟩, left) := by
  simp only [remove, removable_of_spot h, hplace]

theorem remove_other {entry : Entry} (h : left.spot [] directory.toString = .ok place)
    (hplace : left.entryAt place = some entry) (hentry : entry ≠ .directory) :
    remove removal left directory = (.error ⟨.notDirectory, directory.toString⟩, left) := by
  cases entry with
  | directory => exact absurd rfl hentry
  | _ => simp only [remove, removable_of_spot h, hplace]

/-! ## Performing the action -/

variable {action : Action ε α} {paths : List Path} {written : FileTree}

theorem perform_written (h : writeFiles made directory specs = (.ok paths, written)) :
    perform made directory specs action =
      ((action paths written).1.mapError .action, (action paths written).2) := by
  rw [perform, h]

theorem perform_failed (h : writeFiles made directory specs = (.error e, written)) :
    perform made directory specs action = (.error (.file e), written) := by
  rw [perform, h]

/-- Where only places strictly below that of the directory have changed, the run ends with the
result of its action, and everything is as it was. -/
theorem Opens.restores {result : Except (ScratchError ε) α}
    (h : Opens home env kept t directory place made) (hrooted : t.IsRooted)
    (hperform : perform made directory specs action = (result, left))
    (hchanges : ChangesOnly (Below place) made left) :
    run removal home env kept t (.ok specs) action =
        (result, (Settings.get kept env).2, left.removeAt place) ∧
      Same t (left.removeAt place) := by
  have hle : ChangesOnly (place <+: ·) made left := hchanges.mono fun _ hother => hother.1
  -- the directory itself is not below its place, so the removal finds it
  have hplace : left.entryAt place = some .directory := by
    rw [hchanges.eq_of_not fun hbelow => hbelow.2 rfl]
    exact (h.leads hrooted).directory
  exact ⟨h.run_eq hperform (remove_directory (h.spot_left hrooted hle) hplace),
    (h.changesOnly.trans hle).removeAt hrooted h.free.1⟩

section
variable (hrooted : t.IsRooted) (hinside : ∀ f ∈ specs, FileSpec.staysInside f.name = true)
include hrooted hinside

theorem Opens.run_written (h : Opens home env kept t directory place made)
    (hwrite : writeFiles made directory specs = (.ok paths, written))
    (hchanges : ChangesOnly (Below place) written (action paths written).2) :
    run removal home env kept t (.ok specs) action =
        ((action paths written).1.mapError .action, (Settings.get kept env).2,
          (action paths written).2.removeAt place) ∧
      Same t ((action paths written).2.removeAt place) :=
  h.restores hrooted (perform_written hwrite)
    ((h.writes hrooted hinside hwrite).changesOnly.trans hchanges)

theorem Opens.run_failed (h : Opens home env kept t directory place made)
    (hwrite : writeFiles made directory specs = (.error e, written)) (action : Action ε α) :
    run removal home env kept t (.ok specs) action =
        (.error (.file e), (Settings.get kept env).2, written.removeAt place) ∧
      Same t (written.removeAt place) :=
  h.restores hrooted (perform_failed hwrite) (h.writes hrooted hinside hwrite).changesOnly

/-- However a run ends, everything is as it was. -/
theorem run_same (haction : ∀ directory place made paths written,
      Opens home env kept t directory place made →
      writeFiles made directory specs = (.ok paths, written) →
      ChangesOnly (Below place) written (action paths written).2) :
    Same t (run removal home env kept t (.ok specs) action).2.2 := by
  rcases opens_or_refused ε home env kept t with ⟨directory, place, made, h⟩ | ⟨e, kept', hrefused⟩
  · rcases hwrite : writeFiles made directory specs with ⟨e | paths, written⟩
    · obtain ⟨hrun, hsame⟩ := h.run_failed hrooted hinside hwrite action
      rw [hrun]
      exact hsame
    · obtain ⟨hrun, hsame⟩ := h.run_written hrooted hinside hwrite
        (haction _ _ _ _ _ h hwrite)
      rw [hrun]
      exact hsame
  · rw [hrefused]
    exact ⟨rfl, fun _ => rfl⟩

end

/-! ## Main statement -/

/-- A run in a scratch directory leaves everything as it was. Its action may change what is strictly
below the directory, and ends with a value or an error. If all files can be written, the action gets
their paths in order, and the run ends as the action does. If one cannot be, the run ends with that
fault and does not depend on the action. -/
theorem run_leaves_no_trace (home : Home) (env : Environment) (kept : Settings.Kept)
    (files : Value) (action : Action ε α) (hrooted : t.IsRooted) (hvalid : HasValidSpecs files)
    (hspecs : checkFiles files = .ok specs)
    (haction : ∀ directory place made paths written, Opens home env kept t directory place made →
      writeFiles made directory specs = (.ok paths, written) →
      ChangesOnly (Below place) written (action paths written).2) :
    let ended := run .tolerant home env kept t (checkMany files true) action
    run .tolerant home env kept t (checkFiles files) action = ended ∧
    Same t ended.2.2 ∧
    ∀ directory place made, Opens home env kept t directory place made →
      (∀ other, place <+: other → ended.2.2.entryAt other = none) ∧
      ((∃ paths written, writeFiles made directory specs = (.ok paths, written)) ∨
        ∃ e written, FailsAt made directory specs e written) ∧
      (∀ paths written, writeFiles made directory specs = (.ok paths, written) →
        paths = specs.map (pathOf directory) ∧
        ended.1 = (action paths written).1.mapError .action) ∧
      ∀ e written, FailsAt made directory specs e written →
        ended.1 = .error (.file e) ∧
        ∀ other : Action ε α,
          run .tolerant home env kept t (checkMany files true) other = ended := by
  have hmany : checkMany files true = .ok specs := by
    rw [checkMany, hspecs]
    rfl
  rw [hmany, hspecs]
  intro ended
  have hinside := staysInside_of_checkFiles hvalid hspecs
  have hsame : Same t ended.2.2 := run_same hrooted hinside haction
  refine ⟨rfl, hsame, fun directory place made h => ⟨?_, ?_, ?_, ?_⟩⟩
  · intro other hle
    rw [hsame.entries, hrooted.none_below h.free.1 hle]
  · rcases hwrite : writeFiles made directory specs with ⟨e | paths, written⟩
    · exact .inr ⟨e, written, writeFiles_eq_error_iff.mp hwrite⟩
    · exact .inl ⟨paths, written, rfl⟩
  · intro paths written hwrite
    have hended : ended = _ :=
      (h.run_written hrooted hinside hwrite (haction _ _ _ _ _ h hwrite)).1
    rw [hended]
    exact ⟨paths_of_writeFiles hwrite, rfl⟩
  · intro e written hfails
    have hwrite := writeFiles_eq_error_iff.mpr hfails
    have hended (other : Action ε α) : run .tolerant home env kept t (.ok specs) other = _ :=
      (h.run_failed hrooted hinside hwrite other).1
    rw [show ended = _ from hended action]
    exact ⟨rfl, hended⟩

/-- A home in a tree that holds nothing else. -/
def tmpHome : Home := ⟨Path.ofString "/tmp", "x"⟩

def tmpTree : FileTree := FileTree.put {} ["tmp"] .directory

theorem isRooted_tmpTree : tmpTree.IsRooted :=
  show (FileTree.put {} ([] ++ ["tmp"]) .directory).IsRooted from
    IsRooted.empty.put (entryAt_root _) (by decide +kernel)

theorem opens_tmp : Opens tmpHome [] none tmpTree ⟨.slash, ["tmp", "linterkit_x"]⟩
    ["tmp", "linterkit_x"] (tmpTree.put ["tmp", "linterkit_x"] .directory) :=
  ⟨⟨{}, by decide +kernel, by decide +kernel⟩, by decide +kernel, by decide +kernel⟩

/-- Two files, one of them in a directory, and an action that leaves another one there and fails. -/
theorem run_leaves_no_trace_stop :
    let files : Value :=
      .list [.record (FileSpec.record "a/b" "1"), .record (FileSpec.record "c" "2")]
    let action : Action String Unit := fun _ t =>
      (.error "stop", t.put ["tmp", "linterkit_x", "left"] .device)
    let ended := run .tolerant tmpHome [] none tmpTree (checkMany files true) action
    Same tmpTree ended.2.2 ∧ ended.1 = .error (.action "stop") := by
  intro files action ended
  have hspecs : checkFiles files = .ok [⟨"a/b", "1"⟩, ⟨"c", "2"⟩] := by decide +kernel
  have hvalid := hasValidSpecs_records [FileSpec.record "a/b" "1", FileSpec.record "c" "2"]
  obtain ⟨-, hsame, hends⟩ := run_leaves_no_trace tmpHome [] none files action isRooted_tmpTree
    hvalid hspecs fun directory place made paths written h _ => by
      obtain ⟨-, rfl, -⟩ := opens_tmp.unique h
      exact .put (by decide) ⟨⟨["left"], rfl⟩, by decide⟩
  obtain ⟨-, -, hwritten, -⟩ := hends _ _ _ opens_tmp
  obtain ⟨paths, written, hwrite⟩ := exists_written (by decide +kernel :
    (writeFiles (tmpTree.put ["tmp", "linterkit_x"] .directory) ⟨.slash, ["tmp", "linterkit_x"]⟩
      [⟨"a/b", "1"⟩, ⟨"c", "2"⟩]).1.toOption.isSome = true)
  exact ⟨hsame, (hwritten paths written hwrite).2⟩

end Scratch
end Linting
