import Linting.Proofs.Scratch.StrictRemoval
import Linting.Proofs.Value.Parts

/-! Requests for files in a scratch directory: which ones are carried out, and what is said of the
others. All files are checked before anything is made, so a request that is refused leaves no trace,
and the first entry that describes no file decides what is said. -/

namespace Linting
set_option autoImplicit false

/-! ## Entries that describe a file -/

namespace FileSpec

/-- A name leads below the directory: it does not start with a slash and has parts, none of them a
double dot. -/
def LeadsInside (name : String) : Prop :=
  name.toList.head? ≠ some '/' ∧ components name ≠ [] ∧ ".." ∉ components name

def Named (fields : List (String × Value)) (name : String) : Prop :=
  fields.lookup "name" = some (.text name) ∧ LeadsInside name

def Filled (fields : List (String × Value)) (contents : String) : Prop :=
  fields.lookup "contents" = some (.text contents)

/-- What describes a file: a file spec, or a record with a name and contents. -/
inductive Describes : Value → FileSpec → Prop where
  | spec (f : FileSpec) : Describes (.fileSpec f) f
  | record {fields : List (String × Value)} {name contents : String} (named : Named fields name)
    (filled : Filled fields contents) : Describes (.record fields) ⟨name, contents⟩

section
variable {fields : List (String × Value)} {v : Option Value} {f : FileSpec} {faults : List Fault}

theorem nameFault?_eq_none_iff :
    nameFault? v = none ↔ ∃ name, v = some (.text name) ∧ LeadsInside name := by
  constructor
  · intro h
    have hinside := staysInside_of_nameFault? h
    cases v with
    | none => cases h
    | some v =>
      cases v with
      | text name => exact ⟨name, rfl, staysInside_iff.mp hinside⟩
      | _ => cases h
  · rintro ⟨name, rfl, hinside⟩
    have hfull : name.isEmpty = false := by
      rw [← Bool.not_eq_true, String.isEmpty_iff]
      rintro rfl
      exact hinside.2.1 (by decide +kernel)
    rw [nameFault?, hfull, if_neg Bool.false_ne_true, if_pos (staysInside_iff.mpr hinside)]

theorem contentsFault?_eq_none_iff :
    contentsFault? v = none ↔ ∃ contents, v = some (.text contents) := by
  constructor
  · intro h
    cases v with
    | none => cases h
    | some v =>
      cases v with
      | text contents => exact ⟨contents, rfl⟩
      | _ => cases h
  · rintro ⟨contents, rfl⟩
    rfl

theorem ofFields_eq_ok_iff :
    ofFields fields = .ok f ↔ Named fields f.name ∧ Filled fields f.contents := by
  constructor
  · intro h
    rw [ofFields] at h
    dsimp only at h
    split at h
    · next hfaults =>
      rw [List.isEmpty_iff, List.append_eq_nil_iff] at hfaults
      obtain ⟨hname, hcontents⟩ := hfaults
      simp only [Option.toList_eq_nil_iff, Option.map_eq_none_iff] at hname hcontents
      obtain ⟨name, hname, hinside⟩ := nameFault?_eq_none_iff.mp hname
      obtain ⟨contents, hcontents⟩ := contentsFault?_eq_none_iff.mp hcontents
      rw [hname, hcontents] at h
      obtain rfl := Except.ok.inj h
      exact ⟨⟨hname, hinside⟩, hcontents⟩
    · cases h
  · rintro ⟨⟨hname, hinside⟩, hcontents⟩
    have hnone := nameFault?_eq_none_iff.mpr ⟨f.name, rfl, hinside⟩
    rw [Filled] at hcontents
    rw [ofFields, hname, hcontents]
    dsimp only
    rw [hnone]
    rfl

/-- A record that describes no file is told with a fault for each of the two fields that fails. -/
theorem places_of_ofFields (h : ofFields fields = .error faults) :
    ((∃ kind, ⟨[.key "name"], kind⟩ ∈ faults) ↔ ¬ ∃ name, Named fields name) ∧
      ((∃ kind, ⟨[.key "contents"], kind⟩ ∈ faults) ↔ ¬ ∃ contents, Filled fields contents) ∧
      ∀ fault ∈ faults, fault.place = [.key "name"] ∨ fault.place = [.key "contents"] := by
  have hnamed : (∃ name, Named fields name) ↔ nameFault? (fields.lookup "name") = none :=
    nameFault?_eq_none_iff.symm
  have hfilled : (∃ contents, Filled fields contents) ↔
      contentsFault? (fields.lookup "contents") = none := contentsFault?_eq_none_iff.symm
  rw [ofFields] at h
  dsimp only at h
  split at h
  · cases h
  · obtain rfl := Except.error.inj h
    rw [hnamed, hfilled]
    cases nameFault? (fields.lookup "name") <;>
      cases contentsFault? (fields.lookup "contents") <;> simp

end

end FileSpec

/-! ## Checking a request -/

namespace Scratch
open FileSpec

variable {files bad v : Value} {f : FileSpec} {specs : List FileSpec} {fault : ScratchFault}
  {callable : Bool}

/-- A value that is neither a file spec nor a record. -/
def IsOther (v : Value) : Prop := (∀ f, v ≠ .fileSpec f) ∧ ∀ fields, v ≠ .record fields

/-- What is said of an entry that describes no file. A record is told with the fields that fail; of
any other value what is shown is told, if it can be. -/
inductive Reports : Value → ScratchFault → Prop where
  | shown {v : Value} (other : IsOther v) (short : ¬ v.HoldsUnwritable) : Reports v (.entry v.shown)
  | unwritable {v : Value} (other : IsOther v) (long : v.HoldsUnwritable) : Reports v .unwritable
  | faulty {fields : List (String × Value)} {faults : List Fault}
    (name : (∃ kind, ⟨[.key "name"], kind⟩ ∈ faults) ↔ ¬ ∃ name, Named fields name)
    (contents : (∃ kind, ⟨[.key "contents"], kind⟩ ∈ faults) ↔
      ¬ ∃ contents, Filled fields contents)
    (only : ∀ fault ∈ faults, fault.place = [.key "name"] ∨ fault.place = [.key "contents"]) :
    Reports (.record fields) (.faultyEntry faults)

theorem checkEntry_of_other (h : IsOther v) :
    checkEntry v = .error (if v.isShowable then .entry v.shown else .unwritable) := by
  cases v with
  | fileSpec f => exact absurd rfl (h.1 f)
  | record fields => exact absurd rfl (h.2 fields)
  | _ => rfl

theorem checkEntry_eq_ok_iff : checkEntry v = .ok f ↔ Describes v f := by
  by_cases hother : IsOther v
  · rw [checkEntry_of_other hother]
    refine iff_of_false nofun fun h => ?_
    cases h with
    | spec f => exact hother.1 f rfl
    | record => exact hother.2 _ rfl
  · cases v with
    | fileSpec g =>
      constructor
      · intro h
        obtain rfl := Except.ok.inj h
        exact .spec g
      · rintro ⟨⟩
        rfl
    | record fields =>
      rw [checkEntry, mapError_eq_ok_iff, ofFields_eq_ok_iff]
      constructor
      · rintro ⟨hnamed, hfilled⟩
        exact .record hnamed hfilled
      · rintro (_ | ⟨hnamed, hfilled⟩)
        exact ⟨hnamed, hfilled⟩
    | _ => exact absurd ⟨nofun, nofun⟩ hother

theorem reports_of_checkEntry (h : checkEntry v = .error fault) : Reports v fault := by
  by_cases hother : IsOther v
  · rw [checkEntry_of_other hother] at h
    obtain rfl := Except.error.inj h
    cases hshowable : v.isShowable with
    | true =>
      rw [if_pos rfl]
      refine .shown hother fun hlong => ?_
      rw [(Value.isShowable_eq_false_iff v).mpr hlong] at hshowable
      cases hshowable
    | false =>
      rw [if_neg Bool.false_ne_true]
      exact .unwritable hother ((Value.isShowable_eq_false_iff v).mp hshowable)
  · cases v with
    | fileSpec g => cases h
    | record fields =>
      obtain ⟨faults, hfaults, rfl⟩ := mapError_eq_error_iff.mp h
      obtain ⟨hname, hcontents, honly⟩ := places_of_ofFields hfaults
      exact .faulty hname hcontents honly
    | _ => exact absurd ⟨nofun, nofun⟩ hother

/-- The files are a sequence of entries that each describe a file. -/
def WellFormed (files : Value) : Prop :=
  ∃ items, files.items? = some items ∧ ∀ v ∈ items, ∃ f, Describes v f

def FirstBad (files bad : Value) : Prop :=
  ∃ before after, files.items? = some (before ++ bad :: after) ∧
    (∀ v ∈ before, ∃ f, Describes v f) ∧ ∀ f, ¬ Describes bad f

theorem checkFiles_eq_ok_iff : checkFiles files = .ok specs ↔
    ∃ items, files.items? = some items ∧ List.Forall₂ Describes items specs := by
  rw [checkFiles]
  cases files.items? with
  | none => simp
  | some items =>
    simp only [mapM_eq_ok_iff, checkEntry_eq_ok_iff, Option.some.injEq, exists_eq_left']

theorem wellFormed_iff : WellFormed files ↔ ∃ specs, checkFiles files = .ok specs := by
  rw [WellFormed, checkFiles]
  cases files.items? with
  | none => simp
  | some items =>
    simp only [exists_mapM_ok_iff, checkEntry_eq_ok_iff, Option.some.injEq, exists_eq_left']

/-- Files fail as a whole if they are no sequence, and otherwise with what is said of the first bad
entry. -/
theorem checkFiles_eq_error_iff : checkFiles files = .error fault ↔
    (files.items? = none ∧ fault = .files) ∨
      ∃ bad, FirstBad files bad ∧ checkEntry bad = .error fault := by
  have hbad (bad : Value) (hfault : checkEntry bad = .error fault) (f : FileSpec) :
      ¬ Describes bad f := by
    rw [← checkEntry_eq_ok_iff, hfault]
    exact nofun
  rw [checkFiles]
  cases hitems : files.items? with
  | none =>
    constructor
    · intro h
      exact .inl ⟨rfl, (Except.error.inj h).symm⟩
    · rintro (⟨-, rfl⟩ | ⟨bad, ⟨before, after, hlisted, -⟩, -⟩)
      · rfl
      · cases hitems.symm.trans hlisted
  | some items =>
    dsimp only
    rw [mapM_eq_error_iff]
    simp only [checkEntry_eq_ok_iff]
    constructor
    · rintro ⟨before, bad, after, rfl, hbefore, hfault⟩
      exact .inr ⟨bad, ⟨before, after, hitems, hbefore, hbad bad hfault⟩, hfault⟩
    · rintro (⟨hnone, -⟩ | ⟨bad, ⟨before, after, hlisted, hbefore, -⟩, hfault⟩)
      · cases hnone
      · obtain rfl := Option.some.inj (hitems.symm.trans hlisted)
        exact ⟨before, bad, after, rfl, hbefore, hfault⟩

/-! ## Refused requests -/

variable {ε α : Type} {removal : Removal} {home : Home} {env : Environment} {kept : Settings.Kept}
  {t : FileTree} {action : Action ε α}

theorem run_ne_argument :
    (run removal home env kept t (.ok specs) action).1 ≠ .error (.argument fault) := by
  have hperform (t : FileTree) (directory : Path) :
      (perform t directory specs action).1 ≠ .error (.argument fault) := by
    rw [perform]
    split
    · rintro ⟨⟩
    · next paths written _ =>
      dsimp only
      cases (action paths written).1 <;> rintro ⟨⟩
  have hwithin (t : FileTree) (directory : Path) :
      (within removal t directory specs action).1 ≠ .error (.argument fault) := by
    rw [within]
    split
    · rintro ⟨⟩
    · dsimp only
      split
      · exact hperform _ _
      · rintro ⟨⟩
  rw [run]
  dsimp only
  split
  · rintro ⟨⟩
  · exact hwithin _ _

theorem checkMany_eq_error_iff : checkMany files callable = .error fault ↔
    checkFiles files = .error fault ∨
      (WellFormed files ∧ callable = false ∧ fault = .action) := by
  rw [wellFormed_iff, checkMany]
  cases hfiles : checkFiles files with
  | error other => simp
  | ok specs =>
    cases callable <;> simp [eq_comm]

theorem run_eq_argument_iff :
    (run removal home env kept t (checkMany files callable) action).1 =
      .error (.argument fault) ↔ checkMany files callable = .error fault := by
  cases hcheck : checkMany files callable with
  | error other =>
    change (.error (.argument other) : Except (ScratchError ε) α) = _ ↔ _
    simp
  | ok specs => exact iff_of_false run_ne_argument nofun

theorem refused_iff : (∃ fault, checkMany files callable = .error fault) ↔
    ¬ WellFormed files ∨ callable = false := by
  rw [wellFormed_iff, checkMany]
  cases checkFiles files with
  | error other => simp
  | ok specs => cases callable <;> simp

theorem FirstBad.refused (h : FirstBad files bad) (callable : Bool) :
    ∃ fault, checkEntry bad = .error fault ∧ Reports bad fault ∧
      checkMany files callable = .error fault := by
  obtain ⟨-, -, -, -, hnone⟩ := id h
  cases hcheck : checkEntry bad with
  | ok f => exact absurd (checkEntry_eq_ok_iff.mp hcheck) (hnone f)
  | error fault =>
    have hfiles := checkFiles_eq_error_iff.mpr (.inr ⟨bad, h, hcheck⟩)
    exact ⟨fault, rfl, reports_of_checkEntry hcheck, checkMany_eq_error_iff.mpr (.inl hfiles)⟩

/-- A fault of the limit on digits comes from the first bad entry only. -/
theorem unwritable_iff : checkMany files callable = .error .unwritable ↔
    ∃ bad, FirstBad files bad ∧ IsOther bad ∧ bad.HoldsUnwritable := by
  constructor
  · intro h
    rcases checkMany_eq_error_iff.mp h with hfiles | ⟨-, -, hfault⟩
    · rcases checkFiles_eq_error_iff.mp hfiles with ⟨-, hfault⟩ | ⟨bad, hbad, hcheck⟩
      · cases hfault
      · cases reports_of_checkEntry hcheck with
        | unwritable hother hlong => exact ⟨bad, hbad, hother, hlong⟩
    · cases hfault
  · rintro ⟨bad, hbad, hother, hlong⟩
    obtain ⟨fault, hcheck, -, hmany⟩ := hbad.refused callable
    have hfault := checkEntry_of_other hother
    rw [(Value.isShowable_eq_false_iff bad).mpr hlong, if_neg Bool.false_ne_true, hcheck] at hfault
    rw [hmany, Except.error.inj hfault]

/-- Files that were checked pass the check again, as they are. -/
theorem checkFiles_specs (specs : List FileSpec) :
    checkFiles (.list (specs.map .fileSpec)) = .ok specs := by
  refine checkFiles_eq_ok_iff.mpr ⟨_, rfl, ?_⟩
  induction specs with
  | nil => exact .nil
  | cons f rest ih => exact .cons (.spec f) ih

/-! ## Main statement -/

/-- A request is refused exactly if its files are no sequence of entries that each describe a file,
or it comes without an action. Then nothing happens: whatever the tree, the settings and the action
are, they are left alone. The first bad entry is what is told, and an action that is missing only if
there is none; but of an entry that is neither a spec nor a record and holds a number of too many
digits nothing can be told, and the fault is that of the number. Files that passed the check pass it
again, as they are. -/
theorem malformed_request_refused (removal : Removal) (home : Home) (env : Environment)
    (kept : Settings.Kept) (t : FileTree) (files : Value) (callable : Bool)
    (action : Action ε α) :
    let ended := run removal home env kept t (checkMany files callable) action
    let untold := ∃ bad, FirstBad files bad ∧ IsOther bad ∧ bad.HoldsUnwritable
    ((∃ fault, fault ≠ .unwritable ∧ ended.1 = .error (.argument fault)) ↔
      (¬ WellFormed files ∨ callable = false) ∧ ¬ untold) ∧
    (ended.1 = .error (.argument .unwritable) ↔ untold) ∧
    (¬ WellFormed files ∨ callable = false → ∃ fault,
      ∀ removal' home' env' kept' t' (action' : Action ε α),
        run removal' home' env' kept' t' (checkMany files callable) action' =
          (.error (.argument fault), kept', t')) ∧
    (files.items? = none → ended.1 = .error (.argument .files)) ∧
    (∀ bad, FirstBad files bad →
      ∃ fault, Reports bad fault ∧ ended.1 = .error (.argument fault)) ∧
    (WellFormed files → callable = false → ended.1 = .error (.argument .action)) ∧
    ∀ specs, checkMany files callable = .ok specs →
      checkFiles (.list (specs.map .fileSpec)) = .ok specs := by
  intro ended untold
  have hended (fault : ScratchFault) :
      ended.1 = .error (.argument fault) ↔ checkMany files callable = .error fault :=
    run_eq_argument_iff
  simp only [hended]
  refine ⟨?_, unwritable_iff, ?_, ?_, ?_, ?_, fun specs _ => checkFiles_specs specs⟩
  · have huntold : untold ↔ checkMany files callable = .error .unwritable := unwritable_iff.symm
    rw [← refused_iff, huntold]
    constructor
    · rintro ⟨fault, hne, hfault⟩
      refine ⟨⟨fault, hfault⟩, fun hlong => hne ?_⟩
      exact Except.error.inj (hfault.symm.trans hlong)
    · rintro ⟨⟨fault, hfault⟩, hshort⟩
      exact ⟨fault, fun heq => hshort (heq ▸ hfault), hfault⟩
  · intro hrefused
    obtain ⟨fault, hfault⟩ := refused_iff.mpr hrefused
    exact ⟨fault, fun _ _ _ _ _ _ => by rw [hfault]; rfl⟩
  · intro hitems
    exact checkMany_eq_error_iff.mpr (.inl (checkFiles_eq_error_iff.mpr (.inl ⟨hitems, rfl⟩)))
  · intro bad hbad
    obtain ⟨fault, -, hreports, hmany⟩ := hbad.refused callable
    exact ⟨fault, hreports, hmany⟩
  · intro hfiles hcallable
    exact checkMany_eq_error_iff.mpr (.inr ⟨hfiles, hcallable, rfl⟩)

/-- A record without contents between a good entry and a worse one, and no action either. -/
theorem malformed_request_refused_middle :
    let bad : Value := .record [("name", .text "b")]
    let files : Value := .list [.record (record "a" ""), bad, .null]
    let action : Action String Unit := fun _ t => (.ok (), t)
    FirstBad files bad ∧ ∃ faults,
      (run .tolerant tmpHome [] none tmpTree (checkMany files false) action).1 =
        .error (.argument (.faultyEntry faults)) ∧
      (∃ kind, ⟨[.key "contents"], kind⟩ ∈ faults) ∧ ¬ ∃ kind, ⟨[.key "name"], kind⟩ ∈ faults := by
  intro bad files action
  have hinside (name : String) (h : staysInside name = true) : LeadsInside name :=
    staysInside_iff.mp h
  have hfirst : FirstBad files bad := by
    refine ⟨[.record (record "a" "")], [.null], rfl, ?_, ?_⟩
    · simp only [List.forall_mem_singleton]
      exact ⟨_, .record ⟨rfl, hinside "a" (by decide +kernel)⟩ rfl⟩
    · intro f hf
      change Describes (.record [("name", .text "b")]) f at hf
      cases hf with
      | record _ hfilled => cases hfilled
  obtain ⟨-, -, -, -, hbad, -⟩ :=
    malformed_request_refused .tolerant tmpHome [] none tmpTree files false action
  obtain ⟨fault, hreports, hended⟩ := hbad bad hfirst
  change Reports (.record [("name", .text "b")]) fault at hreports
  cases hreports with
  | shown hother => exact absurd rfl (hother.2 _)
  | unwritable hother => exact absurd rfl (hother.2 _)
  | faulty hname hcontents =>
    refine ⟨hfirst, _, hended, hcontents.mpr ?_, ?_⟩
    · rintro ⟨contents, hfilled⟩
      cases hfilled
    · rw [hname, not_not]
      exact ⟨"b", rfl, hinside "b" (by decide +kernel)⟩

/-- An entry that is a number of too many digits: the request is malformed, and not told to be. -/
theorem malformed_request_untold :
    let files : Value := .list [.int (10 ^ Text.digitLimit : Nat)]
    let action : Action String Unit := fun _ t => (.ok (), t)
    ¬ WellFormed files ∧
      (run .tolerant tmpHome [] none tmpTree (checkMany files true) action).1 =
        .error (.argument .unwritable) := by
  intro files action
  have hnone (f : FileSpec) : ¬ Describes (.int (10 ^ Text.digitLimit : Nat)) f := nofun
  have hlong : Text.digitLimit <
      (Nat.digits 10 ((10 ^ Text.digitLimit : Nat) : Int).natAbs).length := by
    rw [← Nat.not_le, Nat.digits_length_le_iff (by decide), Int.natAbs_natCast]
    exact lt_irrefl _
  refine ⟨?_, run_eq_argument_iff.mpr (unwritable_iff.mpr ⟨_, ⟨[], [], rfl, ?_, hnone⟩, ?_, ?_⟩)⟩
  · rintro ⟨items, hitems, hall⟩
    obtain rfl := Option.some.inj hitems
    obtain ⟨f, hf⟩ := hall _ (List.mem_singleton_self _)
    exact hnone f hf
  · exact List.forall_mem_nil _
  · exact ⟨nofun, nofun⟩
  · exact ⟨_, .here, hlong⟩

end Scratch

end Linting
