import Linting.ParseOptions
import Linting.Proofs.Value.Fields

/-! The options of a parse: which values give which options, and what is told of all others. Of a
record, only the flags and one of the two keys for the file count. -/

namespace Linting.ParseOptions
open Value
set_option autoImplicit false

/-! ## Values of the two fields -/

inductive ReadsFlags : Value → String → Prop where
  | null : ReadsFlags .null ""
  | text (s : String) : ReadsFlags (.text s) s

inductive ReadsFile : Value → Option String → Prop where
  | null : ReadsFile .null none
  | text (s : String) : ReadsFile (.text s) (some s)
  | path (p : Path) : ReadsFile (.path p) (some p.toString)

def flagsRefused : FaultKind := .refused "flags must be a string"

def fileRefused : FaultKind := .refused "filePath must be a string or path-like object"

section
variable {v : Value} {flags : String} {file : Option String} {faults : List Fault}

theorem readFlags_eq_ok_iff : readFlags v = .ok flags ↔ ReadsFlags v flags := by
  constructor
  · intro h
    cases v with
    | null =>
      obtain rfl := Except.ok.inj h
      exact .null
    | text s =>
      obtain rfl := Except.ok.inj h
      exact .text s
    | _ => cases h
  · rintro ⟨⟩ <;> rfl

theorem readFlags_eq_error (h : readFlags v = .error faults) : faults = [.here flagsRefused] := by
  cases v with
  | null => cases h
  | text s => cases h
  | _ => exact (Except.error.inj h).symm

theorem readFilePath_eq_ok_iff : readFilePath v = .ok file ↔ ReadsFile v file := by
  constructor
  · intro h
    cases v with
    | null =>
      obtain rfl := Except.ok.inj h
      exact .null
    | text s =>
      obtain rfl := Except.ok.inj h
      exact .text s
    | path p =>
      obtain rfl := Except.ok.inj h
      exact .path p
    | _ => cases h
  · rintro ⟨⟩ <;> rfl

theorem readFilePath_eq_error (h : readFilePath v = .error faults) :
    faults = [.here fileRefused] := by
  cases v with
  | null => cases h
  | text s => cases h
  | path p => cases h
  | _ => exact (Except.error.inj h).symm

instance (v : Value) : Decidable (∃ flags, ReadsFlags v flags) :=
  decidableReads (fun _ _ => readFlags_eq_ok_iff) v

instance (v : Value) : Decidable (∃ file, ReadsFile v file) :=
  decidableReads (fun _ _ => readFilePath_eq_ok_iff) v

end

/-! ## Records -/

/-- The flags of a record, none if it has no entry for them. -/
abbrev HasFlags (fields : List (String × Value)) : String → Prop :=
  Given "" ReadsFlags (fields.lookup "flags")

/-- The file of a record, by the entry that counts. -/
abbrev HasFile (fields : List (String × Value)) : Option String → Prop :=
  Given none ReadsFile (fileEntry fields).2

section
variable {fields : List (String × Value)} {o : ParseOptions}

theorem ofFields_eq_ok_iff :
    ofFields fields = .ok o ↔ HasFlags fields o.flags ∧ HasFile fields o.filePath := by
  have hflags (flags : String) :
      Diagnostic.readField fields "flags" "" readFlags = .ok flags ↔ HasFlags fields flags :=
    readField_eq_ok_iff fun _ _ => readFlags_eq_ok_iff
  have hfile (file : Option String) :
      Diagnostic.readField fields (filePathKey fields) none readFilePath = .ok file ↔
        HasFile fields file := by
    rw [HasFile, fileEntry_eq]
    exact readField_eq_ok_iff fun _ _ => readFilePath_eq_ok_iff
  unfold ofFields
  rw [map_eq_ok_iff]
  constructor
  · rintro ⟨⟨flags, file⟩, hboth, rfl⟩
    rw [both_eq_ok_iff, hflags, hfile] at hboth
    exact hboth
  · intro h
    refine ⟨(o.flags, o.filePath), ?_, rfl⟩
    rwa [both_eq_ok_iff, hflags, hfile]

/-- The faults of a record: one for each of the two fields that cannot be read, the flags first. -/
theorem faultsOf_ofFields (fields : List (String × Value)) : faultsOf (ofFields fields) =
    (if ∃ flags, HasFlags fields flags then [] else [⟨[.key "flags"], flagsRefused⟩]) ++
      if ∃ file, HasFile fields file then [] else [⟨[.key (fileEntry fields).1], fileRefused⟩] := by
  have hflags : faultsOf (Diagnostic.readField fields "flags" "" readFlags) =
      if ∃ flags, HasFlags fields flags then [] else [⟨[.key "flags"], flagsRefused⟩] :=
    faultsOf_readField (fun _ _ => readFlags_eq_ok_iff) fun _ _ => readFlags_eq_error
  have hfile : faultsOf (Diagnostic.readField fields (filePathKey fields) none readFilePath) =
      if ∃ file, Given none ReadsFile (fields.lookup (filePathKey fields)) file then []
      else [⟨[.key (filePathKey fields)], fileRefused⟩] :=
    faultsOf_readField (fun _ _ => readFilePath_eq_ok_iff) fun _ _ => readFilePath_eq_error
  unfold ofFields
  rw [faultsOf_map, faultsOf_both, hflags, hfile]
  simp only [HasFile, fileEntry_eq]

end

/-! ## Main statement -/

/-- The options that a value gives: nothing and options give options, and so does a record whose two
fields may be read. -/
inductive Gives : Value → ParseOptions → Prop where
  | null : Gives .null {}
  | options (o : ParseOptions) : Gives (.options o) o
  | record {fields : List (String × Value)} {o : ParseOptions} (flags : HasFlags fields o.flags)
    (file : HasFile fields o.filePath) : Gives (.record fields) o

/-- A value of which no options are read, whatever it holds. -/
def IsOther (v : Value) : Prop :=
  v ≠ .null ∧ (∀ o, v ≠ .options o) ∧ ∀ fields, v ≠ .record fields

theorem ofValue_of_other {v : Value} (h : IsOther v) : ofValue v = .error (.notRecord v.kind) := by
  obtain ⟨hnull, hoptions, hrecord⟩ := h
  cases v with
  | null => exact absurd rfl hnull
  | options o => exact absurd rfl (hoptions o)
  | record fields => exact absurd rfl (hrecord fields)
  | _ => rfl

theorem ofValue_record (fields : List (String × Value)) :
    ofValue (.record fields) = (ofFields fields).mapError .faulty := rfl

theorem ofValue_eq_ok_iff {v : Value} {o : ParseOptions} : ofValue v = .ok o ↔ Gives v o := by
  by_cases hother : IsOther v
  · rw [ofValue_of_other hother]
    refine iff_of_false nofun fun h => ?_
    obtain ⟨hnull, hoptions, hrecord⟩ := hother
    cases h with
    | null => exact hnull rfl
    | options o => exact hoptions o rfl
    | record => exact hrecord _ rfl
  · cases v with
    | null =>
      constructor
      · intro h
        obtain rfl := Except.ok.inj h
        exact .null
      · rintro ⟨⟩
        rfl
    | options other =>
      constructor
      · intro h
        obtain rfl := Except.ok.inj h
        exact .options other
      · rintro ⟨⟩
        rfl
    | record fields =>
      rw [ofValue_record, mapError_eq_ok_iff, ofFields_eq_ok_iff]
      constructor
      · rintro ⟨hflags, hfile⟩
        exact .record hflags hfile
      · rintro (_ | _ | ⟨hflags, hfile⟩)
        exact ⟨hflags, hfile⟩
    | _ => exact absurd ⟨nofun, nofun, nofun⟩ hother

theorem exists_gives_iff {fields : List (String × Value)} : (∃ o, Gives (.record fields) o) ↔
    (∃ flags, HasFlags fields flags) ∧ ∃ file, HasFile fields file := by
  constructor
  · rintro ⟨o, _ | _ | ⟨hflags, hfile⟩⟩
    exact ⟨⟨_, hflags⟩, _, hfile⟩
  · rintro ⟨⟨flags, hflags⟩, file, hfile⟩
    exact ⟨⟨flags, file⟩, .record hflags hfile⟩

/-- A record is refused for its faults. -/
theorem ofValue_record_eq_faulty_iff {fields : List (String × Value)} {faults : List Fault} :
    ofValue (.record fields) = .error (.faulty faults) ↔
      (¬ ∃ o, Gives (.record fields) o) ∧ faults = faultsOf (ofFields fields) := by
  simp only [← ofValue_eq_ok_iff, ofValue_record, mapError_eq_ok_iff, mapError_eq_error_iff]
  cases ofFields fields with
  | ok o =>
    refine iff_of_false ?_ fun h => h.1 ⟨o, rfl⟩
    rintro ⟨bare, hbare, -⟩
    cases hbare
  | error bare =>
    constructor
    · rintro ⟨_, ⟨⟩, ⟨⟩⟩
      exact ⟨nofun, rfl⟩
    · rintro ⟨-, rfl⟩
      exact ⟨_, rfl, rfl⟩

/-- Only a record is refused for its faults. -/
theorem exists_record_of_faulty {v : Value} {faults : List Fault}
    (h : ofValue v = .error (.faulty faults)) : ∃ fields, v = .record fields := by
  cases v with
  | record fields => exact ⟨fields, rfl⟩
  | _ => cases h

theorem ofValue_eq_notRecord_iff {v : Value} {kind : String} :
    ofValue v = .error (.notRecord kind) ↔ IsOther v ∧ kind = v.kind := by
  constructor
  · intro h
    have hother : IsOther v := by
      refine ⟨?_, ?_, ?_⟩
      · rintro rfl
        cases h
      · rintro o rfl
        cases h
      · rintro fields rfl
        obtain ⟨faults, -, hfaults⟩ := mapError_eq_error_iff.mp h
        cases hfaults
    rw [ofValue_of_other hother] at h
    cases h
    exact ⟨hother, rfl⟩
  · rintro ⟨hother, rfl⟩
    exact ofValue_of_other hother

theorem ofFields_congr {fields fields' : List (String × Value)}
    (hflags : fields'.lookup "flags" = fields.lookup "flags")
    (hfile : fileEntry fields' = fileEntry fields) : ofFields fields' = ofFields fields := by
  rw [fileEntry_eq, fileEntry_eq, Prod.mk.injEq] at hfile
  obtain ⟨hkey, hentry⟩ := hfile
  unfold ofFields Diagnostic.readField
  rw [hflags, hentry, hkey]

/-- Options come of nothing, of options, and of a record whose flags are absent, nothing or a text
and whose file, under the key that counts, is absent, nothing, a text or a path. Any other value is
told by its kind, and a record by the fields that fail, and no others. No other entry matters. -/
theorem options_accepted_exactly (v : Value) :
    (∀ o, ofValue v = .ok o ↔ Gives v o) ∧
    (∀ kind, ofValue v = .error (.notRecord kind) ↔ IsOther v ∧ kind = v.kind) ∧
    (∀ faults, ofValue v = .error (.faulty faults) ↔
      ∃ fields, v = .record fields ∧
        ¬ ((∃ flags, HasFlags fields flags) ∧ ∃ file, HasFile fields file) ∧
        faults =
          (if ∃ flags, HasFlags fields flags then []
            else [⟨[.key "flags"], .refused "flags must be a string"⟩]) ++
          if ∃ file, HasFile fields file then []
            else [⟨[.key (fileEntry fields).1],
              .refused "filePath must be a string or path-like object"⟩]) ∧
    ∀ fields fields', v = .record fields →
      fields'.lookup "flags" = fields.lookup "flags" →
      fields'.lookup "filePath" = fields.lookup "filePath" →
      (fields.lookup "filePath" = none →
        fields'.lookup "file_path" = fields.lookup "file_path") →
      ofValue (.record fields') = ofValue v := by
  refine ⟨fun o => ofValue_eq_ok_iff, fun kind => ofValue_eq_notRecord_iff, fun faults => ?_, ?_⟩
  · constructor
    · intro h
      obtain ⟨fields, rfl⟩ := exists_record_of_faulty h
      rw [ofValue_record_eq_faulty_iff, exists_gives_iff, faultsOf_ofFields] at h
      exact ⟨fields, rfl, h⟩
    · rintro ⟨fields, rfl, h⟩
      rw [ofValue_record_eq_faulty_iff, exists_gives_iff, faultsOf_ofFields]
      exact h
  · rintro fields fields' rfl hflags hnew hold
    have hfile : fileEntry fields' = fileEntry fields := by
      unfold fileEntry
      rw [hnew]
      cases hentry : fields.lookup "filePath" with
      | some v => rfl
      | none => exact congrArg _ (hold hentry)
    rw [ofValue_record, ofFields_congr hflags hfile, ofValue_record]

/-- A record whose flags are a number and whose file is a list under the key that counts, with a
file under the other key; and one whose file is nothing under the key that counts. -/
theorem options_accepted_exactly_both_keys :
    let bad : Value :=
      .record [("file_path", .text "a.c"), ("filePath", .list []), ("flags", .int 1)]
    let good : Value := .record [("file_path", .int 1), ("filePath", .null), ("mode", .list [])]
    ofValue bad = .error (.faulty [⟨[.key "flags"], .refused "flags must be a string"⟩,
        ⟨[.key "filePath"], .refused "filePath must be a string or path-like object"⟩]) ∧
      ofValue good = .ok ⟨"", none⟩ ∧
      ofValue (.record [("filePath", .null), ("file_path", .bool true)]) = ofValue good := by
  intro bad good
  obtain ⟨-, -, hbad, -⟩ := options_accepted_exactly bad
  obtain ⟨hgood, -, -, hothers⟩ := options_accepted_exactly good
  refine ⟨(hbad _).mpr ⟨_, rfl, ?_, by decide⟩, (hgood _).mpr (.record .absent (.present .null)),
    hothers _ _ rfl rfl rfl nofun⟩
  decide

end Linting.ParseOptions
