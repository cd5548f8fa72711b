import Linting.CommandLine.Run
import Linting.Proofs.Diagnostic.Collection
import Linting.Proofs.Json.Plain
import Linting.Proofs.Number.Exact

/-! Diagnostics printed as JSON: in ASCII, and without loss. Whoever reads the text of a report as
JSON gets the records of the diagnostics back, in their order. There is no report if a coordinate
has too many digits, but no coordinate that was read from a text has. -/

namespace Linting
set_option autoImplicit false

/-! ## The records of diagnostics -/

namespace Diagnostic

theorem ofText_injective {s s' : Option String} (h : ofText s = ofText s') : s = s' := by
  cases s with
  | none =>
    cases s' with
    | none => rfl
    | some => cases h
  | some =>
    cases s' with
    | none => cases h
    | some => rw [Value.text.inj h]

theorem ofPoint_injective {p q : Point} (h : ofPoint p = ofPoint q) : p = q := by
  obtain ⟨line, column⟩ := p
  obtain ⟨line', column'⟩ := q
  simp only [ofPoint, Value.list.injEq, List.cons.injEq, Value.int.injEq, Int.natCast_inj] at h
  rw [h.1, h.2.1]

theorem toFields_injective {d e : Diagnostic} (h : d.toFields = e.toFields) : d = e := by
  obtain ⟨type, text, filePath, start, stop⟩ := d
  obtain ⟨type', text', filePath', start', stop'⟩ := e
  simp only [toFields, List.cons.injEq, Prod.mk.injEq, true_and, and_true, Value.list.injEq] at h
  obtain ⟨htype, htext, hpath, hstart, hstop⟩ := h
  rw [ofText_injective htype, ofText_injective htext, ofText_injective hpath,
    ofPoint_injective hstart, ofPoint_injective hstop]

/-- Diagnostics as one value: the list of their records. -/
def records (ds : List Diagnostic) : Value := .list (ds.map fun d => .record d.toFields)

theorem records_injective {ds es : List Diagnostic} (h : records ds = records es) : ds = es := by
  refine List.map_injective_iff.mpr ?_ (Value.list.inj h)
  intro d e hde
  exact toFields_injective (Value.record.inj hde)

end Diagnostic

namespace Json

theorem value_ofDiagnostic (d : Diagnostic) : (ofDiagnostic d).value = .record d.toFields := by
  have htext (s : Option String) : (ofText s).value = Diagnostic.ofText s := by cases s <;> rfl
  have hpoint (p : Point) : (ofPoint p).value = Diagnostic.ofPoint p := rfl
  simp only [ofDiagnostic, value, fieldValues, values, htext, hpoint, Diagnostic.toFields]

end Json

/-! ## Reports -/

/-- Whether no coordinate has more digits than may be written. -/
def Diagnostic.Writable (d : Diagnostic) : Prop :=
  ∀ n ∈ d.coordinates, (Nat.digits 10 n).length ≤ Text.digitLimit

theorem writable_of_parse {data source : String} {options : ParseOptions} {ds : List Diagnostic}
    (h : parse data source options = .ok ds) : ∀ d ∈ ds, d.Writable := by
  intro d hd n hn
  exact (Nat.le_length_digits_le 10 n (n + 1) n.le_succ).trans (length_digits_of_parse h hd hn)

namespace Json

theorem isWritable_ofDiagnostic_iff {d : Diagnostic} :
    (ofDiagnostic d).isWritable = true ↔ d.Writable := by
  have htext (s : Option String) : (ofText s).isWritable = true := by cases s <;> rfl
  simp only [ofDiagnostic, ofPoint, isWritable, fieldsWritable, areWritable, htext, Bool.true_and,
    Bool.and_true, Bool.and_eq_true, Text.isWritable_natCast_iff, and_assoc]
  rw [Diagnostic.Writable, Diagnostic.coordinates, List.forall_mem_cons, List.forall_mem_cons,
    List.forall_mem_cons, List.forall_mem_singleton]
  rfl

end Json

section
variable {ds : List Diagnostic} {text : String}

theorem report_eq_some_iff : report ds = some text ↔ (∀ d ∈ ds, d.Writable) ∧
    text = String.ofList ((Json.list (ds.map Json.ofDiagnostic)).written 0) := by
  rw [report, Json.toText?_eq_some_iff, Json.isWritable, Json.areWritable_eq_all, List.all_map,
    List.all_eq_true]
  simp only [Function.comp_apply, Json.isWritable_ofDiagnostic_iff]

theorem report_eq_none_iff : report ds = none ↔ ∃ d ∈ ds, ¬ d.Writable := by
  have hreport : (∃ text, report ds = some text) ↔ ∀ d ∈ ds, d.Writable := by
    simp only [report_eq_some_iff]
    exact ⟨fun ⟨_, h, _⟩ => h, fun h => ⟨_, h, rfl⟩⟩
  rw [← not_iff_not, ← ne_eq, Option.ne_none_iff_exists', hreport]
  simp only [not_exists, not_and, not_not]

theorem plain_report (h : report ds = some text) : Json.Plain text.toList := by
  rw [(report_eq_some_iff.mp h).2, String.toList_ofList]
  exact Json.plain_written _ 0

theorem denotes_report_iff {real : List Char → Value} {v : Value} (h : report ds = some text) :
    Json.Denotes real (text ++ "\n") v ↔ v = Diagnostic.records ds := by
  have hvalue : (Json.list (ds.map Json.ofDiagnostic)).value = Diagnostic.records ds := by
    rw [Json.value, Json.values_eq_map, List.map_map, Diagnostic.records]
    simp only [Function.comp_def, Json.value_ofDiagnostic]
  rw [Json.denotes_toText?_iff h rfl, hvalue]

end

namespace CommandLine

theorem withoutStyles_eq_self {chars : List Char} (h : '\x1b' ∉ chars) :
    withoutStyles chars = chars := by
  fun_induction withoutStyles chars with
  | case1 => rfl
  | case2 => exact absurd List.mem_cons_self h
  | case3 => exact absurd List.mem_cons_self h
  | case4 => rfl
  | case5 c rest _ ih => rw [ih (List.not_mem_of_not_mem_cons h)]

namespace ParseCommand

variable {s : Surroundings} {c : ParseCommand} {ds : List Diagnostic} {text output : String}

/-- A report holds no styles that printing could lose. -/
theorem printed_report (h : report ds = some text) (onTerminal : Bool) :
    printed onTerminal text = text ++ "\n" := by
  have hescape : '\x1b' ∉ text.toList := by
    intro hmem
    exact absurd ((plain_report h).isPlain hmem) (by decide)
  rw [printed, withoutStyles_eq_self hescape, String.ofList_toList, ite_self]

theorem present_of_report (s : Surroundings) (hjson : c.json = true)
    (h : report ds = some text) : c.present s ds = .ok (text ++ "\n") := by
  simp only [present, hjson, if_true, h, printed_report h]

theorem exists_report_of_present (hjson : c.json = true) (h : c.present s ds = .ok output) :
    ∃ text, report ds = some text ∧ output = text ++ "\n" := by
  cases hreport : report ds with
  | some text =>
    rw [present_of_report s hjson hreport] at h
    exact ⟨text, rfl, (Except.ok.inj h).symm⟩
  | none =>
    simp only [present, hjson, if_true, hreport] at h
    cases h

theorem present_eq_unwritable_iff (s : Surroundings) (hjson : c.json = true) :
    c.present s ds = .error (.render .unwritable) ↔ ∃ d ∈ ds, ¬ d.Writable := by
  rw [← report_eq_none_iff]
  cases hreport : report ds with
  | some text =>
    rw [present_of_report s hjson hreport]
    exact iff_of_false nofun nofun
  | none => exact iff_of_true (by simp only [present, hjson, if_true, hreport]) rfl

/-- A command that prints JSON fails for a coordinate with more digits than may be written, wherever
it is told to print one; no coordinate is that it read itself. All other diagnostics are printed in
ASCII. As JSON their text stands for the list of their records and nothing else, so every reader
that conforms takes it for that list, and no other diagnostics print as it. -/
theorem present_lossless (s : Surroundings) (c : ParseCommand) (hjson : c.json = true)
    (ds : List Diagnostic) :
    (c.present s ds = .error (.render .unwritable) ↔ ∃ d ∈ ds, ¬ d.Writable) ∧
    (∀ data source options, parse data source options = .ok ds → ∀ d ∈ ds, d.Writable) ∧
    ((∀ d ∈ ds, d.Writable) → ∃ text, c.present s ds = .ok text ∧
      (∀ data, parse data c.pattern { flags := c.flags, filePath := c.filePath } = .ok ds →
        (c.outcomeFor s data).output = text) ∧
      (∀ char ∈ text.toList, char.toNat < 128) ∧
      (∀ real v, Json.Denotes real text v ↔ v = Diagnostic.records ds) ∧
      (∀ read, Json.Conforms read → read text = some (Diagnostic.records ds)) ∧
      ∀ (s' : Surroundings) (other : ParseCommand) (es : List Diagnostic), other.json = true →
        other.present s' es = .ok text → es = ds) := by
  refine ⟨present_eq_unwritable_iff s hjson, fun _ _ _ => writable_of_parse, fun hwritable => ?_⟩
  obtain ⟨text, hreport⟩ : ∃ text, report ds = some text :=
    ⟨_, report_eq_some_iff.mpr ⟨hwritable, rfl⟩⟩
  have hpresent := present_of_report s hjson hreport
  refine ⟨text ++ "\n", hpresent, ?_, ?_, fun _ _ => denotes_report_iff hreport, ?_, ?_⟩
  · intro data hparse
    rw [outcomeFor, hparse]
    dsimp only
    rw [hpresent]
  · refine Json.Plain.toNat_lt ?_
    rw [String.toList_append]
    exact Json.plain_append_iff.mpr ⟨plain_report hreport, rfl⟩
  · rintro read ⟨real, hread⟩
    exact hread _ _ ((denotes_report_iff hreport).mpr rfl)
  · intro s' other es hother hsame
    obtain ⟨text', hreport', htext⟩ := exists_report_of_present hother hsame
    have hdenotes : Json.Denotes (fun _ => .null) (text' ++ "\n") (Diagnostic.records es) :=
      (denotes_report_iff hreport').mpr rfl
    rw [← htext] at hdenotes
    exact Diagnostic.records_injective ((denotes_report_iff hreport).mp hdenotes)

/-- A text of one character that takes two units, and a column of thirty-one digits. -/
theorem present_lossless_clef :
    let s : Surroundings := { tree := { entries := [] }, cwd := [], literal := fun _ => .ok () }
    let c : ParseCommand := { pattern := "", json := true }
    let ds : List Diagnostic := [{ text := some "𝄞", range := ⟨.zero, ⟨0, 10 ^ 30⟩⟩ }]
    c.json = true ∧ (∀ d ∈ ds, d.Writable) ∧
      ∃ text read, c.present s ds = .ok text ∧ Json.Conforms read ∧
        read text = some (Diagnostic.records ds) := by
  intro s c ds
  have hwritable : ∀ d ∈ ds, d.Writable := by
    intro d hd
    obtain rfl := List.mem_singleton.mp hd
    rw [← Json.isWritable_ofDiagnostic_iff]
    decide +kernel
  obtain ⟨text, hpresent, -, -, -, hread, -⟩ :=
    (present_lossless s c rfl ds).2.2 hwritable
  obtain ⟨read, hreader⟩ := Json.exists_reader fun _ => .null
  have hconforms : Json.Conforms read := ⟨_, hreader⟩
  exact ⟨rfl, hwritable, text, read, hpresent, hconforms, hread read hconforms⟩

/-- The first number that may not be written. -/
theorem present_unwritable :
    let s : Surroundings := { tree := { entries := [] }, cwd := [], literal := fun _ => .ok () }
    let c : ParseCommand := { pattern := "", json := true }
    c.present s [{ range := ⟨⟨Nat.pow 10 4300, 0⟩, .zero⟩ }] =
      .error (.render .unwritable) := by
  refine (present_eq_unwritable_iff _ rfl).mpr ⟨_, List.mem_singleton_self _, ?_⟩
  rw [← Json.isWritable_ofDiagnostic_iff]
  decide +kernel

end ParseCommand

end CommandLine

end Linting
