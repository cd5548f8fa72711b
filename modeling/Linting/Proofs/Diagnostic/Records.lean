import Linting.Proofs.Value.Coordinates

/-! Diagnostics and records. Which records describe a diagnostic, whatever its parts are written
with, and that the record of a diagnostic, which has one form only, describes it and no other. -/

namespace Linting
set_option autoImplicit false

/-! ## Parts of a record -/

namespace Value

variable {v : Value}

/-- What counts as a text that may be missing: nothing, a text, or the bytes of one. -/
inductive ReadsText : Value → Option String → Prop where
  | null : ReadsText .null none
  | text (s : String) : ReadsText (.text s) (some s)
  | bytes {bs : List UInt8} {s : String} (decoded : Text.decode? bs = some s) :
    ReadsText (.bytes bs) (some s)

/-- A point is two coordinates, the line first. -/
def ReadsPoint (v : Value) (p : Point) : Prop := Pair ReadsCoordinate v p.line p.column

def ReadsRange (v : Value) (r : TextRange) : Prop := Pair ReadsPoint v r.start r.stop

theorem readText_eq_ok_iff {s : Option String} : v.readText = .ok s ↔ ReadsText v s := by
  cases v with
  | null =>
    constructor
    · intro h
      obtain rfl := Except.ok.inj h
      exact .null
    · rintro ⟨⟩
      rfl
  | text t =>
    constructor
    · intro h
      obtain rfl := Except.ok.inj h
      exact .text t
    · rintro ⟨⟩
      rfl
  | bytes bs =>
    rw [readText]
    cases hdecode : Text.decode? bs with
    | none =>
      refine iff_of_false nofun ?_
      rintro (_ | _ | hsome)
      cases hdecode.symm.trans hsome
    | some t =>
      constructor
      · intro h
        obtain rfl := Except.ok.inj h
        exact .bytes hdecode
      · rintro (_ | _ | hsome)
        rw [Option.some.inj (hdecode.symm.trans hsome)]
  | _ => exact iff_of_false nofun nofun

theorem readPoint_eq_ok_iff {p : Point} : v.readPoint = .ok p ↔ ReadsPoint v p := by
  rw [readPoint, ReadsPoint, map_eq_ok_iff,
    ← readPair_eq_ok_iff fun _ _ => readCoordinate_eq_ok_iff]
  constructor
  · rintro ⟨⟨line, column⟩, hpair, rfl⟩
    exact hpair
  · intro hpair
    exact ⟨_, hpair, rfl⟩

theorem readRange_eq_ok_iff {r : TextRange} : v.readRange = .ok r ↔ ReadsRange v r := by
  rw [readRange, ReadsRange, map_eq_ok_iff, ← readPair_eq_ok_iff fun _ _ => readPoint_eq_ok_iff]
  constructor
  · rintro ⟨⟨start, stop⟩, hpair, rfl⟩
    exact hpair
  · intro hpair
    exact ⟨_, hpair, rfl⟩

end Value

/-! ## Records -/

namespace Diagnostic
open Value

variable {fields : List (String × Value)} {d : Diagnostic}

/-- A record describes a diagnostic by the entries of four keys, of which each may be missing; the
file has two keys, and one of them counts. -/
structure Describes (fields : List (String × Value)) (d : Diagnostic) : Prop where
  type : Given none ReadsText (fields.lookup "type") d.type
  text : Given none ReadsText (fields.lookup "text") d.text
  file : Given none ReadsText (fileEntry fields).2 d.filePath
  range : Given .zero ReadsRange (fields.lookup "range") d.range

theorem ofFields_eq_ok_iff : ofFields fields = .ok d ↔ Describes fields d := by
  have htext (key : String) (s : Option String) : readField fields key none readText = .ok s ↔
      Given none ReadsText (fields.lookup key) s :=
    readField_eq_ok_iff fun _ _ => readText_eq_ok_iff
  have hrange (r : TextRange) : readField fields "range" .zero readRange = .ok r ↔
      Given .zero ReadsRange (fields.lookup "range") r :=
    readField_eq_ok_iff fun _ _ => readRange_eq_ok_iff
  unfold ofFields
  simp only [map_eq_ok_iff, both_eq_ok_iff, htext, hrange]
  constructor
  · rintro ⟨⟨type, text, file, range⟩, ⟨htype, htext, hfile, hrange⟩, rfl⟩
    exact ⟨htype, htext, by rwa [fileEntry_eq], hrange⟩
  · rintro ⟨htype, htext, hfile, hrange⟩
    rw [fileEntry_eq] at hfile
    exact ⟨(d.type, d.text, d.filePath, d.range), ⟨htype, htext, hfile, hrange⟩, rfl⟩

theorem readsText_ofText (s : Option String) : ReadsText (ofText s) s := by
  cases s with
  | none => exact .null
  | some s => exact .text s

theorem readsPoint_ofPoint (p : Point) : ReadsPoint (ofPoint p) p :=
  .list (.int p.line) (.int p.column)

theorem describes_toFields (d : Diagnostic) : Describes d.toFields d where
  type := .present (readsText_ofText d.type)
  text := .present (readsText_ofText d.text)
  file := .present (readsText_ofText d.filePath)
  range := .present (.list (readsPoint_ofPoint d.range.start) (readsPoint_ofPoint d.range.stop))

theorem ofFields_toFields (d : Diagnostic) : ofFields d.toFields = .ok d :=
  ofFields_eq_ok_iff.mpr (describes_toFields d)

/-! ## Main statement -/

/-- A record is accepted exactly if it describes a diagnostic, which it gives then. Whatever record
that was, the diagnostic has one of its own, with the four coordinates of its start and its stop as
natural numbers in lists. That record is accepted and gives it back, is the record of what it gives,
and belongs to no other diagnostic. -/
theorem record_reads_back (fields : List (String × Value)) (d : Diagnostic) :
    (ofFields fields = .ok d ↔ Describes fields d) ∧
    (∃ a b c e : Nat, d.start = ⟨a, b⟩ ∧ d.stop = ⟨c, e⟩ ∧ d.range = ⟨d.start, d.stop⟩ ∧
      d.toFields.lookup "range" =
        some (.list [.list [.int a, .int b], .list [.int c, .int e]])) ∧
    ofFields d.toFields = .ok d ∧
    (∀ again, ofFields d.toFields = .ok again → again.toFields = d.toFields) ∧
    (∀ other, other.toFields = d.toFields → other = d) ∧
    ∀ n, (Nat.digits 10 n).length ≤ Text.digitLimit → ReadsCoordinate (.text (toString n)) n := by
  have hback := ofFields_toFields d
  refine ⟨ofFields_eq_ok_iff, ⟨_, _, _, _, rfl, rfl, rfl, rfl⟩, hback, ?_, ?_,
    fun n => readsCoordinate_toString⟩
  · intro again hagain
    rw [Except.ok.inj (hagain.symm.trans hback)]
  · intro other hother
    have hother' := ofFields_toFields other
    rw [hother, hback] at hother'
    exact (Except.ok.inj hother').symm

/-- A record with an unknown key and two keys for the file, one of them with bytes, and coordinates
written as a numeral, a truth value, a floating-point number and a number of thirty-one digits. -/
theorem record_reads_back_mixed :
    let three : Number.Binary64 := .finite false (3 * Number.Binary64.unitsPerOne)
    let fields : List (String × Value) := [("file_path", .int 1), ("level", .list []),
      ("filePath", .bytes [0x61]),
      ("range", .tuple [.list [.text "12", .bool true],
        .tuple [.float three, .int (10 ^ 30 : Nat)]])]
    let d : Diagnostic := ⟨none, none, some "a", ⟨⟨12, 1⟩, ⟨3, 10 ^ 30⟩⟩⟩
    ofFields fields = .ok d ∧ ofFields d.toFields = .ok d := by
  intro three fields d
  obtain ⟨haccepted, -, hback, -, -, hnumeral⟩ := record_reads_back fields d
  have hthree : three.exact? = some ((3 : Nat) : ℚ) := Number.exact_whole 3
  have hrange : ReadsRange (.tuple [.list [.text "12", .bool true],
      .tuple [.float three, .int (10 ^ 30 : Nat)]]) d.range :=
    .tuple (.list (hnumeral 12 (by decide +kernel)) (.bool true))
      (.tuple (.float hthree (by decide)) (.int (10 ^ 30)))
  refine ⟨haccepted.mpr ⟨.absent, .absent, .present (.bytes ?_), .present hrange⟩, hback⟩
  decide +kernel

end Diagnostic

end Linting
