import Linting.Collector
import Linting.Proofs.Diagnostic.Numeral
import Linting.Proofs.Fallible

/-! The diagnostic of one match: which captures its fields are taken from, when it comes about, and
that the record it is built from is one that diagnostics are read from. -/

namespace Linting
set_option autoImplicit false

/-! ## Captures -/

/-- What a named group of a match has captured: nothing if it is not declared or took no part. -/
def Pattern.captured (p : Pattern) (data : String) (m : Regex.Match) (name : String) :
    Option String := do
  let group ← p.expression.names.lookup name
  let (start, stop) ← (m.groups[group - 1]?).join
  return String.ofList ((data.toList.take stop).drop start)

section Captures

variable {p : Pattern} {data : String} {m : Regex.Match} {name s : String}

theorem lookup_map_snd {α β : Type} (f : α → β) (pairs : List (String × α)) (name : String) :
    (pairs.map fun pair => (pair.1, f pair.2)).lookup name = (pairs.lookup name).map f := by
  induction pairs with
  | nil => rfl
  | cons pair pairs ih =>
    rw [List.map_cons, List.lookup_cons, List.lookup_cons, ih]
    cases name == pair.1 <;> rfl

theorem capture_captures (p : Pattern) (data : String) (m : Regex.Match) (name : String) :
    GroupMap.capture (m.captures p.expression.names (Pattern.textOf data)) name =
      p.captured data m name := by
  have hlookup := lookup_map_snd (fun group => (m.groups.getD (group - 1) none).map
    fun span => String.ofList ((Pattern.textOf data).extract span.1 span.2).toList)
    p.expression.names name
  rw [GroupMap.capture]
  change Option.join (List.lookup name (p.expression.names.map fun pair => (pair.1, _))) = _
  rw [hlookup, Pattern.captured]
  cases p.expression.names.lookup name with
  | none => rfl
  | some group =>
    change (m.groups.getD (group - 1) none).map _ = (m.groups[group - 1]?).join >>= _
    rw [List.getD_eq_getElem?_getD]
    rcases m.groups[group - 1]? with _ | _ | ⟨start, stop⟩
    · rfl
    · rfl
    · change some (String.ofList ((Pattern.textOf data).extract start stop).toList) = some _
      rw [Array.toList_extract, List.extract_eq_take_drop, Pattern.textOf, List.drop_take]

/-- A capture is a stretch of the data. -/
theorem captured_infix (h : p.captured data m name = some s) : s.toList <:+: data.toList := by
  rw [Pattern.captured, Option.bind_eq_bind, Option.bind_eq_some_iff] at h
  obtain ⟨group, -, h⟩ := h
  rw [Option.bind_eq_bind, Option.bind_eq_some_iff] at h
  obtain ⟨⟨start, stop⟩, -, h⟩ := h
  cases h
  rw [String.toList_ofList]
  exact (List.drop_suffix _ _).isInfix.trans (List.take_prefix _ _).isInfix

end Captures

/-! ## The first capture that is not empty -/

/-- The first of several captures that is there and not empty, or nothing if all are missing or
empty. -/
inductive FirstNonempty : List (Option String) → Option String → Prop where
  | nothing : FirstNonempty [] none
  | here {s : String} {rest : List (Option String)} (h : s ≠ "") :
    FirstNonempty (some s :: rest) (some s)
  | there {c r : Option String} {rest : List (Option String)} (h : c = none ∨ c = some "")
    (hrest : FirstNonempty rest r) : FirstNonempty (c :: rest) r

namespace FirstNonempty

theorem mem {captures : List (Option String)} {s : String}
    (h : FirstNonempty captures (some s)) : some s ∈ captures := by
  generalize hr : some s = r at h
  induction h with
  | nothing => cases hr
  | here hs =>
    obtain rfl := Option.some.inj hr
    exact List.mem_cons_self ..
  | there hc hrest ih => exact List.mem_cons_of_mem _ (ih hr)

theorem of_nonempty? (c : Option String) : FirstNonempty [c] (nonempty? c) := by
  cases c with
  | none => exact .there (.inl rfl) .nothing
  | some s =>
    rw [nonempty?]
    split
    · next h => exact .there (.inr (by rw [String.isEmpty_iff.mp h])) .nothing
    · next h => exact .here fun hs => h (String.isEmpty_iff.mpr hs)

theorem of_resolve (groups : GroupMap) (names : List String) :
    FirstNonempty (names.map groups.capture) (groups.resolve names) := by
  induction names with
  | nil => exact .nothing
  | cons name names ih =>
    rw [List.map_cons, GroupMap.resolve]
    cases groups.capture name with
    | none => exact .there (.inl rfl) ih
    | some s =>
      dsimp only
      split
      · next h => exact .there (.inr (by rw [String.isEmpty_iff.mp h])) ih
      · next h => exact .here fun hs => h (String.isEmpty_iff.mpr hs)

theorem unique {captures : List (Option String)} {r r' : Option String}
    (h : FirstNonempty captures r) (h' : FirstNonempty captures r') : r = r' := by
  induction h with
  | nothing =>
    cases h'
    rfl
  | here hs =>
    cases h' with
    | here => rfl
    | there hc =>
      rcases hc with hc | hc
      · cases hc
      · exact absurd (Option.some.inj hc) hs
  | there hc hrest ih =>
    cases h' with
    | here hs =>
      rcases hc with hc | hc
      · cases hc
      · exact absurd (Option.some.inj hc) hs
    | there _ hrest' => exact ih hrest'

/-- Where nothing is found among some captures, the search goes on among others. -/
theorem or_append {captures others : List (Option String)} {r r' : Option String}
    (h : FirstNonempty captures r) (h' : FirstNonempty others r') :
    FirstNonempty (captures ++ others) (r.or r') := by
  induction h with
  | nothing => exact h'
  | here hs => exact .here hs
  | there hc hrest ih => exact .there hc ih

end FirstNonempty

/-! ## Ranges -/

/-- The named groups that the coordinates are taken from, in the order of their reading. -/
def coordinateGroups : List (List String) :=
  [["lineStart", "line"], ["colStart", "col"], ["lineEnd", "line"], ["colEnd", "col"]]

namespace MatchFields

variable {f : MatchFields}

/-- The captures that the coordinates are read from. -/
def coordinates (f : MatchFields) : List (Option String) :=
  [f.lineStart, f.colStart, f.lineEnd, f.colEnd]

theorem ofGroups_coordinates (groups : GroupMap) (default : Option String) :
    (ofGroups groups default).coordinates = coordinateGroups.map groups.resolve := rfl

theorem range_eq_ok_iff {r : TextRange} :
    f.range = .ok r ↔
      Coordinate.normalize (Diagnostic.ofText f.lineStart) = .ok r.start.line ∧
      Coordinate.normalize (Diagnostic.ofText f.colStart) = .ok r.start.column ∧
      Coordinate.normalize (Diagnostic.ofText f.lineEnd) = .ok r.stop.line ∧
      Coordinate.normalize (Diagnostic.ofText f.colEnd) = .ok r.stop.column := by
  rw [range, rangeOf]
  simp only [bind_eq_ok_iff]
  constructor
  · rintro ⟨a, ha, b, hb, c, hc, d, hd, h⟩
    cases h
    exact ⟨ha, hb, hc, hd⟩
  · rintro ⟨ha, hb, hc, hd⟩
    exact ⟨_, ha, _, hb, _, hc, _, hd, rfl⟩

/-- The coordinate that cannot be read is reported. -/
theorem range_eq_error {e : CoordinateError} (h : f.range = .error e) :
    ∃ raw ∈ f.coordinates, Coordinate.normalize (Diagnostic.ofText raw) = .error e := by
  rw [range, rangeOf] at h
  rcases bind_eq_error_iff.mp h with h | ⟨_, -, h⟩
  · exact ⟨f.lineStart, by simp [coordinates], h⟩
  rcases bind_eq_error_iff.mp h with h | ⟨_, -, h⟩
  · exact ⟨f.colStart, by simp [coordinates], h⟩
  rcases bind_eq_error_iff.mp h with h | ⟨_, -, h⟩
  · exact ⟨f.lineEnd, by simp [coordinates], h⟩
  rcases bind_eq_error_iff.mp h with h | ⟨_, -, h⟩
  · exact ⟨f.colEnd, by simp [coordinates], h⟩
  cases h

/-- There is a range if every coordinate can be read, and only then. -/
theorem exists_range_iff :
    (∃ r, f.range = .ok r) ↔ ∀ raw ∈ f.coordinates, ∀ s ∈ raw, Coordinate.Readable s := by
  constructor
  · rintro ⟨r, hr⟩ raw hraw
    obtain ⟨ha, hb, hc, hd⟩ := range_eq_ok_iff.mp hr
    rw [coordinates, List.mem_cons, List.mem_cons, List.mem_cons, List.mem_singleton] at hraw
    rcases hraw with rfl | rfl | rfl | rfl
    · exact Coordinate.normalize_ok_iff.mp ⟨_, ha⟩
    · exact Coordinate.normalize_ok_iff.mp ⟨_, hb⟩
    · exact Coordinate.normalize_ok_iff.mp ⟨_, hc⟩
    · exact Coordinate.normalize_ok_iff.mp ⟨_, hd⟩
  · intro h
    cases hr : f.range with
    | ok r => exact ⟨r, rfl⟩
    | error e =>
      obtain ⟨raw, hraw, herror⟩ := range_eq_error hr
      obtain ⟨k, hk⟩ := Coordinate.normalize_ok_iff.mpr (h raw hraw)
      cases herror.symm.trans hk

/-! ## Records -/

/-- The record that the diagnostic of a match is read from. -/
def record (f : MatchFields) (range : TextRange) : List (String × Value) :=
  [("type", Diagnostic.ofText f.type), ("text", Diagnostic.ofText f.message),
    ("file_path", Diagnostic.ofText f.filePath),
    ("range", .tuple [.tuple [.int range.start.line, .int range.start.column],
      .tuple [.int range.stop.line, .int range.stop.column]])]

end MatchFields

/-- Why no diagnostic comes about if its record is checked: a coordinate cannot be read, or the
record is refused. -/
inductive RecordError where
  | coordinate (error : CoordinateError)
  | refused (faults : List Fault)

/-- The diagnostic of a match, read from its record. -/
def MatchFields.checked (f : MatchFields) : Except RecordError Diagnostic := do
  let range ← f.range.mapError .coordinate
  (Diagnostic.ofFields (f.record range)).mapError .refused

theorem readText_ofText (s : Option String) : Value.readText (Diagnostic.ofText s) = .ok s := by
  cases s <;> rfl

theorem readPair_tuple {α : Type} {read : Value → Except (List Fault) α} {v w : Value} {a b : α}
    (hv : read v = .ok a) (hw : read w = .ok b) :
    Value.readPair read (.tuple [v, w]) = .ok (a, b) := by
  unfold Value.readPair
  simp only [Value.items?, List.length_cons, List.length_nil, List.getElem?_cons_zero,
    List.getElem?_cons_succ, hv, hw]
  rfl

theorem readPoint_tuple (line column : Nat) :
    Value.readPoint (.tuple [.int line, .int column]) = .ok ⟨line, column⟩ := by
  have hread : ∀ n : Nat, Value.readCoordinate (.int n) = .ok n := fun _ => rfl
  rw [Value.readPoint, readPair_tuple (hread line) (hread column)]
  rfl

namespace MatchFields

variable (f : MatchFields)

/-- The record of a match is never refused. -/
theorem ofFields_record (range : TextRange) :
    Diagnostic.ofFields (f.record range) = .ok ⟨f.type, f.message, f.filePath, range⟩ := by
  have hrange : Value.readRange (.tuple [.tuple [.int range.start.line, .int range.start.column],
      .tuple [.int range.stop.line, .int range.stop.column]]) = .ok range := by
    rw [Value.readRange, readPair_tuple (readPoint_tuple ..) (readPoint_tuple ..)]
    rfl
  have hkey : filePathKey (f.record range) = "file_path" := rfl
  have hlookup (key : String) (v : Value) (h : (f.record range).lookup key = some v) {α : Type}
      (absent a : α) (read : Value → Except (List Fault) α) (hread : read v = .ok a) :
      Diagnostic.readField (f.record range) key absent read = .ok a := by
    rw [Diagnostic.readField, h]
    dsimp only
    rw [hread]
    rfl
  unfold Diagnostic.ofFields
  rw [hkey, hlookup "type" _ rfl _ _ _ (readText_ofText f.type),
    hlookup "text" _ rfl _ _ _ (readText_ofText f.message),
    hlookup "file_path" _ rfl _ _ _ (readText_ofText f.filePath),
    hlookup "range" _ rfl _ _ _ hrange]
  rfl

theorem checked_eq : f.checked = f.diagnostic.mapError .coordinate := by
  rw [checked, diagnostic]
  cases f.range with
  | error e => rfl
  | ok range =>
    change (Diagnostic.ofFields (f.record range)).mapError _ = _
    rw [ofFields_record]
    rfl

end MatchFields

end Linting
