import Linting.Proofs.Diagnostic.Fields

/-! Collecting diagnostics: there is one for each match, with the fields that the match gives it,
unless a capture is a number that cannot be read as one. Main results: when diagnostics are
collected at all, and what they are then. -/

namespace Linting
set_option autoImplicit false

/-! ## The diagnostic of a match -/

namespace Pattern

variable (p : Pattern) (data : String) (m : Regex.Match)

/-- Whether a coordinate of the match is read from a capture: it is the first of its groups'
captures that is not empty. -/
def CoordinateCapture (raw : String) : Prop :=
  ∃ names ∈ coordinateGroups, FirstNonempty (names.map (p.captured data m)) (some raw)

/-- Whether a number is what the captures of some groups count as. -/
def CoordinateFrom (names : List String) (k : Nat) : Prop :=
  ∃ raw, FirstNonempty (names.map (p.captured data m)) raw ∧ Coordinate.Counts raw k

/-- What a match says of its diagnostic. Type and message are captures as they are, empty ones
included. -/
structure Describes (default : Option String) (m : Regex.Match) (d : Diagnostic) : Prop where
  type : d.type = p.captured data m "type"
  text : d.text = p.captured data m "message"
  filePath : FirstNonempty [p.captured data m "file", default] d.filePath
  startLine : p.CoordinateFrom data m ["lineStart", "line"] d.range.start.line
  startColumn : p.CoordinateFrom data m ["colStart", "col"] d.range.start.column
  stopLine : p.CoordinateFrom data m ["lineEnd", "line"] d.range.stop.line
  stopColumn : p.CoordinateFrom data m ["colEnd", "col"] d.range.stop.column

variable {p data m} {default : Option String}

theorem resolve_captures (p : Pattern) (data : String) (m : Regex.Match) (names : List String) :
    FirstNonempty (names.map (p.captured data m))
      (GroupMap.resolve (m.captures p.expression.names (textOf data)) names) := by
  have hcaptures := FirstNonempty.of_resolve (m.captures p.expression.names (textOf data)) names
  rwa [funext (capture_captures p data m)] at hcaptures

theorem coordinateFrom_of_normalize {names : List String} {k : Nat}
    (h : Coordinate.normalize (Diagnostic.ofText
      (GroupMap.resolve (m.captures p.expression.names (textOf data)) names)) = .ok k) :
    p.CoordinateFrom data m names k :=
  ⟨_, resolve_captures p data m names, Coordinate.counts_of_normalize h⟩

theorem coordinateCapture_iff {raw : String} :
    p.CoordinateCapture data m raw ↔
      some raw ∈ (MatchFields.ofGroups (m.captures p.expression.names (textOf data))
        default).coordinates := by
  rw [MatchFields.ofGroups_coordinates, List.mem_map]
  constructor
  · rintro ⟨names, hnames, hfirst⟩
    exact ⟨names, hnames, (resolve_captures p data m names).unique hfirst⟩
  · rintro ⟨names, hnames, hresolve⟩
    exact ⟨names, hnames, hresolve ▸ resolve_captures p data m names⟩

/-- What a coordinate is read from is a stretch of the data. -/
theorem CoordinateCapture.infix {raw : String} (h : p.CoordinateCapture data m raw) :
    raw.toList <:+: data.toList := by
  obtain ⟨names, -, hfirst⟩ := h
  obtain ⟨name, -, hname⟩ := List.mem_map.mp hfirst.mem
  exact captured_infix hname

end Pattern

section Matches

variable {p : Pattern} {data : String} {filePath : Option String}

theorem describes_of_diagnosticOf {m : Regex.Match} {d : Diagnostic}
    (h : diagnosticOf p (Pattern.textOf data) filePath m = .ok d) :
    p.Describes data filePath m d := by
  rw [diagnosticOf, MatchFields.diagnostic, map_eq_ok_iff] at h
  obtain ⟨r, hr, rfl⟩ := h
  obtain ⟨hstartLine, hstartColumn, hstopLine, hstopColumn⟩ := MatchFields.range_eq_ok_iff.mp hr
  refine
    { type := capture_captures p data m "type"
      text := capture_captures p data m "message"
      filePath := ?_
      startLine := Pattern.coordinateFrom_of_normalize hstartLine
      startColumn := Pattern.coordinateFrom_of_normalize hstartColumn
      stopLine := Pattern.coordinateFrom_of_normalize hstopLine
      stopColumn := Pattern.coordinateFrom_of_normalize hstopColumn }
  exact (Pattern.resolve_captures p data m ["file"]).or_append (.of_nonempty? filePath)

theorem exists_diagnosticOf_iff {m : Regex.Match} :
    (∃ d, diagnosticOf p (Pattern.textOf data) filePath m = .ok d) ↔
      ∀ raw, p.CoordinateCapture data m raw → Coordinate.Readable raw := by
  have hrange : (∃ d, diagnosticOf p (Pattern.textOf data) filePath m = .ok d) ↔
      ∃ r, (MatchFields.ofGroups (m.captures p.expression.names (Pattern.textOf data))
        filePath).range = .ok r := by
    simp only [diagnosticOf, MatchFields.diagnostic, map_eq_ok_iff]
    constructor
    · rintro ⟨_, r, hr, -⟩
      exact ⟨r, hr⟩
    · rintro ⟨r, hr⟩
      exact ⟨_, r, hr, rfl⟩
  rw [hrange, MatchFields.exists_range_iff]
  constructor
  · intro h raw hraw
    exact h _ (Pattern.coordinateCapture_iff.mp hraw) raw rfl
  · rintro h raw hraw s hs
    obtain rfl := Option.mem_def.mp hs
    exact h s (Pattern.coordinateCapture_iff.mpr hraw)

/-- A match has no diagnostic if it captures a number that cannot be read, and the number is
told. -/
theorem refused_of_diagnosticOf {m : Regex.Match} {e : CoordinateError}
    (h : diagnosticOf p (Pattern.textOf data) filePath m = .error e) :
    ∃ (raw : String) (n : Coordinate.Numeral), p.CoordinateCapture data m raw ∧
      n.text = raw.toList ∧ ¬ n.Admissible ∧
      (e = .unreadable raw ∨ e = .tooManyDigits n.digits.length) := by
  rw [diagnosticOf, MatchFields.diagnostic] at h
  cases hrange : (MatchFields.ofGroups (m.captures p.expression.names (Pattern.textOf data))
    filePath).range with
  | ok r =>
    rw [hrange] at h
    cases h
  | error e' =>
    rw [hrange] at h
    cases h
    obtain ⟨raw, hraw, hnormalize⟩ := MatchFields.range_eq_error hrange
    obtain ⟨s, n, rfl, hrest⟩ := Coordinate.refused_of_normalize hnormalize
    exact ⟨s, n, Pattern.coordinateCapture_iff.mpr hraw, hrest⟩

end Matches

/-- The numbers that a diagnostic counts lines and columns with. -/
def Diagnostic.coordinates (d : Diagnostic) : List Nat :=
  [d.start.line, d.start.column, d.stop.line, d.stop.column]

/-! ## All matches -/

/-- The diagnostics of all matches, each read from its record. -/
def checkedIn (p : Pattern) (data : String) (filePath : Option String) :
    Except RecordError (List Diagnostic) :=
  (p.matchesIn (Pattern.textOf data)).mapM fun m =>
    (MatchFields.ofGroups (m.captures p.expression.names (Pattern.textOf data)) filePath).checked

theorem checkedIn_eq (p : Pattern) (data : String) (filePath : Option String) :
    checkedIn p data filePath = (diagnosticsIn p data filePath).mapError .coordinate := by
  simp only [checkedIn, MatchFields.checked_eq]
  exact mapM_mapError _ _ _

section Collect

variable {data source : String} {given : Value} {options : ParseOptions} {p : Pattern}

theorem parse_eq (hp : Pattern.compile source options.flags = .ok p) :
    parse data source options =
      (diagnosticsIn p data options.filePath).mapError .coordinate := by
  rw [parse, hp]

theorem parse_eq_ok_iff {ds : List Diagnostic} :
    parse data source options = .ok ds ↔
      ∃ p, Pattern.compile source options.flags = .ok p ∧
        diagnosticsIn p data options.filePath = .ok ds := by
  cases hcompile : Pattern.compile source options.flags with
  | error e =>
    rw [parse, hcompile]
    constructor
    · intro h
      cases h
    · rintro ⟨p, hp, -⟩
      cases hp
  | ok p =>
    rw [parse_eq hcompile, mapError_eq_ok_iff]
    constructor
    · exact fun h => ⟨p, rfl, h⟩
    · rintro ⟨p', hp', h⟩
      cases hp'
      exact h

theorem parse_error {e : Pattern.CompileError}
    (h : Pattern.compile source options.flags = .error e) :
    parse data source options = .error (.compile e) := by
  rw [parse, h]

/-- Coordinates that were read may be written, also when they are counted from one. -/
theorem length_digits_of_parse {ds : List Diagnostic} {d : Diagnostic} {n : Nat}
    (h : parse data source options = .ok ds) (hd : d ∈ ds) (hn : n ∈ d.coordinates) :
    (Nat.digits 10 (n + 1)).length ≤ Text.digitLimit := by
  obtain ⟨p, -, hds⟩ := parse_eq_ok_iff.mp h
  obtain ⟨m, -, hm⟩ := exists_of_mem_mapM hds hd
  rw [diagnosticOf, MatchFields.diagnostic, map_eq_ok_iff] at hm
  obtain ⟨r, hr, rfl⟩ := hm
  obtain ⟨hstartLine, hstartColumn, hstopLine, hstopColumn⟩ := MatchFields.range_eq_ok_iff.mp hr
  rw [Diagnostic.coordinates, List.mem_cons, List.mem_cons, List.mem_cons,
    List.mem_singleton] at hn
  rcases hn with rfl | rfl | rfl | rfl
  · exact Coordinate.length_digits_of_normalize hstartLine
  · exact Coordinate.length_digits_of_normalize hstartColumn
  · exact Coordinate.length_digits_of_normalize hstopLine
  · exact Coordinate.length_digits_of_normalize hstopColumn

theorem collect_text (hoptions : ParseOptions.ofValue given = .ok options) :
    (collect (.text data) (.text source) given).1 = parse data source options := by
  have hcheck : CollectRequest.check (.text data) (.text source) given =
      .ok ⟨data, source, options⟩ := by
    rw [CollectRequest.check, hoptions]
    rfl
  rw [collect, hcheck]

theorem collect_eq (hoptions : ParseOptions.ofValue given = .ok options)
    (hp : Pattern.compile source options.flags = .ok p) :
    (collect (.text data) (.text source) given).1 =
      (diagnosticsIn p data options.filePath).mapError .coordinate := by
  rw [collect_text hoptions, parse_eq hp]

/-- Diagnostics are collected exactly if every capture that a coordinate is read from may be read.
Otherwise a numeral is told that may not be: it has too many digits, or white space around it that
numbers may not have. Where the data holds no such numeral, there is nothing to tell. -/
theorem collect_returns_iff (hoptions : ParseOptions.ofValue given = .ok options)
    (hp : Pattern.compile source options.flags = .ok p) :
    ((∃ ds, (collect (.text data) (.text source) given).1 = .ok ds) ↔
      ∀ m ∈ p.matchesIn (Pattern.textOf data), ∀ raw, p.CoordinateCapture data m raw →
        Coordinate.Readable raw) ∧
    (∀ e, (collect (.text data) (.text source) given).1 = .error e →
      ∃ m ∈ p.matchesIn (Pattern.textOf data), ∃ (raw : String) (n : Coordinate.Numeral),
        p.CoordinateCapture data m raw ∧ n.text = raw.toList ∧ ¬ n.Admissible ∧
        (e = .coordinate (.unreadable raw) ∨
          e = .coordinate (.tooManyDigits n.digits.length))) ∧
    ((∀ n : Coordinate.Numeral, n.text <:+: data.toList → n.Admissible) →
      ∃ ds, (collect (.text data) (.text source) given).1 = .ok ds) := by
  have hreturns : (∃ ds, (collect (.text data) (.text source) given).1 = .ok ds) ↔
      ∀ m ∈ p.matchesIn (Pattern.textOf data), ∀ raw, p.CoordinateCapture data m raw →
        Coordinate.Readable raw := by
    simp only [collect_eq hoptions hp, mapError_eq_ok_iff, diagnosticsIn, exists_mapM_ok_iff,
      exists_diagnosticOf_iff]
  refine ⟨hreturns, fun e he => ?_, fun hdata => hreturns.mpr fun m _ raw hraw n hn => ?_⟩
  · rw [collect_eq hoptions hp, mapError_eq_error_iff] at he
    obtain ⟨e', hall, rfl⟩ := he
    obtain ⟨m, hm, herror⟩ := mapM_eq_error hall
    obtain ⟨raw, n, hcapture, hn, hrefused, hkind⟩ := refused_of_diagnosticOf herror
    exact ⟨m, hm, raw, n, hcapture, hn, hrefused, hkind.imp (congrArg _) (congrArg _)⟩
  · exact hdata n (hn ▸ hraw.infix)

/-- A line and its place: the captures are numerals that may be read. -/
theorem collect_returns_place :
    ∃ options p, ParseOptions.ofValue .null = .ok options ∧
      Pattern.compile "(?<line>.):(?<col>.*)" options.flags = .ok p ∧
      ∀ m ∈ p.matchesIn (Pattern.textOf "3: 14"), ∀ raw, p.CoordinateCapture "3: 14" m raw →
        Coordinate.Readable raw := by
  let p : Pattern :=
    ⟨"(?<line>.):(?<col>.*)", "g", ⟨.seq (.capture 1 .any) (.seq (.char 0x3A)
      (.capture 2 (.loop .greedy 0 none .any))), { ascii := true }, 2, [("line", 1), ("col", 2)]⟩,
      false⟩
  have hoptions : ParseOptions.ofValue .null = .ok {} := rfl
  have hp : Pattern.compile "(?<line>.):(?<col>.*)" "" = .ok p :=
    ok_of_toOption (by decide +kernel)
  have hds : (collect (.text "3: 14") (.text "(?<line>.):(?<col>.*)") .null).1 = .ok
      [⟨none, none, none, ⟨⟨2, 13⟩, ⟨2, 13⟩⟩⟩] :=
    ok_of_toOption (by decide +kernel)
  exact ⟨{}, p, hoptions, hp, (collect_returns_iff hoptions hp).1.mp ⟨_, hds⟩⟩

/-- A control character that counts as white space, but not around numbers. -/
theorem collect_fails_on_separator :
    ∃ options p, ParseOptions.ofValue .null = .ok options ∧
      Pattern.compile "(?<line>.1)" options.flags = .ok p ∧
      (collect (.text "\x1c1") (.text "(?<line>.1)") .null).1 =
        .error (.coordinate (.unreadable "\x1c1")) :=
  ⟨{}, ⟨"(?<line>.1)", "g", ⟨.capture 1 (.seq .any (.char 0x31)), { ascii := true }, 1,
    [("line", 1)]⟩, false⟩, rfl, ok_of_toOption (by decide +kernel), by decide +kernel⟩

/-- What is collected is one diagnostic for each match, in their order, with what the match says.
The record of a match is never refused: checking each record changes nothing, whether diagnostics
are collected or not. -/
theorem collect_describes_matches (hoptions : ParseOptions.ofValue given = .ok options)
    (hp : Pattern.compile source options.flags = .ok p) :
    (∀ ds, (collect (.text data) (.text source) given).1 = .ok ds →
      ds.length = (p.matchesIn (Pattern.textOf data)).length ∧
      List.Forall₂ (p.Describes data options.filePath)
        (p.matchesIn (Pattern.textOf data)) ds) ∧
    (∀ faults, checkedIn p data options.filePath ≠ .error (.refused faults)) ∧
    ∃ outcome : Except CoordinateError (List Diagnostic),
      checkedIn p data options.filePath = outcome.mapError .coordinate ∧
      (collect (.text data) (.text source) given).1 = outcome.mapError .coordinate := by
  refine ⟨fun ds hds => ?_, fun faults h => ?_,
    diagnosticsIn p data options.filePath, checkedIn_eq .., collect_eq hoptions hp⟩
  · rw [collect_eq hoptions hp, mapError_eq_ok_iff, diagnosticsIn, mapM_eq_ok_iff] at hds
    exact ⟨hds.length_eq.symm, hds.imp fun _ _ => describes_of_diagnosticOf⟩
  · rw [checkedIn_eq, mapError_eq_error_iff] at h
    obtain ⟨e, -, h⟩ := h
    cases h

/-- An empty file is the default one, an empty message stays. -/
theorem collect_describes_empty_captures :
    ∃ options p, ParseOptions.ofValue (.record [("filePath", .text "a.c")]) = .ok options ∧
      Pattern.compile "(?<file>.?):(?<line>.):(?<message>.*)" options.flags = .ok p ∧
      List.Forall₂ (p.Describes ":3:" (some "a.c")) (p.matchesIn (Pattern.textOf ":3:"))
        [⟨none, some "", some "a.c", ⟨⟨2, 0⟩, ⟨2, 0⟩⟩⟩] := by
  let p : Pattern :=
    ⟨"(?<file>.?):(?<line>.):(?<message>.*)", "g",
      ⟨.seq (.capture 1 (.loop .greedy 0 (some 1) .any)) (.seq (.char 0x3A)
        (.seq (.capture 2 .any) (.seq (.char 0x3A) (.capture 3 (.loop .greedy 0 none .any))))),
        { ascii := true }, 3, [("file", 1), ("line", 2), ("message", 3)]⟩, false⟩
  have hoptions : ParseOptions.ofValue (.record [("filePath", .text "a.c")]) =
      .ok ⟨"", some "a.c"⟩ := ok_of_toOption (by decide +kernel)
  have hp : Pattern.compile "(?<file>.?):(?<line>.):(?<message>.*)" "" = .ok p :=
    ok_of_toOption (by decide +kernel)
  have hds : (collect (.text ":3:") (.text "(?<file>.?):(?<line>.):(?<message>.*)")
      (.record [("filePath", .text "a.c")])).1 =
        .ok [⟨none, some "", some "a.c", ⟨⟨2, 0⟩, ⟨2, 0⟩⟩⟩] :=
    ok_of_toOption (by decide +kernel)
  exact ⟨_, p, hoptions, hp, ((collect_describes_matches hoptions hp).1 _ hds).2⟩

end Collect

end Linting
